import Dzta.Fabric.Status

/-!
# The check of a credential among other writers

`verify_credential_active` asks twice: for the flag, and then for the metadata, of which it looks at
the expiry only.  While it runs, others write to the channel (`Gateway.amidWriters`): before each
query a batch of their transactions is ordered, possibly none.

The two queries are no snapshot, so an approval can be stale.
**`verifyCredentialActive_fresh_iff`** says when: the metadata of an approval is never that of a
revoked credential, through whatever gateway, exactly if no revocation falls between the queries
and stays in force up to the second one.
-/

namespace DZTA

open GoJson

/-! ## Other writers

Before each call others may have written, one batch for each call. -/

/-- A channel to which others write: its history, and the batches of transactions that they have
ordered by the time of each of the calls that follow. -/
abbrev BusyChannel := List Transaction × List (List Transaction)

/-- An operation after the next batch. -/
def afterBatch {α : Type} (x : FabricM (List Transaction) α) : FabricM BusyChannel α :=
  fun (txs, batches) =>
    let (result, txs') := x (txs ++ batches.headD [])
    (result, txs', batches.tail)

/-- A gateway to a channel to which others write. -/
def Gateway.amidWriters (fabric : Gateway (List Transaction)) : Gateway BusyChannel where
  invokeChaincode function args := afterBatch (fabric.invokeChaincode function args)
  queryChaincode function args := afterBatch (fabric.queryChaincode function args)

namespace FabricClient

variable {fabric : Gateway (List Transaction)} {serde : SerdeJson} {now : DateTime} {id : String}
  {txs before between : List Transaction} {rest : List (List Transaction)}

lemma queryAs_amidWriters {α : Type} (deserialize : Json → Option α) (function : String)
    (args : List String) :
    queryAs fabric.amidWriters serde deserialize function args =
      afterBatch (queryAs fabric serde deserialize function args) := by
  funext channel
  obtain ⟨txs, batches⟩ := channel
  rcases hreply : fabric.queryChaincode function args (txs ++ batches.headD []) with
    ⟨e | payload, txs'⟩
  · have hbusy : fabric.amidWriters.queryChaincode function args (txs, batches) =
        (.error e, txs', batches.tail) := by
      simp only [Gateway.amidWriters, afterBatch, hreply]
    rw [queryAs, EffectM.bind_of_eq_error hbusy, afterBatch, queryAs,
      EffectM.bind_of_eq_error hreply]
  · have hbusy : fabric.amidWriters.queryChaincode function args (txs, batches) =
        (.ok payload, txs', batches.tail) := by
      simp only [Gateway.amidWriters, afterBatch, hreply]
    rw [queryAs, EffectM.bind_of_eq_ok hbusy, afterBatch, queryAs, EffectM.bind_of_eq_ok hreply]
    rfl

variable (serde id txs before between rest)

/-- The first query sees the batch before it. -/
lemma isCredentialRevoked_amidWriters (hserves : fabric.Serves) :
    isCredentialRevoked fabric.amidWriters serde id (txs, before :: rest) =
      ((isCredentialRevoked fabric serde id (txs ++ before)).1, (txs ++ before, rest)) := by
  rw [isCredentialRevoked, queryAs_amidWriters]
  exact congrArg (fun txs' => (_, (txs', rest))) (queryAs_unchanged hserves (txs ++ before))

lemma getCredentialMetadata_amidWriters (hserves : fabric.Serves) :
    getCredentialMetadata fabric.amidWriters serde id (txs, between :: rest) =
      ((getCredentialMetadata fabric serde id (txs ++ between)).1, (txs ++ between, rest)) := by
  rw [getCredentialMetadata, queryAs_amidWriters]
  exact congrArg (fun txs' => (_, (txs', rest))) (queryAs_unchanged hserves (txs ++ between))

/-- **An approval**: the flag was not set at the first query, and the expiry at the second one is
not in the past. -/
lemma verifyCredentialActive_amidWriters_iff (hserves : fabric.Serves) :
    (verifyCredentialActive fabric.amidWriters serde now id
        (txs, before :: between :: rest)).1 = .ok true ↔
      (isCredentialRevoked fabric serde id (txs ++ before)).1 = .ok false ∧
      ∃ metadata, (getCredentialMetadata fabric serde id (txs ++ before ++ between)).1 =
          .ok metadata ∧ now.seconds ≤ metadata.expiresAt := by
  have hfirst := isCredentialRevoked_amidWriters serde id txs before (between :: rest) hserves
  have hsecond := getCredentialMetadata_amidWriters serde id (txs ++ before) between rest hserves
  rw [verifyCredentialActive]
  cases hrevoked : (isCredentialRevoked fabric serde id (txs ++ before)).1 with
  | error e =>
    rw [hrevoked] at hfirst
    rw [EffectM.bind_of_eq_error hfirst]
    simp
  | ok revoked =>
    rw [hrevoked] at hfirst
    rw [EffectM.bind_of_eq_ok hfirst]
    cases revoked with
    | true => simp [FabricM.ofResult]
    | false =>
      simp only [Bool.false_eq_true, if_false, true_and]
      cases hmetadata : (getCredentialMetadata fabric serde id (txs ++ before ++ between)).1 with
      | error e =>
        rw [hmetadata] at hsecond
        rw [EffectM.bind_of_eq_error hsecond]
        simp
      | ok metadata =>
        rw [hmetadata] at hsecond
        rw [EffectM.bind_of_eq_ok hsecond]
        by_cases hexpired : metadata.expiresAt < now.seconds
        · simp [hexpired, FabricM.ofResult, Int64.not_le.mpr hexpired]
        · simp [hexpired, Int64.not_lt.mp hexpired]

end FabricClient

/-! ## Stale approvals

A revocation between the two queries is not noticed. -/

/-- A revocation falls between two states of the channel: the credential is not revoked in the first
one, a revocation commits on the way to the second one with no record of the credential after it,
and there the credential has not expired. -/
structure RevokedBetween (now : DateTime) (txs between : List Transaction) (id : GoString) :
    Prop where
  active : ∃ m, registries txs .credential id = some m ∧ m.revoked = false
  revoked : ∃ pre tx post,
    Machine.accepted Ledger.submit Except.isOk (ledger txs) between = pre ++ tx :: post ∧
    tx.operation = .revokeCredential id ∧ ∀ t ∈ post, t.operation.recorded? ≠ some id
  unexpired : ∀ m, registries (txs ++ between) .credential id = some m →
    now.seconds ≤ m.expiresAt

lemma committed_append (txs between : List Transaction) :
    committed (txs ++ between) =
      committed txs ++ Machine.accepted Ledger.submit Except.isOk (ledger txs) between :=
  Machine.accepted_append _ _ _ _ _

/-- What falls between is what the registry shows of it. -/
lemma revokedBetween_iff {now : DateTime} {txs between : List Transaction} {id : GoString} :
    RevokedBetween now txs between id ↔
      (∃ m, registries txs .credential id = some m ∧ m.revoked = false) ∧
      ∃ m, registries (txs ++ between) .credential id = some m ∧ m.revoked = true ∧
        now.seconds ≤ m.expiresAt := by
  constructor
  · rintro ⟨hactive, ⟨pre, tx, post, hlog, hop, hpost⟩, hunexpired⟩
    have hcommitted : committed (txs ++ between) = (committed txs ++ pre) ++ tx :: post := by
      rw [committed_append, hlog, List.append_assoc]
    obtain ⟨m, hm, hrevoked⟩ := credential_of_last_revoked hcommitted hop hpost
    exact ⟨hactive, m, hm, hrevoked, hunexpired m hm⟩
  · rintro ⟨⟨m, hm, hactive⟩, m', hm', hrevoked, hexpiry⟩
    refine ⟨⟨m, hm, hactive⟩, ?_, ?_⟩
    · refine exists_revoked_of_credential (r := registries txs) ?_ (m := m') ?_ hrevoked
      · intro m'' hm''
        rwa [← Option.some.inj (hm.symm.trans hm'')]
      · rwa [registries, ← List.foldl_append, ← committed_append]
    · intro m'' hm''
      rwa [← Option.some.inj (hm'.symm.trans hm'')]

/-- An approval through a gateway at which nothing fails, and what it has received. -/
lemma exists_stale_approval (serde : SerdeJson) (now : DateTime) {id : String}
    (txs before between : List Transaction) (rest : List (List Transaction))
    {m m' : CredentialMetadata}
    (hm : registries (txs ++ before) .credential (.ofString id) = some m)
    (hactive : m.revoked = false)
    (hm' : registries (txs ++ before ++ between) .credential (.ofString id) = some m')
    (hexpiry : now.seconds ≤ m'.expiresAt) :
    ∃ metadata, (FabricClient.verifyCredentialActive (Gateway.direct 0).amidWriters serde now id
        (txs, before :: between :: rest)).1 = .ok true ∧
      (FabricClient.getCredentialMetadata (Gateway.direct 0).amidWriters serde id
        (FabricClient.isCredentialRevoked (Gateway.direct 0).amidWriters serde id
          (txs, before :: between :: rest)).2).1 = .ok metadata ∧
      metadata.revoked = m'.revoked := by
  have hserves := Gateway.serves_direct 0
  have hrevoked :=
    isCredentialRevoked_of_recorded serde (Gateway.answers_direct 0 (txs ++ before)) hm
  rw [hactive] at hrevoked
  obtain ⟨metadata, hexpires, hmetadata⟩ := getCredentialMetadata_of_credential serde
    (Gateway.answers_direct 0 (txs ++ before ++ between)) hm'
  have hsecond := congrArg Prod.fst hmetadata
  obtain ⟨m'', hm'', hsame, -⟩ := getCredentialMetadata_eq_ok serde hserves hsecond
  obtain rfl := Option.some.inj (hm'.symm.trans hm'')
  refine ⟨metadata, ?_, ?_, hsame⟩
  · rw [FabricClient.verifyCredentialActive_amidWriters_iff _ _ _ _ _ _ hserves]
    exact ⟨congrArg Prod.fst hrevoked, metadata, hsecond, hexpires ▸ hexpiry⟩
  · rw [FabricClient.isCredentialRevoked_amidWriters _ _ _ _ _ hserves,
      FabricClient.getCredentialMetadata_amidWriters _ _ _ _ _ hserves]
    exact hsecond

/-- **When an approval is fresh.**  For a credential, a clock, and what others commit before the
first query, between the two and after them: the metadata that an approval has received has its
flag unset, through whatever gateway serves the channel, if and only if no revocation falls
between the queries. -/
theorem verifyCredentialActive_fresh_iff (serde : SerdeJson) (now : DateTime) (id : String)
    (txs before between : List Transaction) (rest : List (List Transaction)) :
    (∀ (fabric : Gateway (List Transaction)) (metadata : Shared.CredentialMetadata),
      fabric.Serves →
      (FabricClient.verifyCredentialActive fabric.amidWriters serde now id
        (txs, before :: between :: rest)).1 = .ok true →
      (let first := FabricClient.isCredentialRevoked fabric.amidWriters serde id
        (txs, before :: between :: rest)
      (FabricClient.getCredentialMetadata fabric.amidWriters serde id first.2).1 =
        .ok metadata) →
      metadata.revoked = false) ↔
      ¬ RevokedBetween now (txs ++ before) between (.ofString id) := by
  rw [revokedBetween_iff]
  constructor
  · rintro hfresh ⟨⟨m, hm, hactive⟩, m', hm', hrevoked, hexpiry⟩
    obtain ⟨metadata, hverify, hsecond, hflag⟩ :=
      exists_stale_approval serde now txs before between rest hm hactive hm' hexpiry
    rw [hfresh _ metadata (Gateway.serves_direct 0) hverify hsecond, hrevoked] at hflag
    cases hflag
  · intro hnot fabric metadata hserves hverify hsecond
    rw [FabricClient.verifyCredentialActive_amidWriters_iff _ _ _ _ _ _ hserves] at hverify
    obtain ⟨hrevoked, metadata', hmetadata, hexpiry⟩ := hverify
    dsimp only at hsecond
    rw [FabricClient.isCredentialRevoked_amidWriters _ _ _ _ _ hserves,
      FabricClient.getCredentialMetadata_amidWriters _ _ _ _ _ hserves, hmetadata] at hsecond
    obtain rfl := Except.ok.inj hsecond
    obtain ⟨m, hm, hactive⟩ := isCredentialRevoked_eq_ok serde hserves hrevoked
    obtain ⟨m', hm', hsame, hexpires⟩ := getCredentialMetadata_eq_ok serde hserves hmetadata
    rw [hexpires] at hexpiry
    rw [hsame]
    by_contra hset
    exact hnot ⟨⟨m, hm, hactive⟩, m', hm', Bool.not_eq_false _ ▸ hset, hexpiry⟩

/-- A credential is recorded, active for some time. -/
def activeRecord : Transaction :=
  .faultless (.recordCredentialMetadata (.ofString "vc-1") [] [] [] 2000000000) 1700000000

/-- It is revoked. -/
def activeRevocation : Transaction :=
  .faultless (.revokeCredential (.ofString "vc-1")) 1700000001

/-- **A stale approval**: the credential is revoked between the queries, and the check approves. -/
theorem verifyCredentialActive_stale :
    ¬ ∀ (fabric : Gateway (List Transaction)) (serde : SerdeJson) (now : DateTime) (id : String)
        (txs before between : List Transaction) (rest : List (List Transaction))
        (metadata : Shared.CredentialMetadata),
        fabric.Serves →
        (FabricClient.verifyCredentialActive fabric.amidWriters serde now id
          (txs, before :: between :: rest)).1 = .ok true →
        (let first := FabricClient.isCredentialRevoked fabric.amidWriters serde id
          (txs, before :: between :: rest)
        (FabricClient.getCredentialMetadata fabric.amidWriters serde id first.2).1 =
          .ok metadata) →
        metadata.revoked = false := by
  intro hclaim
  have hrecord : committed [activeRecord] = [] ++ activeRecord :: [] :=
    committed_concat_record [] _ _ _ _ _ _
  have hm := credential_of_recorded hrecord rfl (by simp)
  have hlog : committed ([] ++ [activeRecord] ++ [activeRevocation]) =
      [] ++ activeRecord :: [activeRevocation] :=
    (committed_concat_revoke 1700000001 hm).trans (congrArg (· ++ _) hrecord)
  have hm' := credential_of_recorded hlog rfl
    (by simp [activeRevocation, Transaction.faultless, Operation.recorded?])
  obtain ⟨metadata, hverify, hsecond, hflag⟩ := exists_stale_approval .strict
    ⟨1800000000, 0⟩ [] [activeRecord] [activeRevocation] [] hm rfl hm' (by decide)
  have hfresh := hclaim _ _ _ _ _ _ _ _ metadata (Gateway.serves_direct 0) hverify hsecond
  rw [hfresh] at hflag
  exact absurd hflag (by simp [activeRevocation, Transaction.faultless, Operation.revoked?])

end DZTA
