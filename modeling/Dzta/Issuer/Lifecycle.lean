import Dzta.Fabric.Status
import Dzta.Issuer.Issuance

/-!
# The life of a credential

Runs of the issuer: credentials are created and revoked, in any order and any number, through
gateways of which any call may fail.  The state of a run is the history of the channel.

A call appends at most the one transaction it is for (`IssuerCall.effect`), so after a run the
ledger has recorded only ids that were generated in it, each once.  With that the check before a
proof is exact (`credential_lifecycle`): **a credential that was returned is active up to its
expiry and until a revocation of it is committed**, and no other id is.
-/

namespace DZTA

open GoJson

/-! ## Calls

Issuers create and revoke, each with a client of its own. -/

/-- `revoke_credential`, which drops the id of the transaction. -/
def Issuer.revokeCredential {σ : Type} (issuer : Issuer σ) (credentialId : String) :
    FabricM σ Unit := do
  let _ ← FabricClient.revokeCredential issuer.fabric credentialId
  return ()

/-- One call of `create_credential` with its arguments. -/
structure Creation where
  issuer : Issuer (List Transaction)
  call : Issuance
  schemaId : String
  issuerDid : String
  subjectDid : String
  attributes : CredentialAttributes
  expiresAtUnix : Int64

/-- A call of the issuer. -/
inductive IssuerCall where
  | createCredential (creation : Creation)
  | revokeCredential (issuer : Issuer (List Transaction)) (credentialId : String)

namespace IssuerCall

/-- The gateway of a call. -/
def fabric : IssuerCall → Gateway (List Transaction)
  | createCredential creation => creation.issuer.fabric
  | revokeCredential issuer _ => issuer.fabric

/-- The id that a call generates. -/
def generated? : IssuerCall → Option String
  | createCredential creation => some creation.call.credentialId
  | revokeCredential _ _ => none

/-- Makes a call. -/
def perform : IssuerCall → FabricM (List Transaction) (Option IssuedCredential)
  | createCredential creation => do
    let issued ← DZTA.createCredential creation.issuer creation.call creation.schemaId
      creation.issuerDid creation.subjectDid creation.attributes creation.expiresAtUnix
    return some issued
  | revokeCredential issuer credentialId => do
    issuer.revokeCredential credentialId
    return none

/-- The history after a call, and what the call returns. -/
def submit (txs : List Transaction) (call : IssuerCall) :
    List Transaction × WalletResult (Option IssuedCredential) :=
  ((call.perform txs).2, (call.perform txs).1)

end IssuerCall

/-! ## What a call does

It adds what it stands for to the ledger, or nothing, or its reply is lost. -/

/-- The transaction of a creation. -/
def Creation.operation (creation : Creation) : Operation :=
  .recordCredentialMetadata (.ofString creation.call.credentialId) (.ofString creation.schemaId)
    (.ofString creation.issuerDid) (.ofString creation.subjectDid) creation.expiresAtUnix

/-- What a creation returns: the id that was generated, with an expiry that lies ahead. -/
def Creation.Returns (creation : Creation) (issued : IssuedCredential) : Prop :=
  issued.credentialId = creation.call.credentialId ∧
    creation.call.now.seconds < creation.expiresAtUnix

lemma ofProposal_record (creation : Creation) :
    Operation.ofProposal "RecordCredentialMetadata" [creation.call.credentialId, creation.schemaId,
      creation.issuerDid, creation.subjectDid, toString creation.expiresAtUnix] =
        some creation.operation := by
  rw [Operation.ofProposal, Contractapi.convertInt64_toString]
  rfl

/-- **What a creation does.**  Every step before the last one leaves the channel alone. -/
lemma appends_createCredential {creation : Creation} (hserves : creation.issuer.fabric.Serves)
    (txs : List Transaction) :
    Appends txs creation.operation creation.issuer.fabric.Reports creation.Returns
      (createCredential creation.issuer creation.call creation.schemaId creation.issuerDid
        creation.subjectDid creation.attributes creation.expiresAtUnix txs) := by
  have herror : ∀ e, Appends txs creation.operation creation.issuer.fabric.Reports
      creation.Returns (.error e, txs) := .noEffect
  rw [createCredential, createCredentialBy]
  split
  · exact herror _
  split
  · exact herror _
  rename_i hexpiry
  refine EffectM.bind_of_unchanged (FabricClient.queryAs_unchanged hserves txs) herror ?_
  intro schema _
  refine EffectM.bind_of_unchanged rfl herror ?_
  intro _ _
  refine EffectM.bind_of_unchanged rfl herror ?_
  intro expiresAt _
  refine EffectM.bind_of_unchanged rfl herror ?_
  intro signingInput _
  refine EffectM.bind_of_unchanged rfl herror ?_
  intro signature _
  refine Appends.bind_pure (.of_invoke hserves (ofProposal_record creation)) ?_
  intro _ _
  exact ⟨rfl, Int64.not_le.mp hexpiry⟩

namespace IssuerCall

/-- The transaction of a call. -/
def operation : IssuerCall → Operation
  | createCredential creation => creation.operation
  | revokeCredential _ credentialId => .revokeCredential (.ofString credentialId)

/-- What a call returns. -/
def Returns : IssuerCall → Option IssuedCredential → Prop
  | createCredential creation, result => ∃ issued, result = some issued ∧ creation.Returns issued
  | revokeCredential _ _, result => result = none

/-- **What a call does**: its transaction or nothing. -/
theorem appends {call : IssuerCall} (hserves : call.fabric.Serves) (txs : List Transaction) :
    Appends txs call.operation call.fabric.Reports call.Returns (call.perform txs) := by
  cases call with
  | createCredential creation =>
    exact (appends_createCredential hserves txs).bind_pure fun issued h => ⟨issued, rfl, h⟩
  | revokeCredential issuer credentialId =>
    have hinvoke : Appends txs (.revokeCredential (.ofString credentialId)) issuer.fabric.Reports
        (fun _ => True) (FabricClient.revokeCredential issuer.fabric credentialId txs) :=
      .of_invoke hserves rfl
    have hrevoke : Appends txs (.revokeCredential (.ofString credentialId)) issuer.fabric.Reports
        (fun _ => True) (issuer.revokeCredential credentialId txs) :=
      hinvoke.bind_pure fun _ _ => trivial
    exact hrevoke.bind_pure fun _ _ => rfl

lemma exists_log {call : IssuerCall} (hserves : call.fabric.Serves) (txs : List Transaction) :
    ∃ log, committed (submit txs call).1 = committed txs ++ log ∧
      (∀ t ∈ log, t.operation = call.operation ∧
        (call.fabric.Reports → ∃ result, (submit txs call).2 = .ok result ∧
          call.Returns result)) ∧
      ∀ result, (submit txs call).2 = .ok result → call.Returns result ∧ ∃ t, log = [t] :=
  (appends hserves txs).exists_log

end IssuerCall

/-! ## Runs

Each transaction of a run comes from a call, and each result tells of the transaction. -/

/-- A transaction is that of a call of the run, which succeeded as far as commits are reported. -/
def OfCall (txs : List Transaction) (calls : List IssuerCall) (t : Transaction) : Prop :=
  ∃ e ∈ Machine.trace IssuerCall.submit txs calls, t.operation = e.1.operation ∧
    (e.1.fabric.Reports → ∃ result, e.2 = .ok result ∧ e.1.Returns result)

/-- **What a run adds to the ledger**: transactions of its calls. -/
theorem committed_run {calls : List IssuerCall} (hserves : ∀ c ∈ calls, c.fabric.Serves)
    (txs : List Transaction) :
    ∃ log, committed (Machine.run IssuerCall.submit txs calls) = committed txs ++ log ∧
      ∀ t ∈ log, OfCall txs calls t := by
  induction calls generalizing txs with
  | nil => exact ⟨[], by simp, fun t ht => absurd ht List.not_mem_nil⟩
  | cons call calls ih =>
    obtain ⟨log₁, hlog₁, hcall, -⟩ := IssuerCall.exists_log (hserves call List.mem_cons_self) txs
    obtain ⟨log₂, hlog₂, hcalls⟩ :=
      ih (fun c hc => hserves c (List.mem_cons_of_mem _ hc)) (IssuerCall.submit txs call).1
    refine ⟨log₁ ++ log₂, ?_, ?_⟩
    · rw [Machine.run_cons, hlog₂, hlog₁, List.append_assoc]
    · intro t ht
      rcases List.mem_append.mp ht with ht | ht
      · exact ⟨_, List.mem_cons_self, hcall t ht⟩
      · obtain ⟨e, he, h⟩ := hcalls t ht
        exact ⟨e, List.mem_cons_of_mem _ he, h⟩

lemma generated?_of_recorded {call : IssuerCall} {id : String}
    (h : call.operation.recorded? = some (.ofString id)) : call.generated? = some id := by
  cases call with
  | createCredential creation =>
    have hid := Bytes.utf8_injective (Option.some.inj h)
    rw [IssuerCall.generated?, hid]
  | revokeCredential issuer credentialId => cases h

lemma not_recorded_of_not_generated {calls : List IssuerCall} {txs log : List Transaction}
    {id : String} (hid : id ∉ calls.filterMap IssuerCall.generated?)
    (hlog : ∀ t ∈ log, OfCall txs calls t) :
    ∀ t ∈ log, t.operation.recorded? ≠ some (.ofString id) := by
  intro t ht hrecorded
  obtain ⟨e, he, hop, -⟩ := hlog t ht
  rw [hop] at hrecorded
  exact hid (List.mem_filterMap.mpr
    ⟨e.1, Machine.mem_of_mem_trace _ he, generated?_of_recorded hrecorded⟩)

section Run

variable {txs : List Transaction} {calls : List IssuerCall} {creation : Creation}
  {issued : IssuedCredential}
  {pre post : List (IssuerCall × WalletResult (Option IssuedCredential))}
  (hempty : ∀ t ∈ committed txs, t.operation.recorded? = none)
  (hserves : ∀ c ∈ calls, c.fabric.Serves)
  (hfresh : (calls.filterMap IssuerCall.generated?).Nodup)
  (htrace : Machine.trace IssuerCall.submit txs calls =
    pre ++ (.createCredential creation, .ok (some issued)) :: post)

include hempty hserves hfresh htrace

/-- **A creation that returned is recorded once**: the ledger after the run has its transaction, and
none before or after it records the id. -/
lemma exists_record_of_created : creation.Returns issued ∧ ∃ log₁ tx log₂,
      committed (Machine.run IssuerCall.submit txs calls) = log₁ ++ tx :: log₂ ∧
      tx.operation = creation.operation ∧
      (∀ t ∈ log₁ ++ log₂, t.operation.recorded? ≠ some (.ofString issued.credentialId)) ∧
      (post = [] → log₂ = []) := by
  obtain ⟨calls₁, calls₂, hcalls, -, hout, hpost⟩ := Machine.exists_of_trace_eq _ htrace
  dsimp only at hcalls hout hpost
  subst hcalls
  have hserve := fun c hc => hserves c (List.mem_append_right calls₁ hc)
  obtain ⟨log₁, hlog₁, hcalls₁⟩ :=
    committed_run (fun c hc => hserves c (List.mem_append_left _ hc)) txs
  generalize htxs₁ : Machine.run IssuerCall.submit txs calls₁ = txs₁ at *
  obtain ⟨log, hlog, hcall, hresult⟩ := IssuerCall.exists_log (hserve _ List.mem_cons_self) txs₁
  obtain ⟨⟨issued', hsome, hreturns⟩, tx, rfl⟩ := hresult _ hout.symm
  obtain rfl := Option.some.inj hsome
  obtain ⟨log₂, hlog₂, hcalls₂⟩ := committed_run
    (fun c hc => hserve c (List.mem_cons_of_mem _ hc))
    (IssuerCall.submit txs₁ (.createCredential creation)).1
  -- the id is generated in this call and in no other
  rw [List.filterMap_append, List.filterMap_cons_some (show IssuerCall.generated?
    (.createCredential creation) = some issued.credentialId from congrArg some hreturns.1.symm),
    List.nodup_middle, List.nodup_cons, List.mem_append, not_or] at hfresh
  refine ⟨hreturns, committed txs ++ log₁, tx, log₂, ?_, (hcall tx (List.mem_singleton_self tx)).1,
    ?_, ?_⟩
  · rw [Machine.run_append, htxs₁, Machine.run_cons, hlog₂, hlog, ← hlog₁, List.append_assoc,
      List.singleton_append]
  · intro t ht hrecorded
    rcases List.mem_append.mp ht with ht | ht
    · rcases List.mem_append.mp ht with ht | ht
      · rw [hempty t ht] at hrecorded
        cases hrecorded
      · exact not_recorded_of_not_generated hfresh.1.1 hcalls₁ t ht hrecorded
    · exact not_recorded_of_not_generated hfresh.1.2 hcalls₂ t ht hrecorded
  · intro hend
    rw [hend] at hpost
    refine List.eq_nil_iff_forall_not_mem.mpr fun t ht => ?_
    obtain ⟨e, he, -⟩ := hcalls₂ t ht
    rw [hpost] at he
    exact List.not_mem_nil he

/-- **The check of a credential that was returned.** -/
lemma verify_of_created {fabric : Gateway (List Transaction)} (serde : SerdeJson) (now : DateTime)
    (hanswers : fabric.Answers (Machine.run IssuerCall.submit txs calls)) :
    ((FabricClient.verifyCredentialActive fabric serde now issued.credentialId
        (Machine.run IssuerCall.submit txs calls)).1 = .ok true ↔
      (∀ t ∈ committed (Machine.run IssuerCall.submit txs calls),
        t.operation ≠ .revokeCredential (.ofString issued.credentialId)) ∧
      now.seconds ≤ creation.expiresAtUnix) := by
  obtain ⟨hreturns, log₁, tx, log₂, hlog, hop, hnorecord, -⟩ :=
    exists_record_of_created hempty hserves hfresh htrace
  rw [Creation.operation, ← hreturns.1] at hop
  have hm := credential_of_recorded hlog hop
    fun t ht => hnorecord t (List.mem_append_right _ ht)
  have hrevoke := forall_ne_revoke_iff hlog (by rw [hop]; rfl)
    fun t ht => hnorecord t (List.mem_append_left _ ht)
  rw [FabricClient.verifyCredentialActive_eq_ok_iff serde now hanswers hm, hrevoke]

end Run

/-- **The life of a credential.**  On a ledger that starts without credentials, after any calls with
ids of their own: a credential that was returned has an expiry that lay ahead, and it passes the
check exactly while no revocation of it is committed and it has not expired, so right after its
creation it does.  The check never answers `false`, and it is an error for every id that was not
recorded, hence for every id that was not returned where commits are reported. -/
theorem credential_lifecycle {txs : List Transaction} {calls : List IssuerCall}
    (hempty : ∀ t ∈ committed txs, t.operation.recorded? = none)
    (hserves : ∀ c ∈ calls, c.fabric.Serves)
    (hfresh : (calls.filterMap IssuerCall.generated?).Nodup) {fabric : Gateway (List Transaction)}
    (hfabric : fabric.Serves) (serde : SerdeJson) (now : DateTime) :
    let final := Machine.run IssuerCall.submit txs calls
    let check := fun id => (FabricClient.verifyCredentialActive fabric serde now id final).1
    (∀ pre creation issued post,
      Machine.trace IssuerCall.submit txs calls =
        pre ++ (.createCredential creation, .ok (some issued)) :: post →
      creation.call.now.seconds < creation.expiresAtUnix ∧
      (fabric.Answers final →
        (check issued.credentialId = .ok true ↔
          (∀ t ∈ committed final,
            t.operation ≠ .revokeCredential (.ofString issued.credentialId)) ∧
          now.seconds ≤ creation.expiresAtUnix) ∧
        (post = [] → now = creation.call.now → check issued.credentialId = .ok true))) ∧
    (∀ id, check id ≠ .ok false) ∧
    (∀ id, (∀ t ∈ committed final, t.operation.recorded? ≠ some (.ofString id)) →
      ∃ e, check id = .error e) ∧
    ((∀ c ∈ calls, c.fabric.Reports) →
      ∀ id, (∀ e ∈ Machine.trace IssuerCall.submit txs calls, ∀ issued,
          e.2 = .ok (some issued) → issued.credentialId ≠ id) →
        ∃ e, check id = .error e) := by
  intro final check
  have hunrecorded : ∀ id, (∀ t ∈ committed final,
      t.operation.recorded? ≠ some (.ofString id)) → ∃ e, check id = .error e :=
    fun id h => FabricClient.verifyCredentialActive_of_not_recorded serde now hfabric
      (credential_of_not_recorded h)
  refine ⟨?_, ?_, hunrecorded, ?_⟩
  · intro pre creation issued post htrace
    obtain ⟨hreturns, log₁, tx, log₂, hlog, hop, hnorecord, hlast⟩ :=
      exists_record_of_created hempty hserves hfresh htrace
    refine ⟨hreturns.2, fun hanswers => ?_⟩
    have hcheck := verify_of_created hempty hserves hfresh htrace serde now hanswers
    refine ⟨hcheck, ?_⟩
    rintro hpost rfl
    have hrecorded : tx.operation.recorded? = some (.ofString issued.credentialId) := by
      rw [hop, hreturns.1]
      rfl
    refine hcheck.mpr ⟨(forall_ne_revoke_iff hlog hrecorded fun t ht =>
      hnorecord t (List.mem_append_left _ ht)).mpr ?_, Int64.le_of_lt hreturns.2⟩
    rw [hlast hpost, List.any_nil]
  · exact fun id => FabricClient.verifyCredentialActive_ne_false fabric serde now id final
  · intro hreports id hid
    refine hunrecorded id fun t ht hrecorded => ?_
    obtain ⟨log, hlog, hcalls⟩ := committed_run hserves txs
    rw [hlog] at ht
    rcases List.mem_append.mp ht with ht | ht
    · rw [hempty t ht] at hrecorded
      cases hrecorded
    · obtain ⟨⟨call, out⟩, he, hop, hresult⟩ := hcalls t ht
      obtain ⟨result, rfl, hreturns⟩ :=
        hresult (hreports call (Machine.mem_of_mem_trace _ he))
      rw [hop] at hrecorded
      cases call with
      | createCredential creation =>
        obtain ⟨issued, rfl, hid', -⟩ := hreturns
        refine hid _ he issued rfl ?_
        rw [hid']
        exact Option.some.inj (generated?_of_recorded hrecorded)
      | revokeCredential issuer credentialId => cases hrecorded

/-! ### A credential that is revoked

The credential of an employee is created, and later it is revoked. -/

/-- A schema without attributes. -/
def staffSchema : Transaction :=
  .faultless (.registerSchema (.ofString "schema-1") (.ofString "did:dzta:issuer")
    (.ofString "Employee") (.ofString "1.0") (.ofString "[]")) 1690000000

lemma parseAttributes_none : parseAttributes (.ofString "[]") = some (some []) := by
  rw [parseAttributes, GoString.ofString, Bytes.utf8Lossy_utf8]
  rfl

lemma committed_staffSchema : committed [staffSchema] = [] ++ staffSchema :: [] := by
  have hok : (Ledger.genesis.submit staffSchema).2.isOk = true :=
    (Ledger.submit_isOk fun _ => rfl).mpr (Option.isSome_iff_exists.mpr ⟨_, parseAttributes_none⟩)
  rw [committed, Machine.accepted_cons, if_pos hok]
  rfl

/-- An issuer in front of the channel. -/
def staffIssuer : Issuer (List Transaction) where
  fabric := .direct 1700000000
  sign _ := .ok "uc2lnbmF0dXJl"
  canonicalize v := .ok (Bytes.utf8 (SerdeJson.toString (Json.canonical v)))
  chrono :=
    { supported := fun seconds => -8334601228800 ≤ seconds ∧ seconds ≤ 8210266876799
      toRfc3339 := fun t =>
        if t.seconds = 1700000000 then "2023-11-14T22:13:20+00:00" else "2033-05-18T03:33:20+00:00"
      isRfc3339 := fun _ => false }
  serde := .strict

def staffCreation : Creation where
  issuer := staffIssuer
  call := ⟨⟨1700000000, 0⟩, "vc-1", ⟨1700000000, 0⟩⟩
  schemaId := "schema-1"
  issuerDid := "did:dzta:issuer"
  subjectDid := "did:dzta:alice"
  attributes := ⟨"auditor", "org-1", 3, 1700000000⟩
  expiresAtUnix := 2000000000

lemma getSchema_staffIssuer :
    FabricClient.getSchema staffIssuer.fabric staffIssuer.serde "schema-1" [staffSchema] =
      (.ok ⟨"schema-1", "did:dzta:issuer", "Employee", "1.0", [], 1690000000⟩, [staffSchema]) := by
  have htext : ∀ t : String, encodeString (Bytes.utf8 t) = .str t := fun t => by
    rw [encodeString, Bytes.utf8Lossy_utf8]
  have hregistered : registries [staffSchema] .schema (.ofString "schema-1") =
      some ⟨.ofString "schema-1", .ofString "did:dzta:issuer", .ofString "Employee",
        .ofString "1.0", some [], 1690000000⟩ := by
    rw [registries_of_last committed_staffSchema fun _ h => absurd h List.not_mem_nil,
      Registries.commit, staffSchema, Transaction.faultless, Registries.perform,
      Registries.set_self, parseAttributes_none]
    rfl
  have heval : (Query.getSchema (.ofString "schema-1")).evaluate (ledger [staffSchema]).state =
      .ok (.obj [("schema_id", .str "schema-1"), ("issuer_did", .str "did:dzta:issuer"),
        ("name", .str "Employee"), ("version", .str "1.0"), ("attributes", .arr []),
        ("created", Json.ofI64 1690000000)]) := by
    rw [Query.evaluate, getSchema_ledger, hregistered]
    simp [CredentialSchema.coerce, CredentialSchema.encode, GoString.ofString, htext, encodeSlice,
      Except.map]
    rfl
  exact FabricClient.queryAs_answers (Gateway.answers_direct _ _) rfl heval (by simp) (by simp)
    (by simp [Shared.CredentialSchema.deserialize, Json.requiredField, Json.asArray?])

lemma recordCredentialMetadata_staffIssuer :
    FabricClient.recordCredentialMetadata staffIssuer.fabric "vc-1" "schema-1" "did:dzta:issuer"
      "did:dzta:alice" 2000000000 [staffSchema] =
        (.ok "committed", [staffSchema, .faultless staffCreation.operation 1700000000]) :=
  Gateway.direct_invokeChaincode (ofProposal_record staffCreation)
    ((Ledger.submit_isOk fun _ => rfl).mpr trivial)

/-- The ledger with the record of the credential. -/
def staffRecorded : List Transaction :=
  [staffSchema, .faultless staffCreation.operation 1700000000]

lemma committed_staffRecorded : committed staffRecorded =
    [staffSchema] ++ .faultless staffCreation.operation 1700000000 :: [] :=
  (committed_concat_record [staffSchema] _ _ _ _ _ _).trans
    (congrArg (· ++ _) committed_staffSchema)

lemma perform_createCredential_staff :
    ∃ issued, (IssuerCall.createCredential staffCreation).perform [staffSchema] =
      (.ok (some issued), staffRecorded) := by
  obtain ⟨issued, hcreate⟩ : ∃ issued, createCredential staffIssuer staffCreation.call "schema-1"
      "did:dzta:issuer" "did:dzta:alice" staffCreation.attributes 2000000000 [staffSchema] =
        (.ok issued, staffRecorded) :=
    createCredential_of_ok (by decide +kernel) (by decide +kernel) getSchema_staffIssuer rfl rfl
      rfl rfl recordCredentialMetadata_staffIssuer
  exact ⟨issued, EffectM.bind_of_eq_ok hcreate⟩

/-- The revocation of the credential. -/
def staffRevocation : IssuerCall := .revokeCredential staffIssuer "vc-1"

lemma perform_revokeCredential {issuer : Issuer (List Transaction)} {id transactionId : String}
    {txs txs' : List Transaction}
    (h : FabricClient.revokeCredential issuer.fabric id txs = (.ok transactionId, txs')) :
    (IssuerCall.revokeCredential issuer id).perform txs = (.ok none, txs') := by
  have hrevoke : issuer.revokeCredential id txs = (.ok (), txs') := EffectM.bind_of_eq_ok h
  exact EffectM.bind_of_eq_ok hrevoke

lemma perform_staffRevocation : staffRevocation.perform staffRecorded =
    (.ok none, staffRecorded ++ [.faultless (.revokeCredential (.ofString "vc-1")) 1700000000]) ∧
    committed (staffRecorded ++ [.faultless (.revokeCredential (.ofString "vc-1")) 1700000000]) =
      committed staffRecorded ++
        [.faultless (.revokeCredential (.ofString "vc-1")) 1700000000] := by
  have hregistered := credential_of_recorded committed_staffRecorded rfl
    fun t ht => absurd ht List.not_mem_nil
  have hok := submit_revoke_isOk 1700000000 hregistered
  have hinvoke : FabricClient.revokeCredential staffIssuer.fabric "vc-1" staffRecorded =
      (.ok "committed",
        staffRecorded ++ [.faultless (.revokeCredential (.ofString "vc-1")) 1700000000]) := by
    rw [FabricClient.revokeCredential]
    exact Gateway.direct_invokeChaincode rfl hok
  exact ⟨perform_revokeCredential hinvoke, committed_concat hok⟩

/-- The creation puts the record on the ledger and returns a credential under this id. -/
lemma submit_staffCreation : ∃ issued,
    IssuerCall.submit [staffSchema] (.createCredential staffCreation) =
      (staffRecorded, .ok (some issued)) ∧ issued.credentialId = "vc-1" := by
  obtain ⟨issued, hcreate⟩ := perform_createCredential_staff
  have hsubmit : IssuerCall.submit [staffSchema] (.createCredential staffCreation) =
      (staffRecorded, .ok (some issued)) := congrArg Prod.swap hcreate
  have hserves : (IssuerCall.createCredential staffCreation).fabric.Serves :=
    Gateway.serves_direct 1700000000
  obtain ⟨_, -, -, hreturns⟩ := IssuerCall.exists_log hserves [staffSchema]
  obtain ⟨⟨issued', hissued, hid, -⟩, -⟩ := hreturns _ (congrArg Prod.snd hsubmit)
  refine ⟨issued, hsubmit, ?_⟩
  rw [Option.some.inj hissued, hid]
  rfl

/-- The run with the creation, and the one that goes on with the revocation. -/
lemma trace_staff : ∃ issued, issued.credentialId = "vc-1" ∧
    Machine.trace IssuerCall.submit [staffSchema] [.createCredential staffCreation] =
      [] ++ (.createCredential staffCreation, .ok (some issued)) :: [] ∧
    Machine.trace IssuerCall.submit [staffSchema]
      [.createCredential staffCreation, staffRevocation] =
        [] ++ (.createCredential staffCreation, .ok (some issued)) ::
          [(staffRevocation, .ok none)] ∧
    committed (Machine.run IssuerCall.submit [staffSchema]
      [.createCredential staffCreation, staffRevocation]) =
        committed staffRecorded ++
          [.faultless (.revokeCredential (.ofString "vc-1")) 1700000000] := by
  obtain ⟨issued, hsubmit, hid⟩ := submit_staffCreation
  obtain ⟨hrevoke, hcommitted⟩ := perform_staffRevocation
  have hsubmit' : IssuerCall.submit staffRecorded staffRevocation = (_, .ok none) :=
    congrArg Prod.swap hrevoke
  refine ⟨issued, hid, ?_, ?_, ?_⟩
  · rw [Machine.trace_cons, hsubmit]
    rfl
  · rw [Machine.trace_cons, Machine.trace_cons, hsubmit, hsubmit']
    rfl
  · rw [Machine.run_cons, Machine.run_cons, hsubmit, hsubmit', Machine.run_nil, hcommitted]

/-- The calls of the run serve the channel. -/
lemma serves_staff : ∀ c ∈ [.createCredential staffCreation, staffRevocation],
    c.fabric.Serves := by
  intro c hc
  rcases List.mem_pair.mp hc with rfl | rfl <;> exact Gateway.serves_direct 1700000000

/-- The credential is active after its creation until it expires, and no longer once it is revoked;
another id is unknown. -/
theorem credential_lifecycle_staff :
    let created := Machine.run IssuerCall.submit [staffSchema] [.createCredential staffCreation]
    let revoked := Machine.run IssuerCall.submit [staffSchema]
      [.createCredential staffCreation, staffRevocation]
    let check := fun now id txs =>
      (FabricClient.verifyCredentialActive (.direct 1700000000) .strict ⟨now, 0⟩ id txs).1
    check 1700000000 "vc-1" created = .ok true ∧ check 2000000001 "vc-1" created ≠ .ok true ∧
      check 1700000000 "vc-1" revoked ≠ .ok true ∧
      ∃ e, check 1700000000 "vc-2" revoked = .error e := by
  intro created revoked check
  obtain ⟨issued, hid, htrace, htrace', hcommitted⟩ := trace_staff
  have hempty : ∀ t ∈ committed [staffSchema], t.operation.recorded? = none := by
    rw [committed_staffSchema]
    intro t ht
    rw [List.mem_singleton.mp ht]
    rfl
  have hlife := credential_lifecycle hempty
    (fun c hc => serves_staff c (List.mem_cons.mpr (.inl (List.mem_singleton.mp hc))))
    (List.nodup_singleton _) (Gateway.serves_direct 1700000000) .strict
  have hlife' := credential_lifecycle hempty serves_staff (List.nodup_singleton _)
    (Gateway.serves_direct 1700000000) .strict
  refine ⟨?_, ?_, ?_, ?_⟩
  · obtain ⟨-, hactive⟩ := (hlife ⟨1700000000, 0⟩).1 _ _ _ _ htrace
    rw [← hid]
    exact (hactive (Gateway.answers_direct _ _)).2 rfl rfl
  · obtain ⟨-, hactive⟩ := (hlife ⟨2000000001, 0⟩).1 _ _ _ _ htrace
    intro hcheck
    rw [← hid] at hcheck
    exact absurd ((hactive (Gateway.answers_direct _ _)).1.mp hcheck).2 (by decide)
  · obtain ⟨-, hactive⟩ := (hlife' ⟨1700000000, 0⟩).1 _ _ _ _ htrace'
    intro hcheck
    rw [← hid] at hcheck
    have hunrevoked := ((hactive (Gateway.answers_direct _ _)).1.mp hcheck).1
    have hmem : .faultless (.revokeCredential (.ofString "vc-1")) 1700000000 ∈
        committed revoked := by
      rw [hcommitted]
      exact List.mem_append_right _ (List.mem_singleton_self _)
    refine hunrevoked _ hmem ?_
    rw [hid]
    rfl
  · refine (hlife' ⟨1700000000, 0⟩).2.2.2 ?_ "vc-2" ?_
    · intro c hc
      rcases List.mem_pair.mp hc with rfl | rfl <;> exact Gateway.reports_direct 1700000000
    · intro e he issued' hissued hid'
      rw [htrace'] at he
      rcases List.mem_pair.mp he with rfl | rfl
      · obtain rfl := Option.some.inj (Except.ok.inj hissued)
        rw [hid] at hid'
        exact absurd hid' (by decide)
      · cases hissued

end DZTA
