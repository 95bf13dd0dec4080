import Dzta.Chaincode.Registries
import Mathlib.Data.List.Induction

/-!
# What the ledger says after a run

The answers of the chaincode after any run, in terms of the transactions that were committed.

**`ledger_refines_history`**: each kind of record is answered with its last committed
registration; the flag of a credential is set exactly when it was revoked since it was last
recorded; only transactions on a record decide it; and the events are those of the committed
revocations.  **`isCredentialRevoked_until_recorded`** follows the flag alone: a revocation stays
in force up to the next time the credential is recorded, and recording it again clears the flag.
The contract has no check that a credential is new, so a revocation is *not* permanent
(`not_revoked_forever`).
-/

namespace DZTA

open GoJson

namespace Operation

/-- The credential that an operation records. -/
def recorded? : Operation → Option GoString
  | recordCredentialMetadata credentialId _ _ _ _ => some credentialId
  | _ => none

/-- The credential that an operation revokes. -/
def revoked? : Operation → Option GoString
  | revokeCredential credentialId => some credentialId
  | _ => none

lemma recorded?_eq_some {op : Operation} {id : GoString} :
    op.recorded? = some id ↔ ∃ schemaId issuerDid subjectDid expiresAt,
      op = recordCredentialMetadata id schemaId issuerDid subjectDid expiresAt := by
  cases op <;> simp [recorded?]

lemma revoked?_eq_some {op : Operation} {id : GoString} :
    op.revoked? = some id ↔ op = revokeCredential id := by
  cases op <;> simp [revoked?]

/-- A credential is targeted by what records it and what revokes it. -/
lemma target_eq_credential {op : Operation} {id : GoString} :
    op.target = (.credential, id) ↔ op.recorded? = some id ∨ op.revoked? = some id := by
  cases op <;> simp [target, recorded?, revoked?]

end Operation

/-! ## The records

A record is what the last transaction for its id has made of it. -/

/-- **Revocations only set the flag** of a credential, as long as it is not recorded again. -/
lemma foldl_commit_credential {id : GoString} {post : List Transaction}
    (hpost : ∀ t ∈ post, t.operation.recorded? ≠ some id) {r : Registries} {m : CredentialMetadata}
    (hr : r .credential id = some m) :
    post.foldl Registries.commit r .credential id =
      some { m with revoked := m.revoked || post.any fun t => t.operation.revoked? = some id } := by
  induction post generalizing r m with
  | nil => simpa using hr
  | cons t post ih =>
    have hrest := fun s hs => hpost s (List.mem_cons_of_mem _ hs)
    by_cases hrevoked : t.operation.revoked? = some id
    · have hnext : r.commit t .credential id = some { m with revoked := true } := by
        rw [Registries.commit, Operation.revoked?_eq_some.mp hrevoked, Registries.perform,
          Registries.set_self, hr, Option.map_some]
      rw [List.foldl_cons, ih hrest hnext]
      simp [hrevoked]
    · have htarget : t.operation.target ≠ (.credential, id) := fun htarget =>
        (Operation.target_eq_credential.mp htarget).elim (hpost t List.mem_cons_self) hrevoked
      rw [List.foldl_cons, ih hrest ((r.commit_of_ne htarget).trans hr)]
      simp [hrevoked]

lemma foldl_commit_credential_none {id : GoString} {log : List Transaction}
    (hlog : ∀ t ∈ log, t.operation.recorded? ≠ some id) {r : Registries}
    (hr : r .credential id = none) : log.foldl Registries.commit r .credential id = none := by
  induction log generalizing r with
  | nil => exact hr
  | cons t log ih =>
    refine ih (fun s hs => hlog s (List.mem_cons_of_mem _ hs)) ?_
    by_cases hrevoked : t.operation.revoked? = some id
    · rw [Registries.commit, Operation.revoked?_eq_some.mp hrevoked, Registries.perform,
        Registries.set_self, hr, Option.map_none]
    · have htarget : t.operation.target ≠ (.credential, id) := fun htarget =>
        (Operation.target_eq_credential.mp htarget).elim (hlog t List.mem_cons_self) hrevoked
      exact (r.commit_of_ne htarget).trans hr

section Records

variable {txs pre post : List Transaction} {tx : Transaction} {id : GoString}

lemma credential_of_recorded {schemaId issuerDid subjectDid : GoString} {expiresAt : Int64}
    (hlog : committed txs = pre ++ tx :: post)
    (hop : tx.operation = .recordCredentialMetadata id schemaId issuerDid subjectDid expiresAt)
    (hpost : ∀ t ∈ post, t.operation.recorded? ≠ some id) :
    registries txs .credential id =
      some ⟨id, schemaId, issuerDid, subjectDid, tx.seconds, expiresAt,
        post.any fun t => t.operation.revoked? = some id⟩ := by
  rw [registries, hlog, List.foldl_append, List.foldl_cons]
  refine (foldl_commit_credential hpost (m :=
    ⟨id, schemaId, issuerDid, subjectDid, tx.seconds, expiresAt, false⟩) ?_).trans ?_
  · rw [Registries.commit, hop]
    exact Registries.set_self ..
  · rw [Bool.false_or]

lemma credential_of_not_recorded (hlog : ∀ t ∈ committed txs, t.operation.recorded? ≠ some id) :
    registries txs .credential id = none :=
  foldl_commit_credential_none hlog rfl

lemma didDocument_of_registered {issuerDid publicKey : GoString}
    (hlog : committed txs = pre ++ tx :: post)
    (hop : tx.operation = .registerDid id issuerDid publicKey)
    (hpost : ∀ t ∈ post, t.operation.target ≠ (.did, id)) :
    registries txs .did id = some (newDidDocument id issuerDid publicKey) := by
  rw [registries_of_last hlog hpost, Registries.commit, hop]
  exact Registries.set_self ..

lemma credential_of_commits {text : String} {event : Option Event}
    (hcommits : Ledger.Commits (tx.stub (ledger txs).state) (.revokeCredential id) text event) :
    ∃ m, registries txs .credential id = some m := by
  cases hcommits with
  | revokeCredential hmetadata =>
    obtain ⟨m, hm, -⟩ := credential_of_getCredentialMetadata
      (tx.stub (ledger txs).state) (refines_ledger txs) hmetadata
    exact ⟨m, hm⟩

lemma credential_of_revoked (hlog : committed txs = pre ++ tx :: post)
    (hop : tx.operation = .revokeCredential id) :
    ∃ m, pre.foldl Registries.commit .empty .credential id = some m := by
  obtain ⟨txs₁, text, event, rfl, hcommits⟩ := Ledger.exists_commits_of_committed hlog
  rw [hop] at hcommits
  exact credential_of_commits hcommits

/-- A revocation that is followed by no record is in force. -/
lemma credential_of_last_revoked (hlog : committed txs = pre ++ tx :: post)
    (hop : tx.operation = .revokeCredential id)
    (hpost : ∀ t ∈ post, t.operation.recorded? ≠ some id) :
    ∃ m, registries txs .credential id = some m ∧ m.revoked = true := by
  obtain ⟨m, hm⟩ := credential_of_revoked hlog hop
  have hrevoked : (pre.foldl Registries.commit .empty).commit tx .credential id =
      some { m with revoked := true } := by
    rw [Registries.commit, hop, Registries.perform, Registries.set_self, hm, Option.map_some]
  have hregistered := foldl_commit_credential hpost hrevoked
  rw [← List.foldl_cons (f := Registries.commit), ← List.foldl_append, ← hlog] at hregistered
  exact ⟨_, hregistered, rfl⟩

/-- The flag of a credential comes from a revocation that is followed by no record. -/
lemma exists_revoked_of_credential {r : Registries} {log : List Transaction}
    (hr : ∀ m, r .credential id = some m → m.revoked = false) {m : CredentialMetadata}
    (hm : log.foldl Registries.commit r .credential id = some m) (hrevoked : m.revoked = true) :
    ∃ pre tx post, log = pre ++ tx :: post ∧ tx.operation = .revokeCredential id ∧
      ∀ t ∈ post, t.operation.recorded? ≠ some id := by
  induction log using List.reverseRecOn generalizing m with
  | nil =>
    rw [hr m hm] at hrevoked
    cases hrevoked
  | append_singleton log t ih =>
    rw [List.foldl_append, List.foldl_cons, List.foldl_nil] at hm
    by_cases hrevokes : t.operation.revoked? = some id
    · exact ⟨log, t, [], rfl, Operation.revoked?_eq_some.mp hrevokes, by simp⟩
    · by_cases hrecords : t.operation.recorded? = some id
      · obtain ⟨schemaId, issuerDid, subjectDid, expiresAt, hop⟩ :=
          Operation.recorded?_eq_some.mp hrecords
        rw [Registries.commit, hop, Registries.perform, Registries.set_self] at hm
        obtain rfl := Option.some.inj hm
        cases hrevoked
      · have htarget : t.operation.target ≠ (.credential, id) := fun htarget =>
          (Operation.target_eq_credential.mp htarget).elim hrecords hrevokes
        rw [Registries.commit_of_ne _ htarget] at hm
        obtain ⟨pre, tx, post, rfl, hop, hpost⟩ := ih hm hrevoked
        refine ⟨pre, tx, post ++ [t], by simp, hop, fun t' ht' => ?_⟩
        rcases List.mem_append.mp ht' with ht' | ht'
        · exact hpost t' ht'
        · rw [List.mem_singleton.mp ht']
          exact hrecords

lemma exists_recorded_of_revoked (hlog : committed txs = pre ++ tx :: post)
    (hop : tx.operation = .revokeCredential id) :
    ∃ t ∈ pre, t.operation.recorded? = some id := by
  by_contra hnone
  obtain ⟨m, hm⟩ := credential_of_revoked hlog hop
  have habsent := foldl_commit_credential_none
    (fun t ht hrecorded => hnone ⟨t, ht, hrecorded⟩) (rfl : Registries.empty .credential id = none)
  rw [habsent] at hm
  cases hm

/-- A credential that is recorded for the first time has not been revoked before. -/
lemma forall_ne_revoke_iff (hlog : committed txs = pre ++ tx :: post)
    (hop : tx.operation.recorded? = some id) (hpre : ∀ t ∈ pre, t.operation.recorded? ≠ some id) :
    (∀ t ∈ committed txs, t.operation ≠ .revokeCredential id) ↔
      (post.any fun t => t.operation.revoked? = some id) = false := by
  rw [hlog, List.any_eq_false]
  constructor
  · intro h t ht hrevoked
    exact h t (List.mem_append_right _ (List.mem_cons_of_mem _ ht))
      (Operation.revoked?_eq_some.mp (of_decide_eq_true hrevoked))
  · intro h t ht hrevoke
    rcases List.mem_append.mp ht with ht | ht
    · obtain ⟨pre₁, pre₂, rfl⟩ := List.append_of_mem ht
      rw [List.append_assoc, List.cons_append] at hlog
      obtain ⟨t', ht', hrecorded⟩ := exists_recorded_of_revoked hlog hrevoke
      exact hpre t' (List.mem_append_left _ ht') hrecorded
    · rcases List.mem_cons.mp ht with rfl | ht
      · rw [hrevoke] at hop
        cases hop
      · exact h t ht (decide_eq_true (Operation.revoked?_eq_some.mpr hrevoke))

end Records

/-! ## Answers of a query

A query answers from the record, or fails for the lack of it. -/

section Answers

variable (txs : List Transaction) (id : GoString)

lemma getCredentialMetadata_ledger :
    getCredentialMetadata (ledger txs).state.reader id =
      match registries txs .credential id with
      | some m => .ok m.coerce
      | none => .error (.message (GoString.ofString "credential " ++ id ++
          GoString.ofString " metadata does not exist")) :=
  getCredentialMetadata_eq (ledger txs).state.reader (refines_ledger txs) rfl

lemma getSchema_ledger :
    getSchema (ledger txs).state.reader id =
      match registries txs .schema id with
      | some s => .ok s.coerce
      | none => .error (.message (GoString.ofString "schema " ++ id ++
          GoString.ofString " does not exist")) :=
  getSchema_eq (ledger txs).state.reader (refines_ledger txs) rfl

lemma resolveDid_ledger :
    resolveDid (ledger txs).state.reader id =
      match registries txs .did id with
      | some d => .ok d.coerce
      | none => .error (.message (GoString.ofString "did document " ++ id ++
          GoString.ofString " does not exist")) :=
  resolveDid_eq (ledger txs).state.reader (refines_ledger txs) rfl

lemma isCredentialRevoked_ledger {m : CredentialMetadata}
    (h : registries txs .credential id = some m) :
    isCredentialRevoked (ledger txs).state.reader id = .ok m.revoked := by
  rw [isCredentialRevoked, getCredentialMetadata_ledger, h]
  rfl

end Answers

/-! ## Arguments in UTF-8

What JSON makes of texts that are no UTF-8 does not matter for arguments that are. -/

/-- Attributes that `RegisterSchema` has parsed come back from the ledger unchanged. -/
lemma coerce_parseAttributes {attributesJson : GoString}
    {attributes : Option (List SchemaAttribute)}
    (h : parseAttributes attributesJson = some attributes) :
    attributes.map (List.map SchemaAttribute.coerce) = attributes := by
  cases attributes with
  | none => rfl
  | some as =>
    obtain ⟨j, -, hdecode⟩ := Option.bind_eq_some_iff.mp h
    have hcoerce := decodeSlice_invariant (P := fun a => SchemaAttribute.coerce a = a)
      (fun _ _ => SchemaAttribute.coerce_of_decode) hdecode
    rw [Option.map_some, List.map_congr_left hcoerce, List.map_id']

/-- So does a schema. -/
lemma coerce_schema {schemaId issuerDid name version attributesJson : GoString}
    {attributes : Option (List SchemaAttribute)} {created : Int64}
    (hvalid : Operation.ValidArguments
      (.registerSchema schemaId issuerDid name version attributesJson))
    (h : parseAttributes attributesJson = some attributes) :
    CredentialSchema.coerce ⟨schemaId, issuerDid, name, version, attributes, created⟩ =
      ⟨schemaId, issuerDid, name, version, attributes, created⟩ := by
  obtain ⟨hid, hissuer, hname, hversion, -⟩ := hvalid
  simp only [CredentialSchema.coerce, GoString.coerce_of_valid hid,
    GoString.coerce_of_valid hissuer, GoString.coerce_of_valid hname,
    GoString.coerce_of_valid hversion, coerce_parseAttributes h]

/-- So does the metadata of a credential. -/
lemma coerce_metadata {credentialId schemaId issuerDid subjectDid : GoString}
    {issuedAt expiresAt : Int64} {revoked : Bool}
    (hvalid : Operation.ValidArguments
      (.recordCredentialMetadata credentialId schemaId issuerDid subjectDid expiresAt)) :
    CredentialMetadata.coerce
        ⟨credentialId, schemaId, issuerDid, subjectDid, issuedAt, expiresAt, revoked⟩ =
      ⟨credentialId, schemaId, issuerDid, subjectDid, issuedAt, expiresAt, revoked⟩ := by
  obtain ⟨hid, hschema, hissuer, hsubject⟩ := hvalid
  simp only [CredentialMetadata.coerce, GoString.coerce_of_valid hid,
    GoString.coerce_of_valid hschema, GoString.coerce_of_valid hissuer,
    GoString.coerce_of_valid hsubject]

/-- So does a DID document. -/
lemma coerce_newDidDocument {did issuerDid publicKey : GoString}
    (hvalid : Operation.ValidArguments (.registerDid did issuerDid publicKey)) :
    (newDidDocument did issuerDid publicKey).coerce = newDidDocument did issuerDid publicKey := by
  obtain ⟨hdid, hissuer, hkey⟩ := hvalid
  have hmethod := GoString.coerce_of_valid (hdid.append (GoString.valid_utf8 "#key-1"))
  simp [DIDDocument.coerce, DIDDocument.coerceContext, VerificationMethod.coerce, newDidDocument,
    GoString.ofString, hmethod, GoString.coerce_of_valid hdid, GoString.coerce_of_valid hissuer,
    GoString.coerce_of_valid hkey]

lemma validArguments_of_committed {txs pre post : List Transaction} {tx : Transaction}
    (hvalid : ∀ t ∈ txs, t.operation.ValidArguments) (hlog : committed txs = pre ++ tx :: post) :
    tx.operation.ValidArguments :=
  hvalid tx (Machine.mem_of_mem_accepted _ (hlog ▸ List.mem_append_right _ List.mem_cons_self))

/-! ## Events

There is one event for each revocation that was committed, in the same order. -/

/-- The event of a committed transaction. -/
def Transaction.event? (tx : Transaction) : Option Event :=
  tx.operation.revoked?.map fun id =>
    ⟨"RevokeCredential", marshal (revocationPayload id tx.seconds)⟩

/-- The credential that the payload of an event names. -/
def Event.credentialId? (e : Event) : Option GoString := do
  let payload ← parse e.payload
  let member ← payload.member? "credential_id"
  let id ← member.asString?
  return Bytes.utf8 id

/-- What is committed emits an event exactly when it is a revocation. -/
lemma Ledger.Commits.event_eq {tx : Transaction} {w : WorldState} {text : String}
    {event : Option Event} (h : Ledger.Commits (tx.stub w) tx.operation text event) :
    event = tx.event? := by
  rw [Transaction.event?]
  generalize hop : tx.operation = op at h ⊢
  cases h <;> rfl

/-- **The events of the ledger are those of its committed revocations**, in order. -/
theorem events_ledger (txs : List Transaction) :
    (ledger txs).events = (committed txs).filterMap Transaction.event? := by
  have h := Machine.simulation_accepted Ledger.submit Except.isOk
    (fun l log => l.events = log.filterMap Transaction.event?) (fun log tx => log ++ [tx])
    (fun l log tx hlog hok => by
      obtain ⟨text, event, hcommits, hsubmit⟩ := Ledger.submit_eq_ok hok
      rw [hsubmit, List.filterMap_append, ← hlog, hcommits.event_eq]
      cases h : tx.event? <;> simp [h])
    (fun l log tx hlog herror => by rw [Ledger.submit_of_error herror, hlog])
    (s := Ledger.genesis) (t := []) rfl txs
  rw [List.foldl_append_eq_append, List.nil_append, ← List.flatMap_def,
    List.flatMap_singleton'] at h
  exact h

lemma credentialId?_revocation {id : GoString} (hid : id.Valid) (seconds : Int64) :
    Event.credentialId? ⟨"RevokeCredential", marshal (revocationPayload id seconds)⟩ =
      some id := by
  have hdepth : Json.depth (revocationPayload id seconds) ≤ maxNestingDepth := by
    simp [revocationPayload, maxNestingDepth]
  have hcoerce : Bytes.utf8 (Bytes.utf8Lossy id) = id := GoString.coerce_of_valid hid
  rw [Event.credentialId?, parse_marshal hdepth]
  simp [revocationPayload, Json.lastMember_cons, encodeString, hcoerce]

/-! ## Every answer from the history of its record

The part of the history that is about an id decides every answer for it. -/

/-- The committed transactions on a record. -/
def history (txs : List Transaction) (k : Kind) (id : GoString) : List Transaction :=
  (committed txs).filter fun tx => tx.operation.target = (k, id)

/-- Revoking a credential that was never recorded fails and changes nothing. -/
theorem submit_revoke_of_not_recorded {txs : List Transaction} {tx : Transaction} {id : GoString}
    (hlog : ∀ t ∈ committed txs, t.operation.recorded? ≠ some id)
    (hop : tx.operation = .revokeCredential id) :
    ∃ err, (ledger txs).submit tx = (ledger txs, .error err) := by
  cases hsubmit : (ledger txs).submit tx with
  | mk l out =>
    cases out with
    | error err =>
      have hsame := Ledger.submit_of_error
        (show ((ledger txs).submit tx).2.isOk = false by rw [hsubmit]; rfl)
      rw [hsubmit] at hsame
      exact ⟨err, by rw [← hsame]⟩
    | ok u =>
      obtain ⟨text, event, hcommits, -⟩ :=
        Ledger.submit_eq_ok (show ((ledger txs).submit tx).2.isOk = true by rw [hsubmit]; rfl)
      rw [hop] at hcommits
      obtain ⟨m, hm⟩ := credential_of_commits hcommits
      rw [credential_of_not_recorded hlog] at hm
      cases hm

section Answered

variable {txs pre post : List Transaction} {tx : Transaction} {id : GoString}
  (hvalid : ∀ t ∈ txs, t.operation.ValidArguments) (hlog : committed txs = pre ++ tx :: post)

include hvalid hlog

/-- `GetCredentialMetadata` returns the last committed record. -/
lemma getCredentialMetadata_of_recorded {schemaId issuerDid subjectDid : GoString}
    {expiresAt : Int64}
    (hop : tx.operation = .recordCredentialMetadata id schemaId issuerDid subjectDid expiresAt)
    (hpost : ∀ t ∈ post, t.operation.recorded? ≠ some id) :
    getCredentialMetadata (ledger txs).state.reader id =
      .ok ⟨id, schemaId, issuerDid, subjectDid, tx.seconds, expiresAt,
        decide (∃ t ∈ post, t.operation.revoked? = some id)⟩ := by
  have hargs := validArguments_of_committed hvalid hlog
  rw [hop] at hargs
  have hflag : (post.any fun t => t.operation.revoked? = some id) =
      decide (∃ t ∈ post, t.operation.revoked? = some id) := by
    rw [Bool.eq_iff_iff, List.any_eq_true, decide_eq_true_eq]
    simp only [decide_eq_true_eq]
  rw [getCredentialMetadata_ledger, credential_of_recorded hlog hop hpost, hflag]
  exact congrArg Except.ok (coerce_metadata hargs)

/-- `GetSchema` returns the last committed registration. -/
lemma getSchema_of_registered {issuerDid name version attributesJson : GoString}
    (hop : tx.operation = .registerSchema id issuerDid name version attributesJson)
    (hpost : ∀ t ∈ post, t.operation.target ≠ (.schema, id)) :
    ∃ attributes, parseAttributes attributesJson = some attributes ∧
      getSchema (ledger txs).state.reader id =
        .ok ⟨id, issuerDid, name, version, attributes, tx.seconds⟩ := by
  have hargs := validArguments_of_committed hvalid hlog
  rw [hop] at hargs
  obtain ⟨_, text, event, -, hcommits⟩ := Ledger.exists_commits_of_committed hlog
  rw [hop] at hcommits
  cases hcommits with
  | @registerSchema _ _ _ _ _ attributes hattributes =>
    have hregistered : registries txs .schema id =
        some ⟨id, issuerDid, name, version, attributes, tx.seconds⟩ := by
      rw [registries_of_last hlog hpost, Registries.commit, hop, Registries.perform, hattributes]
      exact Registries.set_self ..
    refine ⟨attributes, hattributes, ?_⟩
    rw [getSchema_ledger, hregistered]
    exact congrArg Except.ok (coerce_schema hargs hattributes)

/-- `ResolveDID` returns the last committed registration. -/
lemma resolveDid_of_registered {issuerDid publicKey : GoString}
    (hop : tx.operation = .registerDid id issuerDid publicKey)
    (hpost : ∀ t ∈ post, t.operation.target ≠ (.did, id)) :
    resolveDid (ledger txs).state.reader id = .ok (newDidDocument id issuerDid publicKey) := by
  have hargs := validArguments_of_committed hvalid hlog
  rw [hop] at hargs
  rw [resolveDid_ledger, didDocument_of_registered hlog hop hpost]
  exact congrArg Except.ok (coerce_newDidDocument hargs)

end Answered

lemma credentialId?_events {log : List Transaction}
    (hvalid : ∀ t ∈ log, t.operation.ValidArguments) :
    (log.filterMap Transaction.event?).map (fun e => (e.name, e.credentialId?)) =
      (log.filterMap fun tx => tx.operation.revoked?).map
        fun id => ("RevokeCredential", some id) := by
  induction log with
  | nil => rfl
  | cons tx log ih =>
    have hrest := ih fun t ht => hvalid t (List.mem_cons_of_mem _ ht)
    cases hrevoked : tx.operation.revoked? with
    | none => simpa [Transaction.event?, hrevoked] using hrest
    | some id =>
      have hid : id.Valid := by
        have hargs := hvalid tx List.mem_cons_self
        rwa [Operation.revoked?_eq_some.mp hrevoked] at hargs
      simpa [Transaction.event?, hrevoked, credentialId?_revocation hid] using hrest

/-- **The ledger refines the history of its transactions.**  After every run of transactions with
UTF-8 arguments:

* `GetCredentialMetadata` returns the last committed record of the credential, with its flag set
  exactly if a revocation was committed since, and an error if there is none;
* `GetSchema` and `ResolveDID` return the last committed registration, and an error if there is
  none;
* runs that agree on the committed transactions on a record agree on its answer;
* revoking a credential that was never recorded fails and changes nothing;
* the events are one for each committed revocation, in order, each naming its credential. -/
theorem ledger_refines_history {txs : List Transaction}
    (hvalid : ∀ tx ∈ txs, tx.operation.ValidArguments) :
    (∀ pre tx post id schemaId issuerDid subjectDid expiresAt,
      committed txs = pre ++ tx :: post →
      tx.operation = .recordCredentialMetadata id schemaId issuerDid subjectDid expiresAt →
      (∀ t ∈ post, t.operation.recorded? ≠ some id) →
      getCredentialMetadata (ledger txs).state.reader id =
        .ok ⟨id, schemaId, issuerDid, subjectDid, tx.seconds, expiresAt,
          decide (∃ t ∈ post, t.operation.revoked? = some id)⟩) ∧
    (∀ id, (∀ t ∈ committed txs, t.operation.recorded? ≠ some id) →
      getCredentialMetadata (ledger txs).state.reader id =
        .error (.message (GoString.ofString "credential " ++ id ++
          GoString.ofString " metadata does not exist"))) ∧
    (∀ pre tx post id issuerDid name version attributesJson,
      committed txs = pre ++ tx :: post →
      tx.operation = .registerSchema id issuerDid name version attributesJson →
      (∀ t ∈ post, t.operation.target ≠ (.schema, id)) →
      ∃ attributes, parseAttributes attributesJson = some attributes ∧
        getSchema (ledger txs).state.reader id =
          .ok ⟨id, issuerDid, name, version, attributes, tx.seconds⟩) ∧
    (∀ id, (∀ t ∈ committed txs, t.operation.target ≠ (.schema, id)) →
      getSchema (ledger txs).state.reader id =
        .error (.message (GoString.ofString "schema " ++ id ++
          GoString.ofString " does not exist"))) ∧
    (∀ pre tx post did issuerDid publicKey,
      committed txs = pre ++ tx :: post →
      tx.operation = .registerDid did issuerDid publicKey →
      (∀ t ∈ post, t.operation.target ≠ (.did, did)) →
      resolveDid (ledger txs).state.reader did = .ok (newDidDocument did issuerDid publicKey)) ∧
    (∀ did, (∀ t ∈ committed txs, t.operation.target ≠ (.did, did)) →
      resolveDid (ledger txs).state.reader did =
        .error (.message (GoString.ofString "did document " ++ did ++
          GoString.ofString " does not exist"))) ∧
    (∀ txs' id, history txs .credential id = history txs' .credential id →
      getCredentialMetadata (ledger txs).state.reader id =
        getCredentialMetadata (ledger txs').state.reader id) ∧
    (∀ txs' id, history txs .schema id = history txs' .schema id →
      getSchema (ledger txs).state.reader id = getSchema (ledger txs').state.reader id) ∧
    (∀ txs' did, history txs .did did = history txs' .did did →
      resolveDid (ledger txs).state.reader did = resolveDid (ledger txs').state.reader did) ∧
    (∀ tx id, (∀ t ∈ committed txs, t.operation.recorded? ≠ some id) →
      tx.operation = .revokeCredential id →
      ∃ err, (ledger txs).submit tx = (ledger txs, .error err)) ∧
    (ledger txs).events.map (fun e => (e.name, e.credentialId?)) =
      ((committed txs).filterMap fun tx => tx.operation.revoked?).map
        fun id => ("RevokeCredential", some id) := by
  refine ⟨?_, ?_, ?_, ?_, ?_, ?_, ?_, ?_, ?_, ?_, ?_⟩
  · intro pre tx post id schemaId issuerDid subjectDid expiresAt hlog hop hpost
    exact getCredentialMetadata_of_recorded hvalid hlog hop hpost
  · intro id hlog
    rw [getCredentialMetadata_ledger, credential_of_not_recorded hlog]
  · intro pre tx post id issuerDid name version attributesJson hlog hop hpost
    exact getSchema_of_registered hvalid hlog hop hpost
  · intro id hlog
    rw [getSchema_ledger, registries_eq_none hlog]
  · intro pre tx post did issuerDid publicKey hlog hop hpost
    exact resolveDid_of_registered hvalid hlog hop hpost
  · intro did hlog
    rw [resolveDid_ledger, registries_eq_none hlog]
  · intro txs' id h
    rw [getCredentialMetadata_ledger, getCredentialMetadata_ledger, registries_congr h]
  · intro txs' id h
    rw [getSchema_ledger, getSchema_ledger, registries_congr h]
  · intro txs' did h
    rw [resolveDid_ledger, resolveDid_ledger, registries_congr h]
  · intro tx id hlog hop
    exact submit_revoke_of_not_recorded hlog hop
  · rw [events_ledger]
    exact credentialId?_events fun tx htx => hvalid tx (Machine.mem_of_mem_accepted _ htx)

/-! ## The revocation flag

The flag stays until the credential is recorded again, and then it is lost. -/

/-- **A revocation is in force until the credential is recorded again.**  Once `RevokeCredential`
of `id` is committed, `IsCredentialRevoked` of `id` is true in every later state up to the next
committed `RecordCredentialMetadata` of `id`; from there on it is false in every state up to the
next committed revocation of `id`. -/
theorem isCredentialRevoked_until_recorded {txs pre post : List Transaction} {tx : Transaction}
    {id : GoString} (hlog : committed txs = pre ++ tx :: post)
    (hop : tx.operation = .revokeCredential id) :
    ((∀ t ∈ post, t.operation.recorded? ≠ some id) →
      isCredentialRevoked (ledger txs).state.reader id = .ok true) ∧
    (∀ mid t post', post = mid ++ t :: post' → t.operation.recorded? = some id →
      (∀ t' ∈ post', t'.operation.target ≠ (.credential, id)) →
      isCredentialRevoked (ledger txs).state.reader id = .ok false) := by
  constructor
  · intro hpost
    obtain ⟨m, hm, hrevoked⟩ := credential_of_last_revoked hlog hop hpost
    rw [isCredentialRevoked_ledger txs id hm, hrevoked]
  · rintro mid t post' rfl hrecorded hpost'
    obtain ⟨schemaId, issuerDid, subjectDid, expiresAt, ht⟩ :=
      Operation.recorded?_eq_some.mp hrecorded
    have hnorevoke : (post'.any fun t => decide (t.operation.revoked? = some id)) = false := by
      simp only [List.any_eq_false, decide_eq_true_eq]
      exact fun t' ht' h => hpost' t' ht' (Operation.target_eq_credential.mpr (.inr h))
    have hlog' : committed txs = (pre ++ tx :: mid) ++ t :: post' := by simpa using hlog
    have hregistered := credential_of_recorded hlog' ht
      fun t' ht' h => hpost' t' ht' (Operation.target_eq_credential.mpr (.inl h))
    rw [isCredentialRevoked_ledger txs id hregistered, hnorevoke]

/-! ### Runs in which a credential is recorded again

A credential is recorded, revoked, and recorded once more. -/

/-- A transaction that is committed after a run is the last one of its log. -/
lemma committed_concat {txs : List Transaction} {tx : Transaction}
    (h : ((ledger txs).submit tx).2.isOk = true) :
    committed (txs ++ [tx]) = committed txs ++ [tx] := by
  rw [committed, Machine.accepted_append, Machine.accepted_cons]
  exact congrArg (committed txs ++ ·) (if_pos h)

/-- When no call fails, a record is always committed. -/
lemma committed_concat_record (txs : List Transaction)
    (id schemaId issuerDid subjectDid : GoString) (expiresAt seconds : Int64) :
    committed (txs ++ [.faultless
        (.recordCredentialMetadata id schemaId issuerDid subjectDid expiresAt) seconds]) =
      committed txs ++ [.faultless
        (.recordCredentialMetadata id schemaId issuerDid subjectDid expiresAt) seconds] :=
  committed_concat ((Ledger.submit_isOk fun _ => rfl).mpr trivial)

/-- When no call fails, the revocation of a registered credential succeeds. -/
lemma submit_revoke_isOk {txs : List Transaction} {id : GoString} {m : CredentialMetadata}
    (seconds : Int64) (h : registries txs .credential id = some m) :
    ((ledger txs).submit (.faultless (.revokeCredential id) seconds)).2.isOk = true := by
  refine (Ledger.submit_isOk fun _ => rfl).mpr ?_
  have hget : getCredentialMetadata ((Transaction.faultless (.revokeCredential id) seconds).stub
      (ledger txs).state) id = _ := getCredentialMetadata_eq _ (refines_ledger txs) rfl
  rw [h] at hget
  simp only [Transaction.faultless, Ledger.Enabled] at hget ⊢
  rw [hget]
  rfl

lemma committed_concat_revoke {txs : List Transaction} {id : GoString} {m : CredentialMetadata}
    (seconds : Int64) (h : registries txs .credential id = some m) :
    committed (txs ++ [.faultless (.revokeCredential id) seconds]) =
      committed txs ++ [.faultless (.revokeCredential id) seconds] :=
  committed_concat (submit_revoke_isOk seconds h)

/-- The credential of an employee is recorded. -/
def staffRecord (id : GoString) (seconds : Int64) : Transaction :=
  .faultless (.recordCredentialMetadata id (.ofString "schema-staff") (.ofString "did:dzta:issuer")
    (.ofString "did:dzta:alice") 1800000000) seconds

/-- A credential is recorded and revoked. -/
def recordRevoke (id : GoString) : List Transaction :=
  [staffRecord id 1700000000, .faultless (.revokeCredential id) 1700000100]

/-- A credential is recorded and revoked, and then another one, or the same one again, is
recorded. -/
def recordRevokeRecord (id id' : GoString) : List Transaction :=
  recordRevoke id ++ [staffRecord id' 1700000200]

lemma committed_recordRevoke (id : GoString) : committed (recordRevoke id) = recordRevoke id := by
  have hrecord : committed [staffRecord id 1700000000] = [] ++ staffRecord id 1700000000 :: [] :=
    committed_concat_record [] id _ _ _ _ _
  have hregistered := credential_of_recorded hrecord rfl (by simp)
  exact (committed_concat_revoke 1700000100 hregistered).trans (congrArg (· ++ _) hrecord)

lemma committed_recordRevokeRecord (id id' : GoString) :
    committed (recordRevokeRecord id id') = [] ++ staffRecord id 1700000000 ::
      [.faultless (.revokeCredential id) 1700000100, staffRecord id' 1700000200] :=
  (committed_concat_record _ id' _ _ _ _ _).trans
    (congrArg (· ++ _) (committed_recordRevoke id))

lemma valid_staffRecord {id : GoString} (hid : id.Valid) (seconds : Int64) :
    (staffRecord id seconds).operation.ValidArguments :=
  ⟨hid, GoString.valid_utf8 "schema-staff", GoString.valid_utf8 "did:dzta:issuer",
    GoString.valid_utf8 "did:dzta:alice"⟩

lemma valid_recordRevoke {id : GoString} (hid : id.Valid) :
    ∀ t ∈ recordRevoke id, t.operation.ValidArguments := by
  intro t ht
  rcases List.mem_cons.mp ht with rfl | ht
  · exact valid_staffRecord hid _
  · rw [List.mem_singleton.mp ht]
    exact hid

lemma valid_recordRevokeRecord {id id' : GoString} (hid : id.Valid) (hid' : id'.Valid) :
    ∀ t ∈ recordRevokeRecord id id', t.operation.ValidArguments := by
  intro t ht
  rcases List.mem_append.mp ht with ht | ht
  · exact valid_recordRevoke hid t ht
  · rw [List.mem_singleton.mp ht]
    exact valid_staffRecord hid' _

/-- One credential is revoked, and another one is recorded after that. -/
def revokedRun : List Transaction := recordRevokeRecord (.ofString "vc-1") (.ofString "vc-2")

lemma staff_ne : GoString.ofString "vc-2" ≠ .ofString "vc-1" := by decide

/-- The revoked credential, and the event. -/
theorem ledger_refines_history_recordRevoke :
    getCredentialMetadata (ledger revokedRun).state.reader (.ofString "vc-1") =
        .ok ⟨.ofString "vc-1", .ofString "schema-staff", .ofString "did:dzta:issuer",
          .ofString "did:dzta:alice", 1700000000, 1800000000, true⟩ ∧
      (ledger revokedRun).events.map (fun e => (e.name, e.credentialId?)) =
        [("RevokeCredential", some (.ofString "vc-1"))] := by
  have hvalid : ∀ t ∈ revokedRun, t.operation.ValidArguments :=
    valid_recordRevokeRecord (GoString.valid_utf8 "vc-1") (GoString.valid_utf8 "vc-2")
  obtain ⟨hrecorded, -, -, -, -, -, -, -, -, -, hevents⟩ := ledger_refines_history hvalid
  refine ⟨?_, ?_⟩
  · refine (hrecorded _ _ _ (.ofString "vc-1") _ _ _ _ (committed_recordRevokeRecord _ _) rfl
      ?_).trans ?_
    · simp [staffRecord, Transaction.faultless, Operation.recorded?, staff_ne]
    · simp [staffRecord, Transaction.faultless, Operation.revoked?, Transaction.seconds]
  · rw [hevents, revokedRun, committed_recordRevokeRecord]
    rfl

/-- A revocation that another credential does not touch, and one that the next record of the same
credential clears. -/
theorem isCredentialRevoked_recordRevoke :
    isCredentialRevoked (ledger revokedRun).state.reader (.ofString "vc-1") = .ok true ∧
      isCredentialRevoked
        (ledger (recordRevokeRecord (.ofString "vc-1") (.ofString "vc-1"))).state.reader
        (.ofString "vc-1") = .ok false := by
  have hlog : ∀ id', committed (recordRevokeRecord (.ofString "vc-1") id') = [_] ++ _ :: [_] :=
    committed_recordRevokeRecord (.ofString "vc-1")
  constructor
  · refine (isCredentialRevoked_until_recorded (hlog (.ofString "vc-2")) rfl).1 ?_
    simp [staffRecord, Transaction.faultless, Operation.recorded?, staff_ne]
  · exact (isCredentialRevoked_until_recorded (hlog (.ofString "vc-1")) rfl).2 [] _ [] rfl rfl
      (by simp)

/-- **A revocation is not permanent**: recording the credential again clears its flag. -/
theorem not_revoked_forever :
    ¬ ∀ (txs pre post : List Transaction) (tx : Transaction) (id : GoString),
      committed txs = pre ++ tx :: post → tx.operation = .revokeCredential id →
        isCredentialRevoked (ledger txs).state.reader id = .ok true := by
  intro hforever
  have hlog := committed_recordRevokeRecord (.ofString "vc-1") (.ofString "vc-1")
  have htrue := hforever _ [_] [_] _ (.ofString "vc-1") hlog rfl
  have hlast : committed (recordRevokeRecord (.ofString "vc-1") (.ofString "vc-1")) =
      [_, _] ++ staffRecord (.ofString "vc-1") 1700000200 :: [] := hlog
  have hregistered := credential_of_recorded hlast rfl (by simp)
  rw [isCredentialRevoked_ledger _ _ hregistered] at htrue
  cases htrue

end DZTA
