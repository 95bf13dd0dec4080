import Dzta.Chaincode.Contract
import Dzta.Library.Machine

/-!
# The ledger

Transactions in the order in which the channel commits them.  A transaction is one of the four
writing functions with its arguments, together with what the peer decides: the timestamp and the
calls that fail.  `submit` runs it against the world state; its writes and its event are committed
only when the function returns no error.

`ledger` is the ledger after a list of transactions from the empty one, and `committed` are those
among them that took effect.  `submit_eq_ok` says once what a committed transaction has done, and
`submit_isOk` when one commits in a peer whose calls do not fail.
-/

namespace DZTA

open GoJson

/-- A writing function with its arguments. -/
inductive Operation where
  | registerSchema (schemaId issuerDid name version attributesJson : GoString)
  | recordCredentialMetadata (credentialId schemaId issuerDid subjectDid : GoString)
      (expiresAt : Int64)
  | revokeCredential (credentialId : GoString)
  | registerDid (did issuerDid publicKey : GoString)

/-- A transaction: an operation, its timestamp and the calls that fail while it runs. -/
structure Transaction where
  operation : Operation
  txTimestamp : Option Int64
  fault : StubCall → Option GoString

/-- The world state and the events committed so far, oldest first. -/
structure Ledger where
  state : WorldState
  events : List Event

namespace Operation

/-- The function an operation calls. -/
def invoke (stub : Stub) : Operation → Except GoError Effects
  | registerSchema schemaId issuerDid name version attributesJson =>
    DZTA.registerSchema stub schemaId issuerDid name version attributesJson
  | recordCredentialMetadata credentialId schemaId issuerDid subjectDid expiresAt =>
    DZTA.recordCredentialMetadata stub credentialId schemaId issuerDid subjectDid expiresAt
  | revokeCredential credentialId => DZTA.revokeCredential stub credentialId
  | registerDid did issuerDid publicKey => DZTA.registerDid stub did issuerDid publicKey

/-- The kind and the id of the record an operation writes. -/
def target : Operation → Kind × GoString
  | registerSchema schemaId _ _ _ _ => (.schema, schemaId)
  | recordCredentialMetadata credentialId _ _ _ _ => (.credential, credentialId)
  | revokeCredential credentialId => (.credential, credentialId)
  | registerDid did _ _ => (.did, did)

/-- Arguments that are UTF-8, as the gateway sends them. -/
def ValidArguments : Operation → Prop
  | registerSchema schemaId issuerDid name version attributesJson =>
    schemaId.Valid ∧ issuerDid.Valid ∧ name.Valid ∧ version.Valid ∧ attributesJson.Valid
  | recordCredentialMetadata credentialId schemaId issuerDid subjectDid _ =>
    credentialId.Valid ∧ schemaId.Valid ∧ issuerDid.Valid ∧ subjectDid.Valid
  | revokeCredential credentialId => credentialId.Valid
  | registerDid did issuerDid publicKey => did.Valid ∧ issuerDid.Valid ∧ publicKey.Valid

end Operation

namespace Transaction

/-- The stub a transaction runs against. -/
def stub (tx : Transaction) (w : WorldState) : Stub := ⟨w, tx.txTimestamp, tx.fault⟩

/-- The time of a transaction as the chaincode records it: `0` when there is no timestamp. -/
def seconds (tx : Transaction) : Int64 := tx.txTimestamp.getD 0

/-- A transaction during which no call fails. -/
def faultless (operation : Operation) (seconds : Int64) : Transaction :=
  ⟨operation, some seconds, fun _ => none⟩

end Transaction

/-- The stub of a query against a world state: no call fails. -/
def WorldState.reader (w : WorldState) : Stub := ⟨w, none, fun _ => none⟩

namespace Ledger

/-- The ledger before the first transaction. -/
def genesis : Ledger := ⟨∅, []⟩

/-- Commits what a transaction has done. -/
def commit (l : Ledger) (eff : Effects) : Ledger :=
  ⟨eff.writes.foldl (fun w kv => w.insert kv.1 kv.2) l.state, l.events ++ eff.event.toList⟩

/-- Runs a transaction and commits it if it returns no error. -/
def submit (l : Ledger) (tx : Transaction) : Ledger × Except GoError Unit :=
  match tx.operation.invoke (tx.stub l.state) with
  | .ok eff => (l.commit eff, .ok ())
  | .error err => (l, .error err)

end Ledger

/-- The ledger after a list of transactions. -/
def ledger (txs : List Transaction) : Ledger := Machine.run Ledger.submit .genesis txs

/-- The transactions of a list that are committed. -/
def committed (txs : List Transaction) : List Transaction :=
  Machine.accepted Ledger.submit Except.isOk .genesis txs

namespace Ledger

/-! ## One transaction

A transaction that fails leaves the ledger as it is; one that succeeds commits one write. -/

/-- A transaction that fails leaves the ledger as it was. -/
theorem submit_of_error {l : Ledger} {tx : Transaction} (h : (l.submit tx).2.isOk = false) :
    (l.submit tx).1 = l := by
  rw [submit] at h ⊢
  cases hi : tx.operation.invoke (tx.stub l.state) with
  | ok eff => rw [hi] at h; cases h
  | error err => rfl

/-- A transaction that is committed ran without an error. -/
theorem submit_of_ok {l : Ledger} {tx : Transaction} (h : (l.submit tx).2.isOk = true) :
    ∃ eff, tx.operation.invoke (tx.stub l.state) = .ok eff ∧ (l.submit tx).1 = l.commit eff := by
  rw [submit] at h ⊢
  cases hi : tx.operation.invoke (tx.stub l.state) with
  | ok eff => exact ⟨eff, rfl, rfl⟩
  | error err => rw [hi] at h; cases h

/-- What an operation writes, and what it emits, when it succeeds against a stub. -/
inductive Commits (stub : Stub) : Operation → String → Option Event → Prop
  | registerSchema {schemaId issuerDid name version attributesJson : GoString}
      {attributes : Option (List SchemaAttribute)}
      (hattributes : parseAttributes attributesJson = some attributes) :
      Commits stub (.registerSchema schemaId issuerDid name version attributesJson)
        (marshal (CredentialSchema.encode
          ⟨schemaId, issuerDid, name, version, attributes, stub.txSeconds⟩)) none
  | recordCredentialMetadata {credentialId schemaId issuerDid subjectDid : GoString}
      {expiresAt : Int64} :
      Commits stub
        (.recordCredentialMetadata credentialId schemaId issuerDid subjectDid expiresAt)
        (marshal (CredentialMetadata.encode
          ⟨credentialId, schemaId, issuerDid, subjectDid, stub.txSeconds, expiresAt, false⟩)) none
  | revokeCredential {credentialId : GoString} {metadata : CredentialMetadata}
      (hmetadata : getCredentialMetadata stub credentialId = .ok metadata) :
      Commits stub (.revokeCredential credentialId)
        (marshal { metadata with revoked := true }.encode)
        (some ⟨"RevokeCredential", marshal (revocationPayload credentialId stub.txSeconds)⟩)
  | registerDid {did issuerDid publicKey : GoString}
      (hargs : did ≠ [] ∧ issuerDid ≠ [] ∧ publicKey ≠ []) :
      Commits stub (.registerDid did issuerDid publicKey)
        (marshal (newDidDocument did issuerDid publicKey).encode) none

/-- **What a committed transaction has done**: one write, to the key of its target. -/
theorem invoke_eq_ok {stub : Stub} {op : Operation} {eff : Effects}
    (h : op.invoke stub = .ok eff) :
    ∃ text event, Commits stub op text event ∧
      eff = { writes := [(key op.target.1 op.target.2, text)], event := event } := by
  cases op with
  | registerSchema schemaId issuerDid name version attributesJson =>
    obtain ⟨attributes, hattributes, heff⟩ := registerSchema_eq_ok h
    exact ⟨_, _, .registerSchema hattributes, heff⟩
  | recordCredentialMetadata credentialId schemaId issuerDid subjectDid expiresAt =>
    exact ⟨_, _, .recordCredentialMetadata, recordCredentialMetadata_eq_ok h⟩
  | revokeCredential credentialId =>
    obtain ⟨metadata, hmetadata, heff⟩ := revokeCredential_eq_ok h
    exact ⟨_, _, .revokeCredential hmetadata, heff⟩
  | registerDid did issuerDid publicKey =>
    obtain ⟨hargs, heff⟩ := registerDid_eq_ok h
    exact ⟨_, _, .registerDid hargs, heff⟩

/-- **The ledger after a committed transaction.** -/
theorem submit_eq_ok {l : Ledger} {tx : Transaction} (h : (l.submit tx).2.isOk = true) :
    ∃ text event, Commits (tx.stub l.state) tx.operation text event ∧
      (l.submit tx).1 =
        ⟨l.state.insert (key tx.operation.target.1 tx.operation.target.2) text,
          l.events ++ event.toList⟩ := by
  obtain ⟨eff, hinvoke, hcommit⟩ := submit_of_ok h
  obtain ⟨text, event, hcommits, rfl⟩ := invoke_eq_ok hinvoke
  exact ⟨text, event, hcommits, hcommit⟩

/-- **What a transaction of the log has done**, on the ledger that it met. -/
lemma exists_commits_of_committed {txs pre post : List Transaction} {tx : Transaction}
    (hlog : committed txs = pre ++ tx :: post) :
    ∃ txs₁ text event, committed txs₁ = pre ∧
      Commits (tx.stub (ledger txs₁).state) tx.operation text event := by
  obtain ⟨txs₁, txs₂, -, hpre, hok, -⟩ := Machine.exists_of_accepted_eq _ hlog
  obtain ⟨text, event, hcommits, -⟩ := submit_eq_ok hok
  exact ⟨txs₁, text, event, hpre, hcommits⟩

/-! ## When a transaction commits

Without faults of the peer only the arguments and an earlier record decide. -/

lemma call_of_faultless (stub : Stub) (h : ∀ c, stub.fault c = none) (c : StubCall) :
    stub.call c = .ok () := by
  rw [Stub.call, h]

/-- What an operation needs to succeed when no call fails: attributes that parse, a record to
revoke, arguments that are not empty. -/
def Enabled (stub : Stub) : Operation → Prop
  | .registerSchema _ _ _ _ attributesJson => (parseAttributes attributesJson).isSome
  | .recordCredentialMetadata .. => True
  | .revokeCredential credentialId => (getCredentialMetadata stub credentialId).isOk
  | .registerDid did issuerDid publicKey => did ≠ [] ∧ issuerDid ≠ [] ∧ publicKey ≠ []

/-- **When no call fails, exactly the enabled operations are committed.** -/
theorem submit_isOk {l : Ledger} {tx : Transaction} (hfault : ∀ c, tx.fault c = none) :
    (l.submit tx).2.isOk = true ↔ Enabled (tx.stub l.state) tx.operation := by
  have hcall := call_of_faultless (tx.stub l.state) hfault
  constructor
  · intro h
    obtain ⟨text, event, hcommits, -⟩ := submit_eq_ok h
    generalize tx.operation = op at hcommits ⊢
    cases hcommits with
    | registerSchema hattributes => simp [Enabled, hattributes]
    | recordCredentialMetadata => trivial
    | revokeCredential hmetadata => rw [Enabled, hmetadata]; rfl
    | registerDid hargs => exact hargs
  · intro h
    have hinvoke : (tx.operation.invoke (tx.stub l.state)).isOk = true := by
      generalize tx.operation = op at h ⊢
      cases op with
      | registerSchema schemaId issuerDid name version attributesJson =>
        obtain ⟨attributes, hattributes⟩ := Option.isSome_iff_exists.mp h
        simp only [Operation.invoke, registerSchema, hattributes, Stub.putState, hcall]
        rfl
      | recordCredentialMetadata credentialId schemaId issuerDid subjectDid expiresAt =>
        simp only [Operation.invoke, recordCredentialMetadata, Stub.putState, hcall]
        rfl
      | revokeCredential credentialId =>
        rw [Enabled] at h
        cases hm : getCredentialMetadata (tx.stub l.state) credentialId with
        | error err => rw [hm] at h; cases h
        | ok metadata =>
          simp only [Operation.invoke, revokeCredential, hm, Stub.putState, Stub.setEvent, hcall]
          rfl
      | registerDid did issuerDid publicKey =>
        have hargs : ¬ (did = [] ∨ issuerDid = [] ∨ publicKey = []) := by
          rw [not_or, not_or]
          exact h
        simp only [Operation.invoke, registerDid, if_neg hargs, Stub.putState, hcall]
        rfl
    rw [submit]
    cases hi : tx.operation.invoke (tx.stub l.state) with
    | ok eff => rfl
    | error err => rw [hi] at hinvoke; cases hinvoke

end Ledger

end DZTA
