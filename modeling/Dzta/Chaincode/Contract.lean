import Dzta.Chaincode.Types
import Mathlib.Data.List.AList

/-!
# The chaincode functions

The transaction functions of the contract.  A function runs against a `Stub`: the world state as
it was before the transaction, the timestamp of the transaction, and which of the calls into the
peer fail.  It returns an error, or the writes and the event that the peer commits if the
transaction is valid; a function that returns an error leaves nothing behind.

Records live under keys made of a prefix for their kind and their id.  **Keys determine kind and
id** (`key_inj`), whatever bytes the id has: the three prefixes differ in their first byte.
-/

namespace DZTA

open GoJson

/-! ## World state

Records of three kinds under keys of their own, and what a transaction does to them. -/

/-- The kinds of record. -/
inductive Kind where
  | schema
  | credential
  | did
deriving DecidableEq

/-- The prefix of the keys of a kind. -/
def Kind.keyPrefix : Kind → String
  | schema => "SCHEMA_"
  | credential => "CRED_"
  | did => "DID_"

/-- The key of a record. -/
def key (k : Kind) (id : GoString) : GoString := GoString.ofString k.keyPrefix ++ id

/-- The world state: the JSON text under each key. -/
abbrev WorldState := AList fun _ : GoString => String

/-- A call into the peer that can fail. -/
inductive StubCall where
  | getState (key : GoString)
  | putState (key : GoString) (value : String)
  | setEvent (name payload : String)

/-- What a transaction function sees of the peer. -/
structure Stub where
  state : WorldState
  /-- The seconds of the transaction's timestamp, if the stub returns one. -/
  txTimestamp : Option Int64
  /-- The error of a call that fails. -/
  fault : StubCall → Option GoString

/-- An event of a transaction. -/
structure Event where
  name : String
  payload : String
deriving DecidableEq

/-- What a transaction commits: its writes in order and its event. -/
structure Effects where
  writes : List (GoString × String) := []
  event : Option Event := none

/-- An error of a transaction function. -/
inductive GoError where
  /-- A message of the contract. -/
  | message (text : GoString)
  /-- A message of the contract in front of the error of a call. -/
  | wrapped (text : String) (cause : GoError)
  /-- An error of `encoding/json`. -/
  | json
  /-- An error of the peer. -/
  | stub (text : GoString)

namespace Stub

/-- The error of a call, if it fails. -/
def call (stub : Stub) (c : StubCall) : Except GoError Unit :=
  match stub.fault c with
  | some text => .error (.stub text)
  | none => .ok ()

/-- `GetState`: the value before the transaction. -/
def getState (stub : Stub) (key : GoString) : Except GoError (Option String) := do
  stub.call (.getState key)
  return stub.state.lookup key

/-- `PutState`: a write, behind the earlier ones of the transaction. -/
def putState (stub : Stub) (eff : Effects) (key : GoString) (value : String) :
    Except GoError Effects := do
  stub.call (.putState key value)
  return { eff with writes := eff.writes ++ [(key, value)] }

/-- `SetEvent`: a transaction has one event, the last one set. -/
def setEvent (stub : Stub) (eff : Effects) (name payload : String) : Except GoError Effects := do
  stub.call (.setEvent name payload)
  return { eff with event := some ⟨name, payload⟩ }

/-- The seconds of the timestamp, with `0` for none. -/
def txSeconds (stub : Stub) : Int64 := stub.txTimestamp.getD 0

end Stub

/-! ## Reading a record

The functions that read share their errors, but for the text that names what is missing. -/

/-- `json.Unmarshal` with its error. -/
def unmarshalOrError {α : Type} (decode : Decoder α) (text : String) (old : α) :
    Except GoError α :=
  match unmarshal decode text old with
  | some a => .ok a
  | none => .error .json

/-- What `GetSchema`, `GetCredentialMetadata` and `ResolveDID` share: read the record of a kind,
with a message for the case that there is none. -/
def getRecord {α : Type} (stub : Stub) (k : Kind) (decode : Decoder α) (zero : α)
    (missing : GoString) (id : GoString) : Except GoError α :=
  match stub.getState (key k id) with
  | .error err => .error (.wrapped "failed reading world state: " err)
  | .ok none => .error (.message missing)
  | .ok (some text) => unmarshalOrError decode text zero

/-- `GetSchema`: the schema under an id, or an error. -/
def getSchema (stub : Stub) (schemaId : GoString) : Except GoError CredentialSchema :=
  getRecord stub .schema CredentialSchema.decode {}
    (GoString.ofString "schema " ++ schemaId ++ GoString.ofString " does not exist") schemaId

/-- `GetCredentialMetadata`: the record under an id, or an error. -/
def getCredentialMetadata (stub : Stub) (credentialId : GoString) :
    Except GoError CredentialMetadata :=
  getRecord stub .credential CredentialMetadata.decode {}
    (GoString.ofString "credential " ++ credentialId ++
      GoString.ofString " metadata does not exist") credentialId

/-- `ResolveDID`: the document of a DID, or an error. -/
def resolveDid (stub : Stub) (did : GoString) : Except GoError DIDDocument :=
  getRecord stub .did DIDDocument.decode {}
    (GoString.ofString "did document " ++ did ++ GoString.ofString " does not exist") did

/-- `IsCredentialRevoked`: the flag of the record, which must exist. -/
def isCredentialRevoked (stub : Stub) (credentialId : GoString) : Except GoError Bool := do
  let metadata ← getCredentialMetadata stub credentialId
  return metadata.revoked

/-! ## Writing a record

Each of them writes one record; only a revocation looks at what is there. -/

/-- The attributes that `RegisterSchema` reads from its argument. -/
def parseAttributes (attributesJson : GoString) : Option (Option (List SchemaAttribute)) :=
  unmarshal (decodeSlice {} SchemaAttribute.decode) (Bytes.utf8Lossy attributesJson) none

/-- `RegisterSchema`: a schema with the parsed attributes, in place of an earlier one. -/
def registerSchema (stub : Stub) (schemaId issuerDid name version attributesJson : GoString) :
    Except GoError Effects :=
  match parseAttributes attributesJson with
  | none => .error (.wrapped "failed to parse schema attributes payload: " .json)
  | some attributes =>
    let schema : CredentialSchema :=
      { schemaId := schemaId
        issuerDid := issuerDid
        name := name
        version := version
        attributes := attributes
        created := stub.txSeconds }
    stub.putState {} (key .schema schemaId) (marshal schema.encode)

/-- `RecordCredentialMetadata`: a record that is not revoked, in place of an earlier one. -/
def recordCredentialMetadata (stub : Stub)
    (credentialId schemaId issuerDid subjectDid : GoString) (expiresAt : Int64) :
    Except GoError Effects :=
  let metadata : CredentialMetadata :=
    { credentialId := credentialId
      schemaId := schemaId
      issuerDid := issuerDid
      subjectDid := subjectDid
      issuedAt := stub.txSeconds
      expiresAt := expiresAt
      revoked := false }
  stub.putState {} (key .credential credentialId) (marshal metadata.encode)

/-- The payload of a revocation event; `json.Marshal` sorts the keys of a map. -/
def revocationPayload (credentialId : GoString) (revokedAt : Int64) : Json :=
  .obj [("credential_id", encodeString credentialId),
    ("reason", encodeString (GoString.ofString "Revoked via Administrative Lifecycle Request")),
    ("revoked_at", encodeInt64 revokedAt)]

/-- `RevokeCredential`: the flag of an existing record is set, and an event is emitted. -/
def revokeCredential (stub : Stub) (credentialId : GoString) : Except GoError Effects := do
  let metadata ← getCredentialMetadata stub credentialId
  let eff ← stub.putState {} (key .credential credentialId)
    (marshal { metadata with revoked := true }.encode)
  match stub.setEvent eff "RevokeCredential"
      (marshal (revocationPayload credentialId stub.txSeconds)) with
  | .error err => .error (.wrapped "failed to emit RevokeCredential event: " err)
  | .ok eff => .ok eff

/-- The document that `RegisterDID` builds. -/
def newDidDocument (did issuerDid publicKey : GoString) : DIDDocument :=
  let verificationMethodId := did ++ GoString.ofString "#key-1"
  { context := some [GoString.ofString "https://www.w3.org/ns/did/v1"]
    id := did
    publicKey := publicKey
    verificationMethod := some [
      { id := verificationMethodId
        type := GoString.ofString "Ed25519VerificationKey2020"
        controller := did
        publicKeyMultibase := publicKey }]
    authentication := some [verificationMethodId]
    assertionMethod := some [verificationMethodId]
    issuerDid := issuerDid }

/-- `RegisterDID`: a document with one key, in place of an earlier one. -/
def registerDid (stub : Stub) (did issuerDid publicKey : GoString) : Except GoError Effects :=
  if did = [] ∨ issuerDid = [] ∨ publicKey = [] then
    .error (.message (GoString.ofString "did, issuer DID, and public key are required"))
  else
    stub.putState {} (key .did did) (marshal (newDidDocument did issuerDid publicKey).encode)

/-! ## Keys

Records of different kinds never share a key. -/

/-- **A key determines the kind and the id of its record.** -/
theorem key_inj {k k' : Kind} {id id' : GoString} : key k id = key k' id' ↔ k = k' ∧ id = id' := by
  constructor
  · intro h
    cases k <;> cases k'
    case schema.schema | credential.credential | did.did =>
      exact ⟨rfl, List.append_cancel_left h⟩
    all_goals
      exact absurd (List.cons.inj h).1 (by decide)
  · rintro ⟨rfl, rfl⟩
    rfl

/-! ## What a function that succeeds has done

One lemma for each function: the write, the event, and what was read for it. -/

lemma Stub.putState_eq_ok {stub : Stub} {eff eff' : Effects} {k : GoString} {v : String}
    (h : stub.putState eff k v = .ok eff') :
    eff' = { eff with writes := eff.writes ++ [(k, v)] } := by
  rw [Stub.putState, Stub.call] at h
  cases hf : stub.fault (.putState k v) with
  | some text => rw [hf] at h; cases h
  | none => rw [hf] at h; cases h; rfl

lemma Stub.setEvent_eq_ok {stub : Stub} {eff eff' : Effects} {name payload : String}
    (h : stub.setEvent eff name payload = .ok eff') :
    eff' = { eff with event := some ⟨name, payload⟩ } := by
  rw [Stub.setEvent, Stub.call] at h
  cases hf : stub.fault (.setEvent name payload) with
  | some text => rw [hf] at h; cases h
  | none => rw [hf] at h; cases h; rfl

/-- A record that is read is what the text under its key decodes to. -/
lemma getRecord_eq_ok {α : Type} {stub : Stub} {k : Kind} {decode : Decoder α} {zero a : α}
    {missing id : GoString} (h : getRecord stub k decode zero missing id = .ok a) :
    ∃ text, stub.state.lookup (key k id) = some text ∧ unmarshal decode text zero = some a := by
  rw [getRecord, Stub.getState, Stub.call] at h
  cases hf : stub.fault (.getState (key k id)) with
  | some err => rw [hf] at h; cases h
  | none =>
    rw [hf] at h
    cases hl : stub.state.lookup (key k id) with
    | none => simp [hl, pure, Except.pure, bind, Except.bind] at h
    | some text =>
      refine ⟨text, rfl, ?_⟩
      simp only [hl, pure, Except.pure, bind, Except.bind, unmarshalOrError] at h
      cases hu : unmarshal decode text zero with
      | none => rw [hu] at h; cases h
      | some b => rw [hu] at h; cases h; rfl

/-- The writes of a `RegisterSchema`. -/
theorem registerSchema_eq_ok {stub : Stub}
    {schemaId issuerDid name version attributesJson : GoString} {eff : Effects}
    (h : registerSchema stub schemaId issuerDid name version attributesJson = .ok eff) :
    ∃ attributes, parseAttributes attributesJson = some attributes ∧
      eff = { writes := [(key .schema schemaId, marshal (CredentialSchema.encode
        ⟨schemaId, issuerDid, name, version, attributes, stub.txSeconds⟩))] } := by
  rw [registerSchema] at h
  cases ha : parseAttributes attributesJson with
  | none => rw [ha] at h; cases h
  | some attributes =>
    rw [ha] at h
    exact ⟨attributes, rfl, Stub.putState_eq_ok h⟩

/-- The writes of a `RecordCredentialMetadata`. -/
theorem recordCredentialMetadata_eq_ok {stub : Stub}
    {credentialId schemaId issuerDid subjectDid : GoString} {expiresAt : Int64} {eff : Effects}
    (h : recordCredentialMetadata stub credentialId schemaId issuerDid subjectDid expiresAt =
      .ok eff) :
    eff = { writes := [(key .credential credentialId, marshal (CredentialMetadata.encode
      ⟨credentialId, schemaId, issuerDid, subjectDid, stub.txSeconds, expiresAt, false⟩))] } :=
  Stub.putState_eq_ok h

/-- The writes and the event of a `RevokeCredential`: it writes the record it reads. -/
theorem revokeCredential_eq_ok {stub : Stub} {credentialId : GoString} {eff : Effects}
    (h : revokeCredential stub credentialId = .ok eff) :
    ∃ metadata, getCredentialMetadata stub credentialId = .ok metadata ∧
      eff = { writes := [(key .credential credentialId,
                marshal { metadata with revoked := true }.encode)],
              event := some ⟨"RevokeCredential",
                marshal (revocationPayload credentialId stub.txSeconds)⟩ } := by
  rw [revokeCredential] at h
  cases hm : getCredentialMetadata stub credentialId with
  | error err => rw [hm] at h; cases h
  | ok metadata =>
    refine ⟨metadata, rfl, ?_⟩
    simp only [hm, bind, Except.bind] at h
    cases hp : stub.putState {} (key .credential credentialId)
        (marshal { metadata with revoked := true }.encode) with
    | error err => rw [hp] at h; cases h
    | ok eff' =>
      have heff' := Stub.putState_eq_ok hp
      simp only [hp] at h
      cases hs : stub.setEvent eff' "RevokeCredential"
          (marshal (revocationPayload credentialId stub.txSeconds)) with
      | error err => rw [hs] at h; cases h
      | ok eff'' =>
        rw [hs] at h
        cases h
        rw [Stub.setEvent_eq_ok hs, heff']
        rfl

/-- The writes of a `RegisterDID`, which requires all its arguments. -/
theorem registerDid_eq_ok {stub : Stub} {did issuerDid publicKey : GoString} {eff : Effects}
    (h : registerDid stub did issuerDid publicKey = .ok eff) :
    (did ≠ [] ∧ issuerDid ≠ [] ∧ publicKey ≠ []) ∧
      eff = { writes := [(key .did did,
        marshal (newDidDocument did issuerDid publicKey).encode)] } := by
  rw [registerDid] at h
  split at h
  · cases h
  · rename_i hempty
    simp only [not_or] at hempty
    exact ⟨hempty, Stub.putState_eq_ok h⟩

end DZTA
