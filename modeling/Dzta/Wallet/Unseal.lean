import Dzta.Library.SerdeJson
import Dzta.Wallet.Record
import Dzta.Zkp.Commitment

/-!
# Unsealing a record in the enclave

The function with which the enclave gets from a raw record to a witness.  It decrypts the record,
or takes the raw bytes where that fails; parses a subject out of the result, either natively or out
of a verifiable credential; and where that fails too, parses the raw bytes under the exclusive or
with the wallet key.

Authentication is therefore no precondition.  **`unseal_eq_ok_iff`** says which subjects a witness
can come from: there are three sources (`Unseals`), and only the first is an authenticated record.
A record that is nothing but the printed subject is accepted under every key
(`unseal_toString_eq_ok`), so the host chooses the witness.
-/

namespace DZTA

open Json

/-! ## Subjects and witnesses

What is read of a record and what is derived from it. -/

/-- `DecryptedCredentialSubject`: what the enclave takes from a credential. -/
structure DecryptedCredentialSubject where
  userClearanceLevel : UInt64
  userRoleScalar : String
  subjectDid : String
  credentialId : String
deriving DecidableEq

namespace DecryptedCredentialSubject

/-- The derived `Deserialize`: an object with the four fields, or an array of their values. -/
def deserialize : Json → Option DecryptedCredentialSubject
  | .obj ms => do
    let userClearanceLevel ← (← requiredField "user_clearance_level" ms).asU64?
    let userRoleScalar ← (← requiredField "user_role_scalar" ms).asString?
    let subjectDid ← (← requiredField "subject_did" ms).asString?
    let credentialId ← (← requiredField "credential_id" ms).asString?
    some ⟨userClearanceLevel, userRoleScalar, subjectDid, credentialId⟩
  | .arr [userClearanceLevel, userRoleScalar, subjectDid, credentialId] => do
    some ⟨← userClearanceLevel.asU64?, ← userRoleScalar.asString?, ← subjectDid.asString?,
      ← credentialId.asString?⟩
  | _ => none

/-- The derived `Serialize`. -/
def serialize (subject : DecryptedCredentialSubject) : Json :=
  .obj [("user_clearance_level", ofU64 subject.userClearanceLevel),
    ("user_role_scalar", .str subject.userRoleScalar), ("subject_did", .str subject.subjectDid),
    ("credential_id", .str subject.credentialId)]

@[simp] lemma deserialize_serialize (subject : DecryptedCredentialSubject) :
    deserialize subject.serialize = some subject := by
  simp [deserialize, serialize, requiredField]

lemma plain_serialize (subject : DecryptedCredentialSubject) : subject.serialize.Plain := by
  simp [serialize]

lemma depth_serialize (subject : DecryptedCredentialSubject) : subject.serialize.depth ≤ 127 := by
  simp [serialize]

end DecryptedCredentialSubject

/-- `DerivedEnclaveWitness`: what is proved, with the commitment that is published. -/
structure DerivedEnclaveWitness where
  clearanceLevel : UInt64
  userRoleScalar : String
  secretNullifier : FixedBytes 32
  publicCommitment : Bytes
deriving DecidableEq

section Unseal

variable (cipher : Aead) (digest : Bytes → FixedBytes 32) (serde : SerdeJson)

/-- The witness derived from a subject. -/
def deriveWitness (masterSeed : FixedBytes 32) (subject : DecryptedCredentialSubject) :
    DerivedEnclaveWitness :=
  let secretNullifier :=
    deriveNullifier digest subject.subjectDid subject.credentialId masterSeed
  let publicCommitment :=
    computeCommitment digest secretNullifier subject.userClearanceLevel subject.userRoleScalar
  { clearanceLevel := subject.userClearanceLevel
    userRoleScalar := stringToScalar digest subject.userRoleScalar
    secretNullifier
    publicCommitment }

/-! ## Parsing

A record may be a subject alone or a whole credential. -/

/-- `ok_or_else`, with an error of execution. -/
def orFailed {α : Type} (message : String) : Option α → WalletResult α :=
  Except.okOr (.executionFailed message)

/-- The subject in a verifiable credential. -/
def subjectOfCredential (value : Json) (credentialId : Option String) :
    WalletResult DecryptedCredentialSubject := do
  let subjectValue ←
    orFailed "Credential record has no credentialSubject" (value.member? "credentialSubject")
  let subjectDid ←
    orFailed "Credential subject has no id" ((subjectValue.member? "id").bind asString?)
  let userRoleScalar ← orFailed "Credential subject has no userRoleId"
    ((subjectValue.member? "userRoleId").bind asString?)
  let userClearanceLevel ← orFailed "Credential subject has no clearanceLevel"
    ((subjectValue.member? "clearanceLevel").bind asU64?)
  let credentialId ←
    orFailed "Credential ID is required for W3C credential records" credentialId
  return ⟨userClearanceLevel, userRoleScalar, subjectDid, credentialId⟩

/-- `parse_credential_subject`: a record is read as a subject alone or as a whole credential. -/
def parseCredentialSubject (rawRecord : Bytes) (credentialId : Option String) :
    WalletResult DecryptedCredentialSubject :=
  match serde.fromSlice DecryptedCredentialSubject.deserialize rawRecord with
  | .ok subject => .ok subject
  | .error _ =>
    match serde.value rawRecord with
    | .error e => .error (.executionFailed ("Credential record is not valid JSON: " ++ e))
    | .ok value => subjectOfCredential value credentialId

/-- The exclusive or of a record with the repeated key; nothing, if the key is empty. -/
def legacyCleartext (rawCiphertext dbKey : Bytes) : Bytes :=
  if dbKey = [] then []
  else rawCiphertext.mapIdx fun i c => c ^^^ dbKey.getD (i % dbKey.length) 0

/-- The plaintext of a record, or the record itself where it does not open. -/
def cleartextBytes (rawCiphertext dbKey : Bytes) : Bytes :=
  match decryptWalletRecord cipher digest rawCiphertext dbKey with
  | .ok cleartext => cleartext
  | .error _ => rawCiphertext

/-- `unseal_and_derive_witness_with_credential_id`: a record is opened and read, and what is proved
is derived. -/
def unsealAndDeriveWitnessWithCredentialId (rawCiphertext dbKey : Bytes)
    (masterSeed : FixedBytes 32) (credentialId : Option String) :
    WalletResult DerivedEnclaveWitness := do
  let cleartextBytes := cleartextBytes cipher digest rawCiphertext dbKey
  let subject ←
    match parseCredentialSubject serde cleartextBytes credentialId with
    | .ok subject => .ok subject
    | .error _ =>
      match serde.fromSlice DecryptedCredentialSubject.deserialize
        (legacyCleartext rawCiphertext dbKey) with
      | .ok subject => .ok subject
      | .error e =>
        .error (.executionFailed ("Failed to parse unsealed credential subject: " ++ e))
  return deriveWitness digest masterSeed subject

/-! ## Where a witness comes from

A record opens with its key, or it is taken as it is, or the older cipher is tried. -/

/-- The subjects that the enclave takes from a raw record. -/
inductive Unseals (rawCiphertext dbKey : Bytes) (credentialId : Option String) :
    DecryptedCredentialSubject → Prop
  /-- The subject is parsed out of an authenticated record. -/
  | authenticated {plaintext subject} :
      decryptWalletRecord cipher digest rawCiphertext dbKey = .ok plaintext →
      parseCredentialSubject serde plaintext credentialId = .ok subject →
      Unseals rawCiphertext dbKey credentialId subject
  /-- The record does not open, and its raw bytes parse. -/
  | raw {e subject} :
      decryptWalletRecord cipher digest rawCiphertext dbKey = .error e →
      parseCredentialSubject serde rawCiphertext credentialId = .ok subject →
      Unseals rawCiphertext dbKey credentialId subject
  /-- Neither parses, and the exclusive or with the key does, natively. -/
  | legacy {e subject} :
      parseCredentialSubject serde (cleartextBytes cipher digest rawCiphertext dbKey)
        credentialId = .error e →
      serde.fromSlice DecryptedCredentialSubject.deserialize
        (legacyCleartext rawCiphertext dbKey) = .ok subject →
      Unseals rawCiphertext dbKey credentialId subject

variable {cipher digest serde}

lemma parseCredentialSubject_of_ok {rawRecord : Bytes} {credentialId : Option String}
    {subject : DecryptedCredentialSubject}
    (h : serde.fromSlice DecryptedCredentialSubject.deserialize rawRecord = .ok subject) :
    parseCredentialSubject serde rawRecord credentialId = .ok subject := by
  rw [parseCredentialSubject, h]

lemma unseal_of_parse {rawCiphertext dbKey : Bytes} {credentialId : Option String}
    {subject : DecryptedCredentialSubject} (masterSeed : FixedBytes 32)
    (h : parseCredentialSubject serde (cleartextBytes cipher digest rawCiphertext dbKey)
      credentialId = .ok subject) :
    unsealAndDeriveWitnessWithCredentialId cipher digest serde rawCiphertext dbKey masterSeed
      credentialId = .ok (deriveWitness digest masterSeed subject) := by
  rw [unsealAndDeriveWitnessWithCredentialId, h]
  rfl

lemma cleartextBytes_of_ok {rawCiphertext dbKey plaintext : Bytes}
    (h : decryptWalletRecord cipher digest rawCiphertext dbKey = .ok plaintext) :
    cleartextBytes cipher digest rawCiphertext dbKey = plaintext := by
  rw [cleartextBytes, h]

lemma cleartextBytes_of_error {rawCiphertext dbKey : Bytes} {e : WalletError}
    (h : decryptWalletRecord cipher digest rawCiphertext dbKey = .error e) :
    cleartextBytes cipher digest rawCiphertext dbKey = rawCiphertext := by
  rw [cleartextBytes, h]

/-- A witness comes from one of the three sources. -/
lemma exists_unseals {rawCiphertext dbKey : Bytes} {masterSeed : FixedBytes 32}
    {credentialId : Option String} {witness : DerivedEnclaveWitness}
    (h : unsealAndDeriveWitnessWithCredentialId cipher digest serde rawCiphertext dbKey masterSeed
      credentialId = .ok witness) :
    ∃ subject, Unseals cipher digest serde rawCiphertext dbKey credentialId subject ∧
      witness = deriveWitness digest masterSeed subject := by
  cases hparse : parseCredentialSubject serde (cleartextBytes cipher digest rawCiphertext dbKey)
      credentialId with
  | ok subject =>
    have hwitness := h.symm.trans (unseal_of_parse masterSeed hparse)
    refine ⟨subject, ?_, Except.ok.inj hwitness⟩
    -- what was parsed is the plaintext or the record itself
    cases hdecrypt : decryptWalletRecord cipher digest rawCiphertext dbKey with
    | ok plaintext =>
      rw [cleartextBytes_of_ok hdecrypt] at hparse
      exact .authenticated hdecrypt hparse
    | error e =>
      rw [cleartextBytes_of_error hdecrypt] at hparse
      exact .raw hdecrypt hparse
  | error e =>
    rw [unsealAndDeriveWitnessWithCredentialId] at h
    cases hlegacy : serde.fromSlice DecryptedCredentialSubject.deserialize
        (legacyCleartext rawCiphertext dbKey) with
    | ok subject =>
      simp only [hparse, hlegacy] at h
      exact ⟨subject, .legacy hparse hlegacy, (Except.ok.inj h).symm⟩
    | error e =>
      simp only [hparse, hlegacy] at h
      cases h

/-- Each source is enough. -/
lemma unseal_of_unseals {rawCiphertext dbKey : Bytes} {credentialId : Option String}
    {subject : DecryptedCredentialSubject} (masterSeed : FixedBytes 32)
    (h : Unseals cipher digest serde rawCiphertext dbKey credentialId subject) :
    unsealAndDeriveWitnessWithCredentialId cipher digest serde rawCiphertext dbKey masterSeed
      credentialId = .ok (deriveWitness digest masterSeed subject) := by
  cases h with
  | authenticated hdecrypt hparse =>
    exact unseal_of_parse masterSeed (by rwa [cleartextBytes_of_ok hdecrypt])
  | raw hdecrypt hparse =>
    exact unseal_of_parse masterSeed (by rwa [cleartextBytes_of_error hdecrypt])
  | legacy hparse hlegacy =>
    simp only [unsealAndDeriveWitnessWithCredentialId, hparse, hlegacy]
    rfl

/-- **Where a witness comes from**: exactly from the three sources, whatever the record, the key,
the seed and the credential id. -/
theorem unseal_eq_ok_iff (rawCiphertext dbKey : Bytes) (masterSeed : FixedBytes 32)
    (credentialId : Option String) (witness : DerivedEnclaveWitness) :
    unsealAndDeriveWitnessWithCredentialId cipher digest serde rawCiphertext dbKey masterSeed
        credentialId = .ok witness ↔
      ∃ subject, Unseals cipher digest serde rawCiphertext dbKey credentialId subject ∧
        witness = deriveWitness digest masterSeed subject := by
  constructor
  · exact exists_unseals
  · rintro ⟨subject, hsource, rfl⟩
    exact unseal_of_unseals masterSeed hsource

/-! ## A record that the host writes itself

A record that nobody has encrypted is taken as it is. -/

/-- The text of an object starts with a brace. -/
lemma utf8_toString_obj (ms : List (String × Json)) :
    ∃ bs, Bytes.utf8 (SerdeJson.toString (.obj ms)) = 0x7b :: bs := by
  cases ms with
  | nil => exact ⟨[0x7d], rfl⟩
  | cons m ms =>
    obtain ⟨k, v⟩ := m
    rw [SerdeJson.toString, print, Bytes.utf8, String.toList_ofList, List.flatMap_cons]
    exact ⟨_, rfl⟩

/-- The text of an object does not open: it does not start with the magic. -/
lemma decryptWalletRecord_toString_obj (ms : List (String × Json)) (dbKey : Bytes) :
    decryptWalletRecord cipher digest (Bytes.utf8 (SerdeJson.toString (.obj ms))) dbKey =
      .error (.executionFailed "Invalid wallet record envelope") := by
  obtain ⟨bs, hbs⟩ := utf8_toString_obj ms
  rw [hbs, decryptWalletRecord, dif_pos]
  right
  rfl

lemma parseCredentialSubject_toString (subject : DecryptedCredentialSubject)
    (credentialId : Option String) :
    parseCredentialSubject serde (Bytes.utf8 (SerdeJson.toString subject.serialize))
      credentialId = .ok subject :=
  parseCredentialSubject_of_ok ((serde.fromSlice_toString DecryptedCredentialSubject.deserialize
    subject.plain_serialize subject.depth_serialize subject).mpr subject.deserialize_serialize)

/-- **A printed subject is accepted**, under every key and for every credential id. -/
theorem unseal_toString_eq_ok (subject : DecryptedCredentialSubject) (dbKey : Bytes)
    (masterSeed : FixedBytes 32) (credentialId : Option String) :
    unsealAndDeriveWitnessWithCredentialId cipher digest serde
        (Bytes.utf8 (SerdeJson.toString subject.serialize)) dbKey masterSeed credentialId =
      .ok (deriveWitness digest masterSeed subject) := by
  have hcleartext : cleartextBytes cipher digest _ dbKey =
      Bytes.utf8 (SerdeJson.toString subject.serialize) :=
    cleartextBytes_of_error (decryptWalletRecord_toString_obj _ dbKey)
  refine unseal_of_parse masterSeed ?_
  rw [hcleartext]
  exact parseCredentialSubject_toString subject credentialId

/-- **A witness without an authenticated record**: whatever the cipher, the hash function and the
parser, one record yields a witness and does not open. -/
theorem unseals_without_authentication :
    ¬ ∃ (cipher : Aead) (digest : Bytes → FixedBytes 32) (serde : SerdeJson),
      ∀ (rawCiphertext dbKey : Bytes) (masterSeed : FixedBytes 32) (credentialId : Option String)
        (witness : DerivedEnclaveWitness),
        unsealAndDeriveWitnessWithCredentialId cipher digest serde rawCiphertext dbKey masterSeed
          credentialId = .ok witness →
        ∃ plaintext subject,
          decryptWalletRecord cipher digest rawCiphertext dbKey = .ok plaintext ∧
          parseCredentialSubject serde plaintext credentialId = .ok subject ∧
          witness = deriveWitness digest masterSeed subject := by
  rintro ⟨cipher, digest, serde, hauthentic⟩
  let subject : DecryptedCredentialSubject := ⟨5, "systems-engineer", "did:dzta:mallory", "vc-1"⟩
  obtain ⟨plaintext, _, hdecrypt, -, -⟩ := hauthentic _ [] ⟨List.replicate 32 0, rfl⟩ none _
    (unseal_toString_eq_ok subject [] ⟨List.replicate 32 0, rfl⟩ none)
  rw [DecryptedCredentialSubject.serialize, decryptWalletRecord_toString_obj] at hdecrypt
  cases hdecrypt

end Unseal

end DZTA
