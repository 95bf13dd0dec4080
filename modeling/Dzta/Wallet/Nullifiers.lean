import Dzta.Wallet.Unseal

/-!
# What a nullifier stands for

A nullifier is the hash of four pieces without a separator: a tag, the DID of the subject, the id of
the credential, and the master seed.  Two questions, both about two derivations.

**Does it tell credentials apart?**  The tag and the seed have fixed lengths, so the message gives
the seed and the DID followed by the id, and no more (`nullifierMessage_eq_iff`).  As long as the
hash does not collide, two nullifiers coincide by mistake exactly if one string is split at two
places (`deriveNullifier_binds_iff`).

**Is it one for each record?**  A native record carries its id, and so does a legacy one.  A
verifiable credential carries none (`CredentialOf`): the id is the argument of the caller, and each
argument gives its own nullifier (`nullifier_of_record`).
-/

namespace DZTA

open Json

/-! ## The hashed message

The parts stand one behind the other, without their lengths. -/

section Message

/-- What `derive_nullifier` hashes. -/
def nullifierMessage (subjectDid credentialId : String) (secretSeedBytes : FixedBytes 32) : Bytes :=
  Bytes.utf8 "dZTA_NULLIFIER_DOMAIN_v1" ++ Bytes.utf8 subjectDid ++ Bytes.utf8 credentialId ++
    secretSeedBytes.1

variable {digest : Bytes → FixedBytes 32} {d d' c c' : String} {s s' : FixedBytes 32}

lemma deriveNullifier_eq : deriveNullifier digest d c s = digest (nullifierMessage d c s) := rfl

lemma nullifierMessage_eq :
    nullifierMessage d c s =
      Bytes.utf8 "dZTA_NULLIFIER_DOMAIN_v1" ++ Bytes.utf8 (d ++ c) ++ s.1 := by
  rw [nullifierMessage, Bytes.utf8_append, List.append_assoc (Bytes.utf8 _)]

/-- **What a message determines**: the seed, and the DID followed by the id. -/
lemma nullifierMessage_eq_iff :
    nullifierMessage d c s = nullifierMessage d' c' s' ↔ d ++ c = d' ++ c' ∧ s = s' := by
  rw [nullifierMessage_eq, nullifierMessage_eq]
  constructor
  · intro h
    -- the seed is the last 32 bytes, and the tag is the same
    obtain ⟨hpieces, hseed⟩ := List.append_inj' h (s.2.trans s'.2.symm)
    exact ⟨Bytes.utf8_injective (List.append_cancel_left hpieces), Subtype.ext hseed⟩
  · rintro ⟨hpieces, rfl⟩
    rw [hpieces]

lemma deriveNullifier_eq_iff
    (hfree : ¬ Collision digest (nullifierMessage d c s) (nullifierMessage d' c' s')) :
    deriveNullifier digest d c s = deriveNullifier digest d' c' s' ↔
      d ++ c = d' ++ c' ∧ s = s' := by
  rw [deriveNullifier_eq, deriveNullifier_eq, hash_eq_iff_of_not_collision hfree,
    nullifierMessage_eq_iff]

variable (d d' c c' s s')

/-- **What a nullifier binds.**  Unless the messages collide, equal nullifiers come from equal
subjects, credentials and seeds exactly if the two derivations do not split one string at two
places under one seed. -/
theorem deriveNullifier_binds_iff
    (hfree : ¬ Collision digest (nullifierMessage d c s) (nullifierMessage d' c' s')) :
    (deriveNullifier digest d c s = deriveNullifier digest d' c' s' →
        d = d' ∧ c = c' ∧ s = s') ↔
      (s = s' → d ++ c = d' ++ c' → d = d') := by
  rw [deriveNullifier_eq_iff hfree]
  constructor
  · intro hbinds hseed hpieces
    exact (hbinds ⟨hpieces, hseed⟩).1
  · rintro hsplit ⟨hpieces, hseed⟩
    have hdid := hsplit hseed hpieces
    rw [hdid, String.append_right_inj] at hpieces
    exact ⟨hdid, hpieces, hseed⟩

/-- The credential `vc-1` of Alice and `evc-1` of Alic: with one seed the nullifier does not bind
them, since the texts run together. -/
theorem deriveNullifier_binds_iff_alice :
    (deriveNullifier sha256 "did:dzta:alice" "vc-1" ⟨List.replicate 32 7, rfl⟩ =
        deriveNullifier sha256 "did:dzta:alic" "evc-1" ⟨List.replicate 32 7, rfl⟩ →
      "did:dzta:alice" = "did:dzta:alic" ∧ "vc-1" = "evc-1" ∧
        (⟨List.replicate 32 7, rfl⟩ : FixedBytes 32) = ⟨List.replicate 32 7, rfl⟩) ↔
      ((⟨List.replicate 32 7, rfl⟩ : FixedBytes 32) = ⟨List.replicate 32 7, rfl⟩ →
        "did:dzta:alice" ++ "vc-1" = "did:dzta:alic" ++ "evc-1" →
        "did:dzta:alice" = "did:dzta:alic") :=
  deriveNullifier_binds_iff _ _ _ _ _ _ fun h =>
    h.1 (nullifierMessage_eq_iff.mpr ⟨by decide, rfl⟩)

/-- **Two credentials with one nullifier**, whatever the hash function. -/
theorem deriveNullifier_shared :
    ¬ ∃ digest : Bytes → FixedBytes 32, ∀ (d d' c c' : String) (s s' : FixedBytes 32),
      ¬ Collision digest (nullifierMessage d c s) (nullifierMessage d' c' s') →
      deriveNullifier digest d c s = deriveNullifier digest d' c' s' →
      d = d' ∧ c = c' ∧ s = s' := by
  rintro ⟨digest, hbinds⟩
  let seed : FixedBytes 32 := ⟨List.replicate 32 7, rfl⟩
  have hsame : nullifierMessage "did:dzta:alice" "vc-1" seed =
      nullifierMessage "did:dzta:alic" "evc-1" seed :=
    nullifierMessage_eq_iff.mpr ⟨by decide, rfl⟩
  obtain ⟨hdid, -, -⟩ := hbinds "did:dzta:alice" "did:dzta:alic" "vc-1" "evc-1" seed seed
    (fun h => h.1 hsame) (congrArg digest hsame)
  revert hdid
  decide

end Message

/-! ## Whose id it is

The id comes from the record or from the caller, by the kind of the record. -/

section Record

variable {cipher : Aead} {digest : Bytes → FixedBytes 32} {serde : SerdeJson}

/-- The bytes of a record are a verifiable credential, with this DID, role and clearance in its
subject; no native subject, then. -/
structure CredentialOf (serde : SerdeJson) (rawRecord : Bytes) (subjectDid userRoleScalar : String)
    (userClearanceLevel : UInt64) : Prop where
  not_native : ∀ subject,
    serde.fromSlice DecryptedCredentialSubject.deserialize rawRecord ≠ .ok subject
  members : ∃ value subjectValue, serde.value rawRecord = .ok value ∧
    value.member? "credentialSubject" = some subjectValue ∧
    (subjectValue.member? "id").bind asString? = some subjectDid ∧
    (subjectValue.member? "userRoleId").bind asString? = some userRoleScalar ∧
    (subjectValue.member? "clearanceLevel").bind asU64? = some userClearanceLevel

/-- Of a verifiable credential everything is parsed but the id, which is the argument. -/
lemma CredentialOf.parse {rawRecord : Bytes} {subjectDid userRoleScalar : String}
    {userClearanceLevel : UInt64}
    (h : CredentialOf serde rawRecord subjectDid userRoleScalar userClearanceLevel)
    (credentialId : Option String) :
    parseCredentialSubject serde rawRecord credentialId =
      (orFailed "Credential ID is required for W3C credential records" credentialId).map
        (⟨userClearanceLevel, userRoleScalar, subjectDid, ·⟩) := by
  obtain ⟨value, subjectValue, hvalue, hsubject, hdid, hrole, hclearance⟩ := h.members
  rw [parseCredentialSubject]
  split
  · rename_i subject hnative
    exact absurd hnative (h.not_native subject)
  · simp only [hvalue, subjectOfCredential, hsubject, hdid, hrole, hclearance, orFailed,
      Except.okOr_some, Except.ok_bind]
    cases credentialId <;> rfl

/-- Of anything else the argument is not looked at. -/
lemma parse_eq_of_not_credential {rawRecord : Bytes}
    (h : ∀ subjectDid userRoleScalar userClearanceLevel,
      ¬ CredentialOf serde rawRecord subjectDid userRoleScalar userClearanceLevel)
    (credentialId credentialId' : Option String) :
    parseCredentialSubject serde rawRecord credentialId =
      parseCredentialSubject serde rawRecord credentialId' := by
  rw [parseCredentialSubject, parseCredentialSubject]
  split
  · rfl
  · rename_i hnative
    have hnot : ∀ subject,
        serde.fromSlice DecryptedCredentialSubject.deserialize rawRecord ≠ .ok subject := by
      intro subject hok
      rw [hnative] at hok
      cases hok
    cases hvalue : serde.value rawRecord with
    | error e => rfl
    | ok value =>
      dsimp only
      rw [subjectOfCredential, subjectOfCredential]
      -- the first member that is missing gives the error
      cases hsubject : value.member? "credentialSubject" with
      | none => rfl
      | some subjectValue =>
        cases hdid : (subjectValue.member? "id").bind asString? with
        | none => simp only [orFailed, Except.okOr_some, Except.ok_bind, hdid]; rfl
        | some subjectDid =>
          cases hrole : (subjectValue.member? "userRoleId").bind asString? with
          | none => simp only [orFailed, Except.okOr_some, Except.ok_bind, hdid, hrole]; rfl
          | some userRoleScalar =>
            cases hclearance : (subjectValue.member? "clearanceLevel").bind asU64? with
            | none =>
              simp only [orFailed, Except.okOr_some, Except.ok_bind, hdid, hrole, hclearance]
              rfl
            | some userClearanceLevel =>
              exact absurd ⟨hnot, value, subjectValue, hvalue, hsubject, hdid, hrole, hclearance⟩
                (h _ _ _)

variable {rawCiphertext dbKey : Bytes} {masterSeed : FixedBytes 32}
  {credentialId credentialId' : Option String} {witness witness' : DerivedEnclaveWitness}

lemma unseal_congr
    (h : parseCredentialSubject serde (cleartextBytes cipher digest rawCiphertext dbKey)
        credentialId =
      parseCredentialSubject serde (cleartextBytes cipher digest rawCiphertext dbKey)
        credentialId') :
    unsealAndDeriveWitnessWithCredentialId cipher digest serde rawCiphertext dbKey masterSeed
        credentialId =
      unsealAndDeriveWitnessWithCredentialId cipher digest serde rawCiphertext dbKey masterSeed
        credentialId' := by
  rw [unsealAndDeriveWitnessWithCredentialId, h, unsealAndDeriveWitnessWithCredentialId]

/-- The witness of a verifiable credential is for the argument, if there is one. -/
lemma unseal_credential {subjectDid userRoleScalar : String} {userClearanceLevel : UInt64}
    (h : CredentialOf serde (cleartextBytes cipher digest rawCiphertext dbKey) subjectDid
      userRoleScalar userClearanceLevel) (id : String) :
    unsealAndDeriveWitnessWithCredentialId cipher digest serde rawCiphertext dbKey masterSeed
        (some id) =
      .ok (deriveWitness digest masterSeed ⟨userClearanceLevel, userRoleScalar, subjectDid, id⟩) :=
  unseal_of_parse masterSeed (h.parse (some id))

/-- Without an argument a verifiable credential is not parsed, and only the legacy format is
left. -/
lemma unseal_credential_none {subjectDid userRoleScalar : String} {userClearanceLevel : UInt64}
    (h : CredentialOf serde (cleartextBytes cipher digest rawCiphertext dbKey) subjectDid
      userRoleScalar userClearanceLevel)
    (hunseal : unsealAndDeriveWitnessWithCredentialId cipher digest serde rawCiphertext dbKey
      masterSeed none = .ok witness) :
    ∃ subject, serde.fromSlice DecryptedCredentialSubject.deserialize
        (legacyCleartext rawCiphertext dbKey) = .ok subject ∧
      witness = deriveWitness digest masterSeed subject := by
  obtain ⟨subject, hsource, hwitness⟩ := exists_unseals hunseal
  have hparse := h.parse none
  cases hsource with
  | authenticated hdecrypt hok =>
    rw [cleartextBytes_of_ok hdecrypt, hok] at hparse
    cases hparse
  | raw hdecrypt hok =>
    rw [cleartextBytes_of_error hdecrypt, hok] at hparse
    cases hparse
  | legacy _ hlegacy => exact ⟨subject, hlegacy, hwitness⟩

/-- **The nullifiers of a record.**  Two witnesses from one record, under one key and seed, have one
nullifier if they are for one argument, or if the record is no verifiable credential.  From a
verifiable credential each argument gets the nullifier of its own, so two arguments have two unless
the hash collides; and a witness without an argument is not from the credential. -/
theorem nullifier_of_record
    (h : unsealAndDeriveWitnessWithCredentialId cipher digest serde rawCiphertext dbKey masterSeed
      credentialId = .ok witness)
    (h' : unsealAndDeriveWitnessWithCredentialId cipher digest serde rawCiphertext dbKey masterSeed
      credentialId' = .ok witness') :
    let cleartext := cleartextBytes cipher digest rawCiphertext dbKey
    ((credentialId = credentialId' ∨ ∀ subjectDid userRoleScalar userClearanceLevel,
        ¬ CredentialOf serde cleartext subjectDid userRoleScalar userClearanceLevel) →
      witness.secretNullifier = witness'.secretNullifier) ∧
    ∀ subjectDid userRoleScalar userClearanceLevel,
      CredentialOf serde cleartext subjectDid userRoleScalar userClearanceLevel →
      (∀ id, credentialId = some id →
        witness.secretNullifier = deriveNullifier digest subjectDid id masterSeed) ∧
      (∀ id id', credentialId = some id → credentialId' = some id' →
        ¬ Collision digest (nullifierMessage subjectDid id masterSeed)
          (nullifierMessage subjectDid id' masterSeed) →
        (witness.secretNullifier = witness'.secretNullifier ↔ id = id')) ∧
      (credentialId = none → ∃ subject,
        serde.fromSlice DecryptedCredentialSubject.deserialize
          (legacyCleartext rawCiphertext dbKey) = .ok subject ∧
        witness.secretNullifier =
          deriveNullifier digest subject.subjectDid subject.credentialId masterSeed) := by
  intro cleartext
  constructor
  · intro hsame
    have hparse : parseCredentialSubject serde cleartext credentialId =
        parseCredentialSubject serde cleartext credentialId' := by
      rcases hsame with rfl | hnot
      · rfl
      · exact parse_eq_of_not_credential hnot _ _
    rw [unseal_congr hparse, h'] at h
    rw [Except.ok.inj h]
  · intro subjectDid userRoleScalar userClearanceLevel hcredential
    have hnullifier : ∀ {argument w} id, unsealAndDeriveWitnessWithCredentialId cipher digest serde
        rawCiphertext dbKey masterSeed argument = .ok w → argument = some id →
        w.secretNullifier = deriveNullifier digest subjectDid id masterSeed := by
      rintro argument w id hok rfl
      rw [unseal_credential hcredential] at hok
      rw [← Except.ok.inj hok]
      rfl
    refine ⟨fun id => hnullifier id h, ?_, ?_⟩
    · intro id id' hid hid' hfree
      rw [hnullifier id h hid, hnullifier id' h' hid', deriveNullifier_eq_iff hfree,
        String.append_right_inj]
      exact and_iff_left rfl
    · rintro rfl
      obtain ⟨subject, hlegacy, rfl⟩ := unseal_credential_none hcredential h
      exact ⟨subject, hlegacy, rfl⟩

/-! ## A credential with two nullifiers

The record leaves the choice to the caller. -/

/-- A verifiable credential, as a document. -/
def aliceCredential : Json :=
  .obj [("issuer", .str "did:dzta:issuer"),
    ("credentialSubject", .obj [("id", .str "did:dzta:alice"),
      ("userRoleId", .str "systems-engineer"), ("clearanceLevel", ofU64 3)])]

lemma credentialOf_alice :
    CredentialOf serde (cleartextBytes cipher digest
      (Bytes.utf8 (SerdeJson.toString aliceCredential)) dbKey) "did:dzta:alice"
      "systems-engineer" 3 := by
  have hplain : aliceCredential.Plain := by simp [aliceCredential]
  have hdepth : aliceCredential.depth ≤ 127 := by simp [aliceCredential]
  have hcleartext : cleartextBytes cipher digest
      (Bytes.utf8 (SerdeJson.toString aliceCredential)) dbKey =
        Bytes.utf8 (SerdeJson.toString aliceCredential) :=
    cleartextBytes_of_error (decryptWalletRecord_toString_obj _ dbKey)
  rw [hcleartext]
  refine ⟨fun subject hok => ?_, aliceCredential, _, serde.value_toString hplain hdepth, rfl, rfl,
    rfl, asU64?_ofU64 3⟩
  have hnative : DecryptedCredentialSubject.deserialize aliceCredential = none := rfl
  obtain ⟨e, herror⟩ := serde.fromSlice_toString_error hplain hdepth hnative
  rw [herror] at hok
  cases hok

lemma unseal_alice (dbKey : Bytes) (masterSeed : FixedBytes 32) (id : String) :
    unsealAndDeriveWitnessWithCredentialId cipher digest serde
        (Bytes.utf8 (SerdeJson.toString aliceCredential)) dbKey masterSeed (some id) =
      .ok (deriveWitness digest masterSeed ⟨3, "systems-engineer", "did:dzta:alice", id⟩) :=
  unseal_credential credentialOf_alice id

lemma deriveNullifier_alice_ne :
    deriveNullifier sha256 "did:dzta:alice" "vc-1" ⟨List.replicate 32 7, rfl⟩ ≠
      deriveNullifier sha256 "did:dzta:alice" "vc-2" ⟨List.replicate 32 7, rfl⟩ := by
  decide +kernel

/-- Two ids for the one credential of Alice: the nullifiers are equal exactly if the ids are. -/
theorem nullifier_of_record_alice :
    (deriveWitness sha256 ⟨List.replicate 32 7, rfl⟩
        ⟨3, "systems-engineer", "did:dzta:alice", "vc-1"⟩).secretNullifier =
      (deriveWitness sha256 ⟨List.replicate 32 7, rfl⟩
        ⟨3, "systems-engineer", "did:dzta:alice", "vc-2"⟩).secretNullifier ↔ "vc-1" = "vc-2" := by
  have hunseal : ∀ id, unsealAndDeriveWitnessWithCredentialId .aes256Gcm sha256 .strict
      (Bytes.utf8 (SerdeJson.toString aliceCredential)) [] ⟨List.replicate 32 7, rfl⟩ (some id) =
        _ :=
    unseal_alice [] _
  exact ((nullifier_of_record (hunseal "vc-1") (hunseal "vc-2")).2 _ _ _ credentialOf_alice).2.1 _ _
    rfl rfl fun h => deriveNullifier_alice_ne h.2

/-- **One record, two nullifiers**: with SHA-256, whatever the cipher and the parser, two ids give
two nullifiers of one credential. -/
theorem nullifier_not_of_record :
    ¬ ∃ (cipher : Aead) (serde : SerdeJson), ∀ (rawCiphertext dbKey : Bytes)
      (masterSeed : FixedBytes 32) (credentialId credentialId' : Option String)
      (witness witness' : DerivedEnclaveWitness),
      unsealAndDeriveWitnessWithCredentialId cipher sha256 serde rawCiphertext dbKey masterSeed
        credentialId = .ok witness →
      unsealAndDeriveWitnessWithCredentialId cipher sha256 serde rawCiphertext dbKey masterSeed
        credentialId' = .ok witness' →
      witness.secretNullifier = witness'.secretNullifier := by
  rintro ⟨cipher, serde, hone⟩
  exact deriveNullifier_alice_ne (hone _ [] _ _ _ _ _ (unseal_alice [] _ "vc-1")
    (unseal_alice [] _ "vc-2"))

end Record

end DZTA
