import Dzta.Prover.Witness

/-!
# The subject in a payload

The second function with which the enclave gets at a subject.  It takes the payload as a whole, and
it knows nothing of the format of the wallet: the record is read as it is, or under the exclusive or
with the wallet key where that fails.

On a record that does not open, the function that derives a witness comes down to the same choice,
though it is written otherwise: a verifiable credential never counts there, since no credential id
is given (`parseCredentialSubject_none_eq_ok_iff`), and an empty key leaves nothing to parse.  So
**both ways accept the same records and give the same values** (`unseal_paths_agree`).  They differ
on the records that do open, which only one of them can.
-/

namespace DZTA

/-- `EnclaveIngestionPayload`: what the host gives to the enclave, with the secrets or without
them. -/
structure EnclaveIngestionPayload where
  rawWalletCiphertext : Bytes
  walletDbKey : Option Bytes
  credentialId : Option String
  requiredClearanceLevel : UInt64
  masterSeed : Option (FixedBytes 32)

section Payload

variable (cipher : Aead) (digest : Bytes → FixedBytes 32) (serde : SerdeJson)

/-- The bytes that the subject of a payload is parsed from. -/
def EnclaveIngestionPayload.cleartextBytes (payload : EnclaveIngestionPayload) : Bytes :=
  match payload.walletDbKey with
  | none => payload.rawWalletCiphertext
  | some walletDbKey =>
    if walletDbKey = [] then payload.rawWalletCiphertext
    else
      match serde.fromSlice DecryptedCredentialSubject.deserialize payload.rawWalletCiphertext with
      | .ok _ => payload.rawWalletCiphertext
      | .error _ => legacyCleartext payload.rawWalletCiphertext walletDbKey

/-- `unseal_credential_subject`: the subject of the record, as it is or under the key of the
payload. -/
def unsealCredentialSubject (payload : EnclaveIngestionPayload) :
    WalletResult DecryptedCredentialSubject :=
  (serde.fromSlice DecryptedCredentialSubject.deserialize
    (payload.cleartextBytes serde)).mapError fun e =>
      .executionFailed ("Failed to parse credential subject: " ++ e)

/-- `unseal_and_derive_witness`: the same witness, without the id of a credential. -/
def unsealAndDeriveWitness (rawCiphertext dbKey : Bytes) (masterSeed : FixedBytes 32) :
    WalletResult DerivedEnclaveWitness :=
  unsealAndDeriveWitnessWithCredentialId cipher digest serde rawCiphertext dbKey masterSeed none

variable {cipher digest serde}

/-- **Without a credential id no verifiable credential is a subject.** -/
lemma parseCredentialSubject_none_eq_ok_iff {rawRecord : Bytes}
    {subject : DecryptedCredentialSubject} :
    parseCredentialSubject serde rawRecord none = .ok subject ↔
      serde.fromSlice DecryptedCredentialSubject.deserialize rawRecord = .ok subject := by
  have hcredential : ∀ value, ∃ e, subjectOfCredential value none = .error e := by
    intro value
    cases h : subjectOfCredential value none with
    | error e => exact ⟨e, rfl⟩
    | ok subject =>
      simp only [subjectOfCredential, orFailed, Except.bind_eq_ok_iff] at h
      obtain ⟨_, -, _, -, _, -, _, -, _, hid, -⟩ := h
      cases hid
  rw [parseCredentialSubject]
  cases hnative : serde.fromSlice DecryptedCredentialSubject.deserialize rawRecord with
  | ok subject' => simp
  | error e =>
    refine iff_of_false ?_ (by simp)
    cases hvalue : serde.value rawRecord with
    | error e => simp
    | ok value =>
      obtain ⟨e, h⟩ := hcredential value
      simp [h]

/-- The subjects of a record that does not open: it parses as it is, or under the exclusive or. -/
lemma unseals_none_iff {rawCiphertext dbKey : Bytes} {e : WalletError}
    {subject : DecryptedCredentialSubject}
    (hdecrypt : decryptWalletRecord cipher digest rawCiphertext dbKey = .error e) :
    Unseals cipher digest serde rawCiphertext dbKey none subject ↔
      serde.fromSlice DecryptedCredentialSubject.deserialize rawCiphertext = .ok subject ∨
      (∃ e, serde.fromSlice DecryptedCredentialSubject.deserialize rawCiphertext = .error e) ∧
        serde.fromSlice DecryptedCredentialSubject.deserialize
          (legacyCleartext rawCiphertext dbKey) = .ok subject := by
  constructor
  · intro h
    cases h with
    | authenticated hdecrypt' hparse =>
      rw [hdecrypt] at hdecrypt'
      cases hdecrypt'
    | raw hdecrypt' hparse => exact .inl (parseCredentialSubject_none_eq_ok_iff.mp hparse)
    | legacy hparse hlegacy =>
      rw [cleartextBytes_of_error hdecrypt] at hparse
      refine .inr ⟨?_, hlegacy⟩
      cases hnative : serde.fromSlice DecryptedCredentialSubject.deserialize rawCiphertext with
      | error e => exact ⟨e, rfl⟩
      | ok subject' =>
        rw [parseCredentialSubject_none_eq_ok_iff.mpr hnative] at hparse
        cases hparse
  · rintro (hnative | ⟨⟨e', hnative⟩, hlegacy⟩)
    · exact .raw hdecrypt (parseCredentialSubject_none_eq_ok_iff.mpr hnative)
    · cases hparse : parseCredentialSubject serde rawCiphertext none with
      | error e'' => exact .legacy (by rwa [cleartextBytes_of_error hdecrypt]) hlegacy
      | ok subject' =>
        rw [parseCredentialSubject_none_eq_ok_iff.mp hparse] at hnative
        cases hnative

/-- The subject of a payload with a key: the same choice.  (The parser takes no empty text.) -/
lemma unsealCredentialSubject_eq_ok_iff
    (hempty : ∀ subject, serde.fromSlice DecryptedCredentialSubject.deserialize [] ≠ .ok subject)
    {payload : EnclaveIngestionPayload} {dbKey : Bytes} (hkey : payload.walletDbKey = some dbKey)
    {subject : DecryptedCredentialSubject} :
    unsealCredentialSubject serde payload = .ok subject ↔
      serde.fromSlice DecryptedCredentialSubject.deserialize payload.rawWalletCiphertext =
        .ok subject ∨
      (∃ e, serde.fromSlice DecryptedCredentialSubject.deserialize payload.rawWalletCiphertext =
          .error e) ∧
        serde.fromSlice DecryptedCredentialSubject.deserialize
          (legacyCleartext payload.rawWalletCiphertext dbKey) = .ok subject := by
  rw [unsealCredentialSubject, Except.mapError_eq_ok_iff, EnclaveIngestionPayload.cleartextBytes,
    hkey]
  dsimp only
  split
  · rename_i hnone
    have hlegacy : legacyCleartext payload.rawWalletCiphertext dbKey = [] := if_pos hnone
    rw [hlegacy]
    exact ⟨.inl, fun h => h.resolve_right fun h => hempty subject h.2⟩
  · cases hnative : serde.fromSlice DecryptedCredentialSubject.deserialize
        payload.rawWalletCiphertext with
    | ok subject' => simp [hnative]
    | error e => simp

/-- **The two ways to unseal agree** on every record that does not open, for every key and seed: one
succeeds exactly if the other does, and then the witness has the clearance, the role and the
nullifier of the subject, and the commitment that is computed from the subject directly. -/
theorem unseal_paths_agree
    (hempty : ∀ subject, serde.fromSlice DecryptedCredentialSubject.deserialize [] ≠ .ok subject)
    {payload : EnclaveIngestionPayload} {dbKey : Bytes} (hkey : payload.walletDbKey = some dbKey)
    {e : WalletError}
    (hdecrypt : decryptWalletRecord cipher digest payload.rawWalletCiphertext dbKey = .error e)
    (masterSeed : FixedBytes 32) :
    ((∃ subject, unsealCredentialSubject serde payload = .ok subject) ↔
      ∃ witness, unsealAndDeriveWitness cipher digest serde payload.rawWalletCiphertext dbKey
        masterSeed = .ok witness) ∧
    ∀ subject witness, unsealCredentialSubject serde payload = .ok subject →
      unsealAndDeriveWitness cipher digest serde payload.rawWalletCiphertext dbKey masterSeed =
        .ok witness →
      witness.clearanceLevel = subject.userClearanceLevel ∧
      witness.userRoleScalar = stringToScalar digest subject.userRoleScalar ∧
      witness.secretNullifier =
        deriveNullifier digest subject.subjectDid subject.credentialId masterSeed ∧
      ∀ requiredClearance, ∃ u r n q c secretNullifier,
        processUnsealedWitness digest subject masterSeed requiredClearance =
          .ok (u, r, n, q, c, secretNullifier) ∧
        witness.publicCommitment = Fr.toBytesLe c := by
  have hsubject : ∀ subject, unsealCredentialSubject serde payload = .ok subject ↔
      Unseals cipher digest serde payload.rawWalletCiphertext dbKey none subject := by
    intro subject
    rw [unsealCredentialSubject_eq_ok_iff hempty hkey, unseals_none_iff hdecrypt]
  have hwitness : ∀ witness, unsealAndDeriveWitness cipher digest serde
      payload.rawWalletCiphertext dbKey masterSeed = .ok witness ↔
      ∃ subject, unsealCredentialSubject serde payload = .ok subject ∧
        witness = deriveWitness digest masterSeed subject := by
    intro witness
    simp only [hsubject]
    constructor
    · exact exists_unseals
    · rintro ⟨subject, hsource, rfl⟩
      exact unseal_of_unseals masterSeed hsource
  constructor
  · constructor
    · rintro ⟨subject, h⟩
      exact ⟨_, (hwitness _).mpr ⟨subject, h, rfl⟩⟩
    · rintro ⟨witness, h⟩
      obtain ⟨subject, hsubject, -⟩ := (hwitness witness).mp h
      exact ⟨subject, hsubject⟩
  · intro subject witness hok h
    obtain ⟨subject', hok', rfl⟩ := (hwitness witness).mp h
    obtain rfl := Except.ok.inj (hok'.symm.trans hok)
    refine ⟨rfl, rfl, rfl, fun requiredClearance => ?_⟩
    exact ⟨_, _, _, _, _, _, processUnsealedWitness_eq digest subject' masterSeed
      requiredClearance, (toBytesLe_commitmentOf digest subject' masterSeed).symm⟩

/-- A payload that is nothing but a printed subject. -/
def printedPayload (subject : DecryptedCredentialSubject) (dbKey : Bytes) :
    EnclaveIngestionPayload :=
  ⟨Bytes.utf8 (SerdeJson.toString subject.serialize), some dbKey, none, 0, none⟩

/-- A subject that was never sealed is read from its bytes, on both paths. -/
theorem unseal_paths_agree_director :
    ∃ subject, unsealCredentialSubject .strict (printedPayload director [7]) = .ok subject := by
  have hdecrypt : decryptWalletRecord referenceProver.cipher sha256
      (printedPayload director [7]).rawWalletCiphertext [7] =
        .error (.executionFailed "Invalid wallet record envelope") := by
    rw [printedPayload, DecryptedCredentialSubject.serialize, decryptWalletRecord_toString_obj]
  exact (unseal_paths_agree (fun _ h => by cases h) rfl hdecrypt ⟨List.replicate 32 7, rfl⟩).1.mpr
    ⟨_, unseal_toString_eq_ok director [7] _ none⟩

end Payload

end DZTA
