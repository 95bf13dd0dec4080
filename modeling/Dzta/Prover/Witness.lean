import Dzta.Prover.Gramine

/-!
# The elements of a witness

There are two ways from a subject to field elements.  `process_unsealed_witness` goes directly.  The
prover takes the derived witness instead, with the role normalized a second time and the nullifier
and the commitment as bytes, and rebuilds the elements from it (`fieldElements`).  A third
normalization is inside the commitment.

**`witness_paths_agree`**: the two ways give the same elements for every subject, because a role
scalar is a fixed point of its normalization and an element is read back from its bytes.  So the
commitment constraints of the circuit hold for every honest witness, whatever its clearance.

What remains of the circuit is the range check, and it has an upper end as well: it is passed up to
255 levels above the required one (`clearance_window`).
-/

namespace DZTA

open R1CS RoleVerificationCircuit

/-! ## The two paths

From a subject to field elements, in the shared code and in the enclave. -/

/-- The text of the error with which a number is not parsed. -/
def BigUint.parseErrorText (s : String) : String :=
  if stripPlus s.toList = [] then "cannot parse integer from empty string"
  else "invalid digit found in string"

/-- `process_unsealed_witness`: a subject as field elements, with the bytes of the nullifier. -/
def processUnsealedWitness (digest : Bytes → FixedBytes 32) (subject : DecryptedCredentialSubject)
    (masterSeed : FixedBytes 32) (requiredClearance : UInt64) :
    WalletResult (Fr × Fr × Fr × Fr × Fr × FixedBytes 32) := do
  let userClearanceFr := Fr.ofU64 subject.userClearanceLevel
  let reqClearanceFr := Fr.ofU64 requiredClearance
  let normalizedRoleStr := stringToScalar digest subject.userRoleScalar
  let roleBiguint ← Except.okOr
    (.executionFailed ("Invalid role scalar radix: " ++ BigUint.parseErrorText normalizedRoleStr))
    (BigUint.fromStrRadix10 normalizedRoleStr)
  let roleScalarFr := Fr.ofLeBytesModOrder (BigUint.toBytesLe roleBiguint)
  let secretNullifierBytes :=
    deriveNullifier digest subject.subjectDid subject.credentialId masterSeed
  let nullifierFr := Fr.ofLeBytesModOrder secretNullifierBytes.1
  let commitmentFr := nullifierFr * userClearanceFr * roleScalarFr
  return (userClearanceFr, roleScalarFr, nullifierFr, reqClearanceFr, commitmentFr,
    secretNullifierBytes)

/-- Step 4 of `main`: the clearance, the role, the nullifier, the required level and the commitment
of a derived witness. -/
def fieldElements (derivedWitness : DerivedEnclaveWitness) (requiredClearanceLevel : UInt64) :
    Except String (Fr × Fr × Fr × Fr × Fr) := do
  let userClearanceFr := Fr.ofU64 derivedWitness.clearanceLevel
  let roleBiguint ← Except.okOr "Failed to parse user_role_scalar BigUint"
    (BigUint.fromStrRadix10 derivedWitness.userRoleScalar)
  let roleScalarFr := Fr.ofLeBytesModOrder (BigUint.toBytesLe roleBiguint)
  let nullifierFr := Fr.ofLeBytesModOrder derivedWitness.secretNullifier.1
  let reqClearanceFr := Fr.ofU64 requiredClearanceLevel
  let commitmentFr := Fr.ofLeBytesModOrder derivedWitness.publicCommitment
  return (userClearanceFr, roleScalarFr, nullifierFr, reqClearanceFr, commitmentFr)

/-- The prover goes this way. -/
lemma prove_eq {gadget : ToBitsLe modulus} {G : RoleGroth16 gadget}
    (prover : GramineProver gadget G) (rawWalletCiphertext walletDbKey : Bytes)
    (masterSeed : FixedBytes 32) (credentialId : Option String) (requiredClearanceLevel : UInt64) :
    prover.prove rawWalletCiphertext walletDbKey masterSeed credentialId requiredClearanceLevel =
      (do
        let witness ← (unsealAndDeriveWitnessWithCredentialId prover.cipher prover.digest
          prover.serde rawWalletCiphertext walletDbKey masterSeed credentialId).mapError fun e =>
            "Enclave unseal/witness derivation failed: " ++ e.text
        let (u, r, n, q, c) ← fieldElements witness requiredClearanceLevel
        let pk ← Except.okOr "Failed to deserialize BLS12-381 Proving Key" prover.provingKey
        let satisfied ← isSatisfied gadget (circuitOf u r n q c)
        if satisfied then
          let proof ← (G.prove pk (generateConstraints gadget (circuitOf u r n q c))
            witness.secretNullifier).mapError fun e => "ZKP Generation Failed: " ++ e
          let publicInputsBytes := Fr.serializeVec [q, c]
          prover.bindSession publicInputsBytes
          let sgxQuote ← prover.fetchSgxQuote
          return ⟨Base64.encode (G.serialize proof), Base64.encode publicInputsBytes,
            sgxQuote.map hexEncode⟩
        else
          .error ("Circuit constraints not satisfied for provided witness " ++
            "(clearance level below required threshold)")) := by
  simp only [GramineProver.prove, fieldElements, bind_assoc, pure_bind]

section Paths

variable (digest : Bytes → FixedBytes 32) (subject : DecryptedCredentialSubject)
  (masterSeed : FixedBytes 32) (requiredClearance : UInt64)

/-- The direct path never fails, and its elements are those of the subject. -/
lemma processUnsealedWitness_eq :
    processUnsealedWitness digest subject masterSeed requiredClearance =
      .ok (Fr.ofU64 subject.userClearanceLevel, roleScalar digest subject.userRoleScalar,
        Fr.ofLeBytesModOrder (nullifierOf digest masterSeed subject).1,
        Fr.ofU64 requiredClearance, commitmentOf digest masterSeed subject,
        nullifierOf digest masterSeed subject) := by
  obtain ⟨role, hrole, hscalar⟩ := exists_parsed_role digest subject.userRoleScalar
  rw [commitmentOf, ofLeBytesModOrder_computeCommitment, hscalar]
  simp only [processUnsealedWitness, hrole, Except.okOr_some, Except.ok_bind]
  rfl

/-- The elements of a derived witness are those of its subject too. -/
lemma fieldElements_deriveWitness :
    fieldElements (deriveWitness digest masterSeed subject) requiredClearance =
      .ok (Fr.ofU64 subject.userClearanceLevel, roleScalar digest subject.userRoleScalar,
        Fr.ofLeBytesModOrder (nullifierOf digest masterSeed subject).1,
        Fr.ofU64 requiredClearance, commitmentOf digest masterSeed subject) := by
  obtain ⟨role, hrole, hscalar⟩ := exists_parsed_role digest subject.userRoleScalar
  simp only [fieldElements, deriveWitness, hrole, hscalar, Except.okOr_some, Except.ok_bind]
  rfl

/-- The commitment of the direct path is the product of its elements. -/
lemma commitmentOf_eq : commitmentOf digest masterSeed subject =
    Fr.ofLeBytesModOrder (nullifierOf digest masterSeed subject).1 *
      Fr.ofU64 subject.userClearanceLevel * roleScalar digest subject.userRoleScalar :=
  ofLeBytesModOrder_computeCommitment ..

/-- It has the bytes that are computed for the subject. -/
lemma toBytesLe_commitmentOf : Fr.toBytesLe (commitmentOf digest masterSeed subject) =
    computeCommitment digest (nullifierOf digest masterSeed subject) subject.userClearanceLevel
      subject.userRoleScalar := by
  rw [commitmentOf_eq]
  rfl

variable (gadget : ToBitsLe modulus)

/-- **The witness paths agree**, for every subject, seed and required level: the direct one never
fails, its commitment has the bytes that are computed for the subject, and the prover rebuilds its
elements from the derived witness.  So the commitment constraints of the circuit hold.  A role
scalar always parses, and normalizing it again changes nothing. -/
theorem witness_paths_agree :
    (∃ u r n q c,
      processUnsealedWitness digest subject masterSeed requiredClearance =
        .ok (u, r, n, q, c,
          deriveNullifier digest subject.subjectDid subject.credentialId masterSeed) ∧
      Fr.toBytesLe c = computeCommitment digest
        (deriveNullifier digest subject.subjectDid subject.credentialId masterSeed)
        subject.userClearanceLevel subject.userRoleScalar ∧
      fieldElements (deriveWitness digest masterSeed subject) requiredClearance =
        .ok (u, r, n, q, c) ∧
      ∃ cs, generateConstraints gadget (circuitOf u r n q c) (System.new .prove) = .ok ((), cs) ∧
        commitmentConstraints gadget <:+ cs.constraints ∧
        Satisfies cs.assignment (commitmentConstraints gadget)) ∧
    (∀ role, (BigUint.fromStrRadix10 (stringToScalar digest role)).isSome = true) ∧
    ∀ role, stringToScalar digest (stringToScalar digest role) = stringToScalar digest role := by
  refine ⟨?_, isSome_stringToScalar digest, stringToScalar_stringToScalar digest⟩
  exact ⟨_, _, _, _, _, processUnsealedWitness_eq digest subject masterSeed requiredClearance,
    toBytesLe_commitmentOf digest subject masterSeed,
    fieldElements_deriveWitness digest subject masterSeed requiredClearance, _,
    generateConstraints_prove gadget _ _ _ _ _, commitmentConstraints_suffix gadget,
    (satisfies_commitmentConstraints_iff gadget _ _ _ _ _).mpr
      (commitmentOf_eq digest subject masterSeed).symm⟩

end Paths

/-! ## The window of the clearance check

The difference of the levels has to fit eight bits. -/

section Window

variable {gadget : ToBitsLe modulus} {G : RoleGroth16 gadget} {prover : GramineProver gadget G}
  {rawWalletCiphertext walletDbKey : Bytes} {masterSeed : FixedBytes 32}
  {credentialId : Option String} {witness : DerivedEnclaveWitness}

/-- **The clearance check is a window.**  For every record that unseals and every required level,
the satisfaction check passes exactly if the clearance is the required level or up to 255 above it,
whatever the role and the nullifier; and everything else is refused. -/
theorem clearance_window
    (h : unsealAndDeriveWitnessWithCredentialId prover.cipher prover.digest prover.serde
      rawWalletCiphertext walletDbKey masterSeed credentialId = .ok witness)
    (requiredClearanceLevel : UInt64) :
    ∃ u r n q c, fieldElements witness requiredClearanceLevel = .ok (u, r, n, q, c) ∧
      (isSatisfied gadget (circuitOf u r n q c) = .ok true ↔
        requiredClearanceLevel ≤ witness.clearanceLevel ∧
          witness.clearanceLevel.toNat - requiredClearanceLevel.toNat ≤ 255) ∧
      (∀ pk, prover.provingKey = some pk →
        ¬ (requiredClearanceLevel ≤ witness.clearanceLevel ∧
          witness.clearanceLevel.toNat - requiredClearanceLevel.toNat ≤ 255) →
        prover.prove rawWalletCiphertext walletDbKey masterSeed credentialId
            requiredClearanceLevel =
          .error ("Circuit constraints not satisfied for provided witness " ++
            "(clearance level below required threshold)")) := by
  obtain ⟨subject, hsource, rfl⟩ := exists_unseals h
  have hsatisfied := isSatisfied_circuitFor gadget prover.digest masterSeed requiredClearanceLevel
    subject
  refine ⟨_, _, _, _, _, fieldElements_deriveWitness prover.digest subject masterSeed
    requiredClearanceLevel, ?_, fun pk hkey hnot => ?_⟩
  · rw [← circuitFor, hsatisfied, Except.ok.injEq, decide_eq_true_iff]
    exact Iff.rfl
  · rw [prove_of_unseals hsource, hkey, Except.okOr_some, Except.ok_bind]
    exact if_neg hnot

/-- A director, far above every level. -/
def director : DecryptedCredentialSubject := ⟨256, "director", "did:dzta:dora", "vc-2"⟩

/-- Clearance 256 passes the check for level 1: the difference 255 is the last that does. -/
theorem clearance_window_director :
    ∃ u r n q c, fieldElements (deriveWitness sha256 ⟨List.replicate 32 7, rfl⟩ director) 1 =
        .ok (u, r, n, q, c) ∧
      isSatisfied (ToBitsLe.comparing modulus) (circuitOf u r n q c) = .ok true := by
  obtain ⟨u, r, n, q, c, helements, hiff, -⟩ := clearance_window
    (show unsealAndDeriveWitnessWithCredentialId referenceProver.cipher referenceProver.digest
        referenceProver.serde (Bytes.utf8 (SerdeJson.toString director.serialize)) []
        ⟨List.replicate 32 7, rfl⟩ none = _ from unseal_toString_eq_ok director [] _ none) 1
  exact ⟨u, r, n, q, c, helements, hiff.mpr (by decide)⟩

/-- **A clearance can be too high**: whatever the gadget and the prover, the check of clearance 256
against level 0 does not pass. -/
theorem clearance_refused_above :
    ¬ ∃ (gadget : ToBitsLe modulus) (cipher : Aead) (digest : Bytes → FixedBytes 32)
      (serde : SerdeJson), ∀ (rawWalletCiphertext walletDbKey : Bytes) (masterSeed : FixedBytes 32)
        (credentialId : Option String) (witness : DerivedEnclaveWitness)
        (requiredClearanceLevel : UInt64) (u r n q c : Fr),
        unsealAndDeriveWitnessWithCredentialId cipher digest serde rawWalletCiphertext walletDbKey
          masterSeed credentialId = .ok witness →
        fieldElements witness requiredClearanceLevel = .ok (u, r, n, q, c) →
        (isSatisfied gadget (circuitOf u r n q c) = .ok true ↔
          requiredClearanceLevel ≤ witness.clearanceLevel) := by
  rintro ⟨gadget, cipher, digest, serde, hclaim⟩
  have hiff := hclaim _ [] ⟨List.replicate 32 7, rfl⟩ none _ 0 _ _ _ _ _
    (unseal_toString_eq_ok director [] _ none) (fieldElements_deriveWitness digest director _ 0)
  rw [← circuitFor, isSatisfied_circuitFor, Except.ok.injEq, decide_eq_true_iff] at hiff
  exact absurd (hiff.mpr (show (0 : UInt64) ≤ 256 by decide)) (by decide)

end Window

end DZTA
