import Dzta.Library.Base64
import Dzta.Library.Groth16
import Dzta.Wallet.Unseal
import Dzta.Zkp.RoleCircuit

/-!
# The prover in the enclave

What the enclave does once it has the wallet key and the master seed: it unseals the record, maps
the witness to field elements, checks that the circuit is satisfied, proves it, binds the
attestation to the public inputs, and emits the proof and the public inputs in base64.

**`prove_eq_ok_iff`** says exactly when a response is emitted.  The check before the proof passes
exactly if the clearance suffices (`isSatisfied_circuitFor`): the commitment is computed in bytes
and read back, and always fits the circuit.  So the proof that is emitted verifies, and with exactly
the required level and the commitment as public inputs, in the order in which the circuit allocates
them (`verify_of_suffices`).
-/

namespace DZTA

open R1CS RoleVerificationCircuit

/-- `ProverOutputResponse`: the proof, its public inputs and the quote for them, as texts. -/
structure ProverOutputResponse where
  xDztaProof : String
  xDztaPublicInputs : String
  sgxDcapQuoteHex : Option String
deriving DecidableEq

/-- Lower-case hexadecimal digits, as `hex::encode` writes them. -/
def hexEncode (b : Bytes) : String :=
  String.ofList (b.flatMap fun x => [Nat.digitChar (x.toNat / 16), Nat.digitChar (x.toNat % 16)])

variable (gadget : ToBitsLe modulus)

/-- The circuit with the values of a witness. -/
def circuitOf (clearanceFr roleScalarFr nullifierFr reqClearanceFr commitmentFr : Fr) :
    RoleVerificationCircuit Fr :=
  ⟨some clearanceFr, some roleScalarFr, some nullifierFr, some reqClearanceFr, some commitmentFr⟩

/-- `is_satisfied` of the system that a circuit synthesizes. -/
def isSatisfied (circuit : RoleVerificationCircuit Fr) : Except String Bool :=
  match generateConstraints gadget circuit (System.new .prove) with
  | .ok (_, cs) =>
    .ok (cs.constraints.all fun k =>
      k.a.eval cs.assignment * k.b.eval cs.assignment = k.c.eval cs.assignment)
  | .error _ => .error "Failed to synthesize circuit constraints for validation"

/-- The proof system for the role circuit. -/
abbrev RoleGroth16 := Groth16 (constraints gadget)

/-- What the enclave works with: the cipher, the hash function and the parser, the proving key baked
into the binary, and the attestation device, which binds a session to bytes and hands out a quote
where there is a device. -/
structure GramineProver (G : RoleGroth16 gadget) where
  cipher : Aead
  digest : Bytes → FixedBytes 32
  serde : SerdeJson
  provingKey : Option G.ProvingKey
  bindSession : Bytes → Except String Unit
  fetchSgxQuote : Except String (Option Bytes)

variable {gadget} {G : RoleGroth16 gadget} (prover : GramineProver gadget G)

/-- Steps 3 to 11 of `main`, from the unsealing of the record to the response. -/
def GramineProver.prove (rawWalletCiphertext walletDbKey : Bytes) (masterSeed : FixedBytes 32)
    (credentialId : Option String) (requiredClearanceLevel : UInt64) :
    Except String ProverOutputResponse := do
  let derivedWitness ← (unsealAndDeriveWitnessWithCredentialId prover.cipher prover.digest
    prover.serde rawWalletCiphertext walletDbKey masterSeed credentialId).mapError fun e =>
      "Enclave unseal/witness derivation failed: " ++ e.text
  let userClearanceFr := Fr.ofU64 derivedWitness.clearanceLevel
  let roleBiguint ← Except.okOr "Failed to parse user_role_scalar BigUint"
    (BigUint.fromStrRadix10 derivedWitness.userRoleScalar)
  let roleScalarFr := Fr.ofLeBytesModOrder (BigUint.toBytesLe roleBiguint)
  let nullifierFr := Fr.ofLeBytesModOrder derivedWitness.secretNullifier.1
  let reqClearanceFr := Fr.ofU64 requiredClearanceLevel
  let commitmentFr := Fr.ofLeBytesModOrder derivedWitness.publicCommitment
  let provingKey ←
    Except.okOr "Failed to deserialize BLS12-381 Proving Key" prover.provingKey
  let seed := derivedWitness.secretNullifier
  let circuit := circuitOf userClearanceFr roleScalarFr nullifierFr reqClearanceFr commitmentFr
  let satisfied ← isSatisfied gadget circuit
  if satisfied then
    let proof ← (G.prove provingKey (generateConstraints gadget circuit) seed).mapError fun e =>
      "ZKP Generation Failed: " ++ e
    let proofBytes := G.serialize proof
    let publicInputsBytes := Fr.serializeVec [reqClearanceFr, commitmentFr]
    prover.bindSession publicInputsBytes
    let sgxQuote ← prover.fetchSgxQuote
    return ⟨Base64.encode proofBytes, Base64.encode publicInputsBytes, sgxQuote.map hexEncode⟩
  else
    .error ("Circuit constraints not satisfied for provided witness " ++
      "(clearance level below required threshold)")

/-! ## What the enclave proves

The circuit of a subject, with all its inputs. -/

section Subject

variable (gadget) (digest : Bytes → FixedBytes 32) (masterSeed : FixedBytes 32)
  (requiredClearanceLevel : UInt64) (subject : DecryptedCredentialSubject)

/-- The nullifier of a subject. -/
def nullifierOf : FixedBytes 32 :=
  deriveNullifier digest subject.subjectDid subject.credentialId masterSeed

/-- The commitment to a subject, as an element of the field. -/
def commitmentOf : Fr :=
  Fr.ofLeBytesModOrder (computeCommitment digest (nullifierOf digest masterSeed subject)
    subject.userClearanceLevel subject.userRoleScalar)

/-- The circuit for a subject. -/
def circuitFor : RoleVerificationCircuit Fr :=
  circuitOf (Fr.ofU64 subject.userClearanceLevel) (roleScalar digest subject.userRoleScalar)
    (Fr.ofLeBytesModOrder (nullifierOf digest masterSeed subject).1)
    (Fr.ofU64 requiredClearanceLevel) (commitmentOf digest masterSeed subject)

/-- The public inputs for a subject: the required level and the commitment. -/
def publicInputsFor : List Fr :=
  [Fr.ofU64 requiredClearanceLevel, commitmentOf digest masterSeed subject]

/-- A clearance suffices: it is at least the required one, and exceeds it by at most 255. -/
def Suffices (clearanceLevel requiredClearanceLevel : UInt64) : Prop :=
  requiredClearanceLevel ≤ clearanceLevel ∧
    clearanceLevel.toNat - requiredClearanceLevel.toNat ≤ 255

instance (clearanceLevel requiredClearanceLevel : UInt64) :
    Decidable (Suffices clearanceLevel requiredClearanceLevel) :=
  inferInstanceAs (Decidable (_ ∧ _))

/-- The constraints hold for a subject exactly if its clearance suffices: the commitment fits. -/
lemma satisfies_iff_suffices :
    Satisfies (proved gadget (Fr.ofU64 subject.userClearanceLevel)
        (roleScalar digest subject.userRoleScalar)
        (Fr.ofLeBytesModOrder (nullifierOf digest masterSeed subject).1)
        (Fr.ofU64 requiredClearanceLevel) (commitmentOf digest masterSeed subject)).assignment
        (constraints gadget) ↔
      Suffices subject.userClearanceLevel requiredClearanceLevel := by
  rw [satisfies_prove_iff gadget two_hundred_fifty_six_le_modulus, commitmentOf,
    ofLeBytesModOrder_computeCommitment, Suffices, UInt64.le_iff_toNat_le,
    ← Fr.exists_natCast_eq_add_iff (UInt64.toNat_lt _) (UInt64.toNat_lt _) (by norm_num)]
  exact and_iff_left rfl

/-- **The check before the proof** passes exactly if the clearance suffices. -/
theorem isSatisfied_circuitFor :
    isSatisfied gadget (circuitFor digest masterSeed requiredClearanceLevel subject) =
      .ok (decide (Suffices subject.userClearanceLevel requiredClearanceLevel)) := by
  rw [isSatisfied, circuitFor, circuitOf, generateConstraints_prove]
  refine congrArg Except.ok (Bool.eq_iff_iff.mpr ?_)
  rw [List.all_eq_true, decide_eq_true_iff, ← satisfies_iff_suffices gadget digest
    masterSeed requiredClearanceLevel subject]
  simp only [decide_eq_true_eq]
  exact Iff.rfl

end Subject

/-! ## When a response is emitted

Exactly if the record opens and the clearance suffices; the proof verifies then. -/

section Prove

variable {prover} {rawWalletCiphertext walletDbKey : Bytes} {masterSeed : FixedBytes 32}
  {credentialId : Option String} {requiredClearanceLevel : UInt64}

/-- What the enclave does for a subject that it has unsealed. -/
lemma prove_of_unseals {subject : DecryptedCredentialSubject}
    (h : Unseals prover.cipher prover.digest prover.serde rawWalletCiphertext walletDbKey
      credentialId subject) :
    prover.prove rawWalletCiphertext walletDbKey masterSeed credentialId requiredClearanceLevel =
      (do
        let publicInputsBytes := Fr.serializeVec
          (publicInputsFor prover.digest masterSeed requiredClearanceLevel subject)
        let pk ← Except.okOr "Failed to deserialize BLS12-381 Proving Key" prover.provingKey
        if Suffices subject.userClearanceLevel requiredClearanceLevel then
          let proof ← (G.prove pk (generateConstraints gadget
            (circuitFor prover.digest masterSeed requiredClearanceLevel subject))
            (nullifierOf prover.digest masterSeed subject)).mapError fun e =>
              "ZKP Generation Failed: " ++ e
          prover.bindSession publicInputsBytes
          let quote ← prover.fetchSgxQuote
          return ⟨Base64.encode (G.serialize proof), Base64.encode publicInputsBytes,
            quote.map hexEncode⟩
        else
          .error ("Circuit constraints not satisfied for provided witness " ++
            "(clearance level below required threshold)")) := by
  have hunseal := unseal_of_unseals masterSeed h
  -- the role of a witness is always a number
  obtain ⟨role, hrole, hscalar⟩ := exists_parsed_role prover.digest subject.userRoleScalar
  have hsatisfied := isSatisfied_circuitFor gadget prover.digest masterSeed
    requiredClearanceLevel subject
  simp only [circuitFor, commitmentOf, nullifierOf, hscalar] at hsatisfied
  simp only [GramineProver.prove, hunseal, Except.mapError, deriveWitness, Except.ok_bind, hrole,
    Except.okOr_some]
  cases prover.provingKey with
  | none => rfl
  | some pk =>
    simp only [Except.okOr_some, Except.ok_bind, hsatisfied, decide_eq_true_eq, circuitFor,
      publicInputsFor, commitmentOf, nullifierOf, hscalar]

/-- **A response is emitted** exactly for a subject that is unsealed from the record and whose
clearance suffices, if there is a proving key, the proof is made and the attestation succeeds; and
it consists of the proof and the public inputs for that subject. -/
theorem prove_eq_ok_iff {response : ProverOutputResponse} :
    prover.prove rawWalletCiphertext walletDbKey masterSeed credentialId
        requiredClearanceLevel = .ok response ↔
      ∃ subject pk proof quote,
        Unseals prover.cipher prover.digest prover.serde rawWalletCiphertext walletDbKey
          credentialId subject ∧
        Suffices subject.userClearanceLevel requiredClearanceLevel ∧
        prover.provingKey = some pk ∧
        G.prove pk (generateConstraints gadget
          (circuitFor prover.digest masterSeed requiredClearanceLevel subject))
          (nullifierOf prover.digest masterSeed subject) = .ok proof ∧
        let publicInputsBytes := Fr.serializeVec
          (publicInputsFor prover.digest masterSeed requiredClearanceLevel subject)
        prover.bindSession publicInputsBytes = .ok () ∧ prover.fetchSgxQuote = .ok quote ∧
        response = ⟨Base64.encode (G.serialize proof), Base64.encode publicInputsBytes,
          quote.map hexEncode⟩ := by
  constructor
  · intro h
    obtain ⟨witness, hunseal, -⟩ := Except.bind_eq_ok_iff.mp h
    obtain ⟨subject, hsource, -⟩ := exists_unseals (Except.mapError_eq_ok_iff.mp hunseal)
    rw [prove_of_unseals hsource] at h
    obtain ⟨pk, hkey, h⟩ := Except.bind_eq_ok_iff.mp h
    split at h
    · rename_i hsuffices
      obtain ⟨proof, hprove, h⟩ := Except.bind_eq_ok_iff.mp h
      obtain ⟨_, hbind, h⟩ := Except.bind_eq_ok_iff.mp h
      obtain ⟨quote, hquote, h⟩ := Except.bind_eq_ok_iff.mp h
      exact ⟨subject, pk, proof, quote, hsource, hsuffices, Except.okOr_eq_ok_iff.mp hkey,
        Except.mapError_eq_ok_iff.mp hprove, hbind, hquote, (Except.ok.inj h).symm⟩
    · cases h
  · rintro ⟨subject, pk, proof, quote, hsource, hsuffices, hkey, hprove, hbind, hquote, rfl⟩
    rw [prove_of_unseals hsource]
    refine Except.bind_eq_ok_iff.mpr ⟨pk, Except.okOr_eq_ok_iff.mpr hkey, ?_⟩
    rw [if_pos hsuffices]
    exact Except.bind_eq_ok_iff.mpr ⟨proof, Except.mapError_eq_ok_iff.mpr hprove,
      Except.bind_eq_ok_iff.mpr ⟨(), hbind, Except.bind_eq_ok_iff.mpr ⟨quote, hquote, rfl⟩⟩⟩

/-- **A response is accepted**: under the paired verifying key, a proof for a subject whose
clearance suffices verifies with the public inputs for that subject, in this order. -/
theorem verify_of_suffices {pk : G.ProvingKey} {vk : G.VerifyingKey} (hpair : G.Paired pk vk)
    {digest : Bytes → FixedBytes 32} {subject : DecryptedCredentialSubject}
    (hsuffices : Suffices subject.userClearanceLevel requiredClearanceLevel)
    {seed : FixedBytes 32} {proof : G.Proof}
    (hprove : G.prove pk (generateConstraints gadget
      (circuitFor digest masterSeed requiredClearanceLevel subject)) seed = .ok proof) :
    G.verify vk proof (publicInputsFor digest masterSeed requiredClearanceLevel subject) =
      some true :=
  G.complete pk vk _ seed (proved gadget _ _ _ _ _) proof hpair
    (generateConstraints_prove gadget _ _ _ _ _) rfl
    ((satisfies_iff_suffices gadget digest masterSeed requiredClearanceLevel subject).mpr hsuffices)
    hprove

end Prove

/-! ## The reference enclave

An instance of all parameters. -/

/-- The proof system of the reference enclave. -/
abbrev referenceGroth16 : RoleGroth16 (ToBitsLe.comparing modulus) := .hashed _

/-- An enclave with a key and without an attestation device. -/
def referenceProver : GramineProver (ToBitsLe.comparing modulus) referenceGroth16 where
  cipher := .aes256Gcm
  digest := sha256
  serde := .strict
  provingKey := some ()
  bindSession _ := .ok ()
  fetchSgxQuote := .ok none

end DZTA
