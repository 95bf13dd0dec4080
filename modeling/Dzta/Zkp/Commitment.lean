import Dzta.Library.Sha256
import Dzta.Zkp.RoleCircuit
import Mathlib.Tactic.LinearCombination

/-!
# Nullifiers, role scalars and commitments

The values that the enclave derives from a credential: a nullifier, hashed from the subject, the
credential and the master seed; a scalar for the role, which is the role itself if it is a number
and its hash otherwise; and the commitment, the product of both with the clearance.  The hash
function is a parameter (`digest`) of which nothing is assumed.

The commitment is a product in a field, so it does **not** bind its factors: whatever it was
computed from, a prover who is free in all three private values opens it to any required level
(`satisfiable_of_required`).  **`commitment_opening`** says what is left: no opening to a level
above the committed one uses the committed clearance, and none uses the committed nullifier and
role unless their product is zero.  For a fixed clearance and role it does tell nullifiers apart, up
to the order of the field, unless one of the two is zero (`computeCommitment_eq_iff`).

Roles do coincide in the field, and not by a collision of the hash function only: numbers stay as
they are, however they are spelled, and share the field with the digests (`roleScalar_eq_iff`).
-/

namespace DZTA

/-! ## Role scalars

A role is a number in decimal digits, or it is hashed. -/

namespace BigUint

/-- Drops a leading plus, unless another one follows. -/
def stripPlus : List Char → List Char
  | '+' :: tail => if tail.head? = some '+' then '+' :: tail else tail
  | cs => cs

/-- `from_str_radix(s, 10)`: an optional plus, then digits; an underscore may follow the first
digit anywhere. -/
def fromStrRadix10 (s : String) : Option ℕ :=
  let digits := stripPlus s.toList
  if digits = [] then none
  else if digits.head? = some '_' then none
  else if digits.all fun c => c.isDigit || c = '_' then
    some (Nat.ofDigitChars 10 (digits.filter fun c => c ≠ '_') 0)
  else none

/-- `to_str_radix(10)`: the decimal digits of a number. -/
def toStrRadix10 (n : ℕ) : String := String.ofList (Nat.toDigits 10 n)

/-- `to_bytes_le()`: as many bytes as the number needs, and one for zero. -/
def toBytesLe (n : ℕ) : Bytes := Bytes.leBytes (max 1 ((n.size + 7) / 8)) n

/-- **The bytes of a number denote it.** -/
lemma leNat_toBytesLe (n : ℕ) : Bytes.leNat (toBytesLe n) = n := by
  refine Bytes.leNat_leBytes_of_lt (lt_of_lt_of_le (Nat.lt_size_self n) ?_)
  rw [show 256 = 2 ^ 8 by norm_num, ← pow_mul]
  exact Nat.pow_le_pow_right two_pos (by omega)

/-- **A printed number is read back.** -/
theorem fromStrRadix10_toStrRadix10 (n : ℕ) : fromStrRadix10 (toStrRadix10 n) = some n := by
  have hdigit : ∀ c ∈ Nat.toDigits 10 n, c.isDigit = true :=
    fun c hc => Nat.isDigit_of_mem_toDigits (by norm_num) (by norm_num) hc
  have hnot : ∀ d : Char, d.isDigit = false → ∀ c ∈ Nat.toDigits 10 n, c ≠ d := by
    rintro d hd c hc rfl
    rw [hdigit c hc] at hd
    cases hd
  have hhead : ∀ d : Char, d.isDigit = false → (Nat.toDigits 10 n).head? ≠ some d :=
    fun d hd h => hnot d hd d (List.mem_of_head? h) rfl
  have hstrip : stripPlus (Nat.toDigits 10 n) = Nat.toDigits 10 n := by
    unfold stripPlus
    split
    · rename_i tail h
      exact absurd (by rw [h]; rfl) (hhead '+' (by decide))
    · rfl
  have hfilter : (Nat.toDigits 10 n).filter (fun c => c ≠ '_') = Nat.toDigits 10 n :=
    List.filter_eq_self.mpr fun c hc => decide_eq_true (hnot '_' (by decide) c hc)
  have hall : (Nat.toDigits 10 n).all (fun c => c.isDigit || c = '_') = true :=
    List.all_eq_true.mpr fun c hc => by rw [hdigit c hc, Bool.true_or]
  simp only [fromStrRadix10, toStrRadix10, String.toList_ofList, hstrip, Nat.toDigits_ne_nil,
    if_false, hhead '_' (by decide), hall, if_true, hfilter, Nat.ofDigitChars_ten_toDigits]

end BigUint

section Derive

variable (digest : Bytes → FixedBytes 32)

/-- `string_to_scalar`: a number stays as it is, anything else is hashed into the field. -/
def stringToScalar (input : String) : String :=
  if input = "" then "0"
  else if (BigUint.fromStrRadix10 input).isSome then input
  else
    let hash := digest (Bytes.utf8 input)
    BigUint.toStrRadix10 (Bytes.leNat hash.1.reverse % modulus)

/-- **A role scalar is always a number.** -/
theorem isSome_stringToScalar (input : String) :
    (BigUint.fromStrRadix10 (stringToScalar digest input)).isSome = true := by
  rw [stringToScalar]
  split
  · decide
  · split
    · assumption
    · rw [BigUint.fromStrRadix10_toStrRadix10]
      rfl

/-- **A role scalar is a fixed point**: normalizing it again changes nothing. -/
theorem stringToScalar_stringToScalar (input : String) :
    stringToScalar digest (stringToScalar digest input) = stringToScalar digest input := by
  have hnumber := isSome_stringToScalar digest input
  have hne : stringToScalar digest input ≠ "" := by
    intro hempty
    rw [hempty] at hnumber
    cases hnumber
  rw [stringToScalar.eq_1 digest (stringToScalar digest input), if_neg hne, if_pos hnumber]

/-- The role in the field. -/
def roleScalar (role : String) : Fr :=
  Fr.ofLeBytesModOrder
    (BigUint.toBytesLe ((BigUint.fromStrRadix10 (stringToScalar digest role)).getD 0))

/-- `derive_nullifier`: a digest of the subject, the credential and the seed. -/
def deriveNullifier (subjectDid credentialId : String) (secretSeedBytes : FixedBytes 32) :
    FixedBytes 32 :=
  digest (Bytes.utf8 "dZTA_NULLIFIER_DOMAIN_v1" ++ Bytes.utf8 subjectDid ++
    Bytes.utf8 credentialId ++ secretSeedBytes.1)

/-- `compute_commitment`: the product of nullifier, clearance and role in the field. -/
def computeCommitment (nullifierBytes : FixedBytes 32) (userClearance : UInt64)
    (roleScalarStr : String) : Bytes :=
  let nullifierFr := Fr.ofLeBytesModOrder nullifierBytes.1
  let clearanceFr := Fr.ofU64 userClearance
  let roleFr := roleScalar digest roleScalarStr
  Fr.toBytesLe (nullifierFr * clearanceFr * roleFr)

/-- The commitment that a verifier reads from the bytes is the product. -/
lemma ofLeBytesModOrder_computeCommitment (nullifier : FixedBytes 32) (clearance : UInt64)
    (role : String) :
    Fr.ofLeBytesModOrder (computeCommitment digest nullifier clearance role) =
      Fr.ofLeBytesModOrder nullifier.1 * Fr.ofU64 clearance * roleScalar digest role := by
  rw [computeCommitment, Fr.ofLeBytesModOrder_toBytesLe]

/-- The role in the field comes from the number that its scalar denotes. -/
lemma exists_parsed_role (role : String) :
    ∃ r, BigUint.fromStrRadix10 (stringToScalar digest role) = some r ∧
      roleScalar digest role = Fr.ofLeBytesModOrder (BigUint.toBytesLe r) := by
  obtain ⟨r, hr⟩ := Option.isSome_iff_exists.mp (isSome_stringToScalar digest role)
  exact ⟨r, hr, by rw [roleScalar, hr, Option.getD_some]⟩

/-- The role in the field is that number. -/
lemma exists_roleScalar (role : String) :
    ∃ r, BigUint.fromStrRadix10 (stringToScalar digest role) = some r ∧
      roleScalar digest role = (r : Fr) := by
  obtain ⟨r, hr, hscalar⟩ := exists_parsed_role digest role
  refine ⟨r, hr, ?_⟩
  rw [hscalar, Fr.ofLeBytesModOrder, BigUint.leNat_toBytesLe]

/-! ## When roles coincide

Equal numbers up to the modulus, whichever way they come about. -/

/-- The number of a digest, which is read from its most significant byte. -/
def digestNumber (role : String) : ℕ := Bytes.leNat (digest (Bytes.utf8 role)).1.reverse

/-- The number that a role stands for: zero if it is empty, itself if it is a number, and the number
of its digest otherwise. -/
def roleNumber (role : String) : ℕ :=
  if role = "" then 0 else (BigUint.fromStrRadix10 role).getD (digestNumber digest role)

/-- A role that is hashed. -/
def HashedRole (role : String) : Prop := role ≠ "" ∧ BigUint.fromStrRadix10 role = none

instance (role : String) : Decidable (HashedRole role) := inferInstanceAs (Decidable (_ ∧ _))

lemma roleNumber_of_parse {role : String} {n : ℕ} (h : BigUint.fromStrRadix10 role = some n) :
    roleNumber digest role = n := by
  have hne : role ≠ "" := by
    rintro rfl
    cases h
  rw [roleNumber, if_neg hne, h, Option.getD_some]

lemma roleNumber_of_hashed {role : String} (h : HashedRole role) :
    roleNumber digest role = digestNumber digest role := by
  rw [roleNumber, if_neg h.1, h.2, Option.getD_none]

/-- The scalar of a role denotes its number, or what is left of it modulo the order. -/
lemma exists_fromStrRadix10_stringToScalar (role : String) :
    ∃ r, BigUint.fromStrRadix10 (stringToScalar digest role) = some r ∧
      (r : Fr) = (roleNumber digest role : Fr) := by
  by_cases hempty : role = ""
  · subst hempty
    have hzero : BigUint.fromStrRadix10 "0" = some 0 := by decide
    exact ⟨0, hzero, rfl⟩
  rw [stringToScalar, if_neg hempty, roleNumber, if_neg hempty]
  cases hparse : BigUint.fromStrRadix10 role with
  | some r => exact ⟨r, hparse, rfl⟩
  | none => exact ⟨_, BigUint.fromStrRadix10_toStrRadix10 _, ZMod.natCast_mod _ _⟩

/-- **The role in the field is its number.** -/
lemma roleScalar_eq_natCast (role : String) :
    roleScalar digest role = (roleNumber digest role : Fr) := by
  obtain ⟨r, hr, hscalar⟩ := exists_roleScalar digest role
  obtain ⟨r', hr', hnumber⟩ := exists_fromStrRadix10_stringToScalar digest role
  rw [hr] at hr'
  rw [hscalar, Option.some.inj hr', hnumber]

/-- **When roles coincide in the field**: exactly if their numbers are congruent modulo the order.
Of two roles that are hashed, the numbers are those of the digests. -/
theorem roleScalar_eq_iff (s t : String) :
    (roleScalar digest s = roleScalar digest t ↔
      roleNumber digest s ≡ roleNumber digest t [MOD modulus]) ∧
    (HashedRole s → HashedRole t → (roleScalar digest s = roleScalar digest t ↔
      digestNumber digest s ≡ digestNumber digest t [MOD modulus])) := by
  have hiff : roleScalar digest s = roleScalar digest t ↔
      roleNumber digest s ≡ roleNumber digest t [MOD modulus] := by
    rw [roleScalar_eq_natCast, roleScalar_eq_natCast, ZMod.natCast_eq_natCast_iff]
  refine ⟨hiff, fun hs ht => ?_⟩
  rwa [roleNumber_of_hashed digest hs, roleNumber_of_hashed digest ht] at hiff

/-- Two roles that are no numbers: their scalars are equal exactly if their digests are
congruent. -/
theorem roleScalar_eq_iff_employee :
    roleScalar sha256 "employee" = roleScalar sha256 "director" ↔
      digestNumber sha256 "employee" ≡ digestNumber sha256 "director" [MOD modulus] :=
  (roleScalar_eq_iff sha256 "employee" "director").2 (by decide) (by decide)

/-- **Two spellings of a number are one role**, and their digests are not congruent. -/
theorem roleScalar_not_separating :
    ¬ ∀ s t : String, s ≠ t → roleScalar sha256 s = roleScalar sha256 t →
      digestNumber sha256 s ≡ digestNumber sha256 t [MOD modulus] := by
  intro hseparating
  have hsame : roleScalar sha256 "7" = roleScalar sha256 "07" := by
    have h7 : BigUint.fromStrRadix10 "7" = some 7 := by decide
    have h07 : BigUint.fromStrRadix10 "07" = some 7 := by decide
    rw [roleScalar_eq_natCast, roleScalar_eq_natCast, roleNumber_of_parse _ h7,
      roleNumber_of_parse _ h07]
  have hdigests : ¬ digestNumber sha256 "7" ≡ digestNumber sha256 "07" [MOD modulus] := by
    decide +kernel
  exact hdigests (hseparating "7" "07" (by decide) hsame)

/-! ## When commitments coincide

Equal products, unless a factor vanishes. -/

/-- The number that a role scalar denotes is zero in the field. -/
def RoleVanishes (role : String) : Prop :=
  ∃ r, BigUint.fromStrRadix10 (stringToScalar digest role) = some r ∧ modulus ∣ r

lemma roleScalar_eq_zero_iff (role : String) :
    roleScalar digest role = 0 ↔ RoleVanishes digest role := by
  obtain ⟨r, hr, hscalar⟩ := exists_roleScalar digest role
  rw [hscalar, ZMod.natCast_eq_zero_iff]
  constructor
  · intro hdvd
    exact ⟨r, hr, hdvd⟩
  · rintro ⟨r', hr', hdvd⟩
    rw [hr] at hr'
    rwa [Option.some.inj hr']

/-- **When commitments coincide**: two nullifiers with the same clearance and role have the same
commitment exactly if they are congruent modulo the order, or the clearance is zero, or the role
vanishes in the field, as it does where it is empty or zero. -/
theorem computeCommitment_eq_iff (nullifier nullifier' : FixedBytes 32) (clearance : UInt64)
    (role : String) :
    (computeCommitment digest nullifier clearance role =
        computeCommitment digest nullifier' clearance role ↔
      Bytes.leNat nullifier.1 ≡ Bytes.leNat nullifier'.1 [MOD modulus] ∨ clearance = 0 ∨
        RoleVanishes digest role) ∧
    RoleVanishes digest "" ∧ RoleVanishes digest "0" := by
  have hclearance : Fr.ofU64 clearance = 0 ↔ clearance = 0 := by
    rw [← show Fr.ofU64 0 = 0 from Nat.cast_zero]
    exact Fr.ofU64_injective.eq_iff
  -- the empty role is zero, which stays as it is
  have hempty : stringToScalar digest "" = "0" := rfl
  have hzero : stringToScalar digest "0" = "0" := stringToScalar_stringToScalar digest ""
  refine ⟨?_, ⟨0, by rw [hempty]; decide, dvd_zero _⟩, ⟨0, by rw [hzero]; decide, dvd_zero _⟩⟩
  rw [computeCommitment, computeCommitment, Fr.toBytesLe_injective.eq_iff, mul_eq_mul_right_iff,
    mul_eq_mul_right_iff, hclearance, roleScalar_eq_zero_iff, or_assoc, Fr.ofLeBytesModOrder,
    Fr.ofLeBytesModOrder, ZMod.natCast_eq_natCast_iff]

end Derive

/-! ## Opening a commitment

A product can be opened in many ways. -/

section Opening

open R1CS

variable (gadget : ToBitsLe modulus)

/-- No opening to a level uses a clearance below it. -/
lemma not_satisfiable_of_lt {u q : UInt64} (h : u < q) (r n c : Fr) :
    ¬ RoleVerificationCircuit.Satisfiable gadget (Fr.ofU64 u) r n (Fr.ofU64 q) c := by
  rw [RoleVerificationCircuit.satisfiable_iff gadget two_hundred_fifty_six_le_modulus]
  rintro ⟨hrange, -⟩
  have hle := (Fr.exists_natCast_eq_add_iff u.toNat_lt q.toNat_lt (by norm_num)).mp hrange
  exact absurd hle.1 (not_le.mpr (UInt64.lt_iff_toNat_lt.mp h))

/-- **Any commitment opens to any level but zero**: claim the level itself, and take the quotient
for the nullifier. -/
lemma satisfiable_of_required {q : UInt64} (hq : q ≠ 0) (c : Fr) :
    RoleVerificationCircuit.Satisfiable gadget (Fr.ofU64 q) 1 (c / Fr.ofU64 q) (Fr.ofU64 q) c := by
  have hne : Fr.ofU64 q ≠ 0 := by
    rw [← show Fr.ofU64 0 = 0 from Nat.cast_zero]
    exact fun h => hq (Fr.ofU64_injective h)
  rw [RoleVerificationCircuit.satisfiable_iff gadget two_hundred_fifty_six_le_modulus]
  refine ⟨⟨0, Nat.zero_le _, by rw [Nat.cast_zero, add_zero]⟩, ?_⟩
  rw [mul_one, div_mul_cancel₀ c hne]

/-- **What a commitment binds.**  Let a commitment be computed for a clearance `u` and a required
level be above `u`.  No assignment that keeps the clearance `u` satisfies the circuit for that level
and commitment; none that keeps the derived nullifier and the role scalar does either, unless their
product is zero; but another assignment always does: the level itself, the role scalar 1, and the
quotient of commitment and level for the nullifier. -/
theorem commitment_opening (digest : Bytes → FixedBytes 32) (subjectDid credentialId : String)
    (masterSeed : FixedBytes 32) (role : String) {u q : UInt64} (h : u < q) :
    let nullifier := deriveNullifier digest subjectDid credentialId masterSeed
    let commitment := Fr.ofLeBytesModOrder (computeCommitment digest nullifier u role)
    (∀ r n, ¬ RoleVerificationCircuit.Satisfiable gadget (Fr.ofU64 u) r n (Fr.ofU64 q)
      commitment) ∧
    (∀ u', RoleVerificationCircuit.Satisfiable gadget u' (roleScalar digest role)
        (Fr.ofLeBytesModOrder nullifier.1) (Fr.ofU64 q) commitment →
      Fr.ofLeBytesModOrder nullifier.1 * roleScalar digest role = 0) ∧
    RoleVerificationCircuit.Satisfiable gadget (Fr.ofU64 q) 1 (commitment / Fr.ofU64 q)
      (Fr.ofU64 q) commitment := by
  intro nullifier commitment
  have hnot := fun r n => not_satisfiable_of_lt gadget h r n commitment
  refine ⟨hnot, ?_, ?_⟩
  · intro u' hsat
    by_contra hne
    have hproduct := ((RoleVerificationCircuit.satisfiable_iff gadget
      two_hundred_fifty_six_le_modulus _ _ _ _ _).mp hsat).2
    -- the other two factors cancel, so the clearance is the committed one
    have hu : u' = Fr.ofU64 u := by
      rw [show commitment = _ from ofLeBytesModOrder_computeCommitment ..] at hproduct
      refine mul_left_cancel₀ hne ?_
      linear_combination hproduct
    rw [hu] at hsat
    exact hnot _ _ hsat
  · have hq : q ≠ 0 := by
      rintro rfl
      exact absurd h (by simp)
    exact satisfiable_of_required gadget hq commitment

/-- The commitment of an employee of clearance 1 opens to level 2. -/
theorem commitment_opening_employee :
    let commitment := Fr.ofLeBytesModOrder (computeCommitment sha256
      (deriveNullifier sha256 "did:dzta:alice" "vc-1" ⟨List.replicate 32 0, rfl⟩) 1 "employee")
    RoleVerificationCircuit.Satisfiable (ToBitsLe.comparing modulus) (Fr.ofU64 2) 1
      (commitment / Fr.ofU64 2) (Fr.ofU64 2) commitment :=
  (commitment_opening (ToBitsLe.comparing modulus) sha256 "did:dzta:alice" "vc-1"
    ⟨List.replicate 32 0, rfl⟩ "employee" (by decide)).2.2

/-- **A commitment does not bind the clearance**: whatever the hash function and the gadget, the
commitment for clearance 1 opens to level 2. -/
theorem commitment_not_binding :
    ¬ ∃ (gadget : ToBitsLe modulus) (digest : Bytes → FixedBytes 32),
      ∀ (subjectDid credentialId : String) (masterSeed : FixedBytes 32) (role : String)
        (u q : UInt64), u < q →
        ¬ ∃ u' r n, RoleVerificationCircuit.Satisfiable gadget u' r n (Fr.ofU64 q)
          (Fr.ofLeBytesModOrder (computeCommitment digest
            (deriveNullifier digest subjectDid credentialId masterSeed) u role)) := by
  rintro ⟨gadget, digest, hbinding⟩
  exact hbinding "did:dzta:alice" "vc-1" ⟨List.replicate 32 0, rfl⟩ "employee" 1 2 (by decide)
    ⟨_, _, _, satisfiable_of_required gadget (by decide) _⟩

end Opening

end DZTA
