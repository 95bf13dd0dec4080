import Dzta.Library.BitGadget
import Dzta.Zkp.ScalarField

/-!
# The role verification circuit

The circuit that a prover satisfies to pass a clearance check, as a program that allocates
variables and enforces constraints.  The constraints do not depend on the values, so they are those
of a run in setup (`generateConstraints_setup`).

**`satisfiable_iff`** is the exact meaning of the circuit for a prover who chooses every witness:
the clearance exceeds the required one by at most 255 and the product of the three private values
is the commitment.  The honest prover's values satisfy under the same condition
(`satisfies_prove_iff`), so nothing is lost by following the program.

The range check recomposes the low eight of all bits and compares in the field: a difference that
is not a small number has a high bit set, and recomposing loses it.
-/

namespace DZTA

open R1CS

/-- The circuit with the values that are known where it is run. -/
structure RoleVerificationCircuit (F : Type) where
  userClearanceLevel : Option F := none
  userRoleScalar : Option F := none
  secretNullifier : Option F := none
  requiredClearanceLevel : Option F := none
  publicCommitment : Option F := none

namespace RoleVerificationCircuit

variable {p : ℕ} (gadget : ToBitsLe p)

/-- `generate_constraints`: the variables and the constraints of the circuit, in the order in which
they are made. -/
def generateConstraints (self : RoleVerificationCircuit (ZMod p)) : Builder (ZMod p) Unit := do
  let userClearance ← newWitness self.userClearanceLevel
  let roleScalar ← newWitness self.userRoleScalar
  let nullifier ← newWitness self.secretNullifier
  let reqClearance ← newInput self.requiredClearanceLevel
  let commitment ← newInput self.publicCommitment
  let diff := userClearance.sub reqClearance
  let diffBits ← gadget.toBitsLe diff
  let truncatedDiff := leBitsToFp (diffBits.take 8)
  enforceEqual diff truncatedDiff
  let product ← mul nullifier userClearance
  let expectedCommitment ← mul product roleScalar
  enforceEqual expectedCommitment commitment

/-! ## The constraints

The range check of the difference of the levels, and the two products. -/

/-- The variables in the order in which the circuit allocates them. -/
def userClearanceVar : Variable := .witness 0
def roleScalarVar : Variable := .witness 1
def nullifierVar : Variable := .witness 2
def reqClearanceVar : Variable := .input 0
def commitmentVar : Variable := .input 1

/-- The difference that is range-checked. -/
def diff : LinComb (ZMod p) := (LinComb.var userClearanceVar).sub (.var reqClearanceVar)

/-- The constraints of a run: the bits of the difference, the range check, the two products and the
commitment. -/
def constraints : List (Constraint (ZMod p)) :=
  let product : Variable := .witness (3 + gadget.numWitnesses)
  let expectedCommitment : Variable := .witness (4 + gadget.numWitnesses)
  gadget.constraints 3 diff ++
    [⟨diff.sub (leBitsToFp ((gadget.bitsFrom 3).take 8)), .const 1, .const 0⟩,
     ⟨.var nullifierVar, .var userClearanceVar, .var product⟩,
     ⟨.var product, .var roleScalarVar, .var expectedCommitment⟩,
     ⟨(LinComb.var expectedCommitment).sub (.var commitmentVar), .const 1, .const 0⟩]

/-- The constraints of the commitment: the two products, and that the second one is the public
input. -/
def commitmentConstraints : List (Constraint (ZMod p)) :=
  let product : Variable := .witness (3 + gadget.numWitnesses)
  let expectedCommitment : Variable := .witness (4 + gadget.numWitnesses)
  [⟨.var nullifierVar, .var userClearanceVar, .var product⟩,
   ⟨.var product, .var roleScalarVar, .var expectedCommitment⟩,
   ⟨(LinComb.var expectedCommitment).sub (.var commitmentVar), .const 1, .const 0⟩]

/-- They are the last ones. -/
lemma commitmentConstraints_suffix : commitmentConstraints gadget <:+ constraints gadget :=
  ⟨gadget.constraints 3 diff ++
    [⟨diff.sub (leBitsToFp ((gadget.bitsFrom 3).take 8)), .const 1, .const 0⟩],
    by simp [constraints, commitmentConstraints]⟩

/-- The system of an honest prover. -/
def proved (u r n q c : ZMod p) : System (ZMod p) where
  mode := .prove
  inputs := [q, c]
  witnesses := [u, r, n] ++ gadget.witnesses (u - q) ++ [n * u, n * u * r]
  constraints := constraints gadget

/-! ## What a run emits

With values or without, a run emits the same constraints. -/

/-- In setup no value is needed, and the constraints are emitted. -/
lemma generateConstraints_setup (self : RoleVerificationCircuit (ZMod p)) :
    ∃ s, generateConstraints gadget self (System.new .setup) = .ok ((), s) ∧
      s.constraints = constraints gadget := by
  refine ⟨_, rfl, ?_⟩
  simp [System.new, constraints, diff, userClearanceVar, reqClearanceVar, nullifierVar,
    roleScalarVar, commitmentVar, Nat.add_comm 3, Nat.add_comm 4]

/-- A prover that has every value gets the honest system. -/
lemma generateConstraints_prove (u r n q c : ZMod p) :
    generateConstraints gadget ⟨some u, some r, some n, some q, some c⟩ (System.new .prove) =
      .ok ((), proved gadget u r n q c) := by
  have hlength := gadget.length_witnesses (u - q)
  simp [generateConstraints, newWitness, newInput, mul, enforceEqual, enforce,
    ToBitsLe.toBitsLe, assigned, System.new, System.assignment, bind, StateT.bind, Except.bind,
    pure, Except.pure, proved, constraints, diff, userClearanceVar, reqClearanceVar, nullifierVar,
    roleScalarVar, commitmentVar, Nat.add_comm 3, Nat.add_comm 4, hlength]

/-! ## What the constraints say

Read as facts about the assigned values, and back. -/

lemma satisfies_constraints {a : Assignment (ZMod p)} :
    Satisfies a (constraints gadget) ↔
      Satisfies a (gadget.constraints 3 diff) ∧
      a userClearanceVar - a reqClearanceVar =
        ofBits (((gadget.bitsFrom 3).map (LinComb.eval a)).take 8) ∧
      a nullifierVar * a userClearanceVar = a (.witness (3 + gadget.numWitnesses)) ∧
      a (.witness (3 + gadget.numWitnesses)) * a roleScalarVar =
        a (.witness (4 + gadget.numWitnesses)) ∧
      a (.witness (4 + gadget.numWitnesses)) = a commitmentVar := by
  simp only [constraints, satisfies_append, satisfies_cons, satisfies_nil, and_true,
    Constraint.Holds, LinComb.eval_sub, LinComb.eval_const, LinComb.eval_var, mul_one,
    sub_eq_zero, eval_leBitsToFp, diff, List.map_take]

lemma eight_le_size (hp : 256 ≤ p) : 8 ≤ p.size :=
  (Nat.lt_size.mpr hp).le

/-- **Soundness**, for any prover: the range and the product hold of whatever satisfies. -/
theorem exists_of_satisfies (hp : 256 ≤ p) {a : Assignment (ZMod p)}
    (h : Satisfies a (constraints gadget)) :
    (∃ d ≤ 255, a userClearanceVar = a reqClearanceVar + (d : ℕ)) ∧
      a nullifierVar * a userClearanceVar * a roleScalarVar = a commitmentVar := by
  obtain ⟨hbits, hrange, hproduct, hexpected, hcommitment⟩ := (satisfies_constraints gadget).mp h
  obtain ⟨m, -, -, hdigits⟩ := gadget.sound 3 _ a hbits
  rw [hdigits, take_bits (eight_le_size hp), ofBits_bits] at hrange
  refine ⟨⟨m % 2 ^ 8, Nat.le_of_lt_succ (Nat.mod_lt m (by norm_num)), ?_⟩, ?_⟩
  · rw [← hrange]
    ring
  · rw [hproduct, hexpected, hcommitment]

/-- The honest bits of a difference recompose to it, if it is small. -/
lemma satisfies_bits_proved (u r n q c : ZMod p) :
    Satisfies (proved gadget u r n q c).assignment (gadget.constraints 3 diff) := by
  have hdiff : diff.eval (proved gadget u r n q c).assignment = u - q := by
    simp [diff, System.assignment, proved, userClearanceVar, reqClearanceVar]
  refine gadget.complete 3 diff _ fun i hi => ?_
  have hlength := gadget.length_witnesses (u - q)
  rw [hdiff, System.assignment, proved]
  simp only [List.append_assoc]
  rw [List.getD_append_right _ _ _ _ (by simp), List.getD_append _ _ _ _ (by simp; omega)]
  simp

lemma proved_product (u r n q c : ZMod p) :
    (proved gadget u r n q c).assignment (.witness (3 + gadget.numWitnesses)) = n * u := by
  have hlength := gadget.length_witnesses (u - q)
  simp [System.assignment, proved, ← hlength, Nat.add_comm 3]

lemma proved_expectedCommitment (u r n q c : ZMod p) :
    (proved gadget u r n q c).assignment (.witness (4 + gadget.numWitnesses)) = n * u * r := by
  have hlength := gadget.length_witnesses (u - q)
  simp [System.assignment, proved, ← hlength, Nat.add_comm 4]

/-- The honest prover satisfies the constraints of the commitment exactly if the product holds. -/
lemma satisfies_commitmentConstraints_iff (u r n q c : ZMod p) :
    Satisfies (proved gadget u r n q c).assignment (commitmentConstraints gadget) ↔
      n * u * r = c := by
  have hpublic : (proved gadget u r n q c).assignment commitmentVar = c := rfl
  have hprivate : (proved gadget u r n q c).assignment nullifierVar *
      (proved gadget u r n q c).assignment userClearanceVar = n * u := rfl
  have hrole : (proved gadget u r n q c).assignment roleScalarVar = r := rfl
  simp only [commitmentConstraints, satisfies_cons, satisfies_nil, and_true, Constraint.Holds,
    LinComb.eval_sub, LinComb.eval_const, LinComb.eval_var, mul_one, sub_eq_zero, proved_product,
    proved_expectedCommitment, hpublic, hprivate, hrole, true_and]

/-- **The honest prover** satisfies the constraints exactly if the range and the product hold. -/
theorem satisfies_prove_iff [Fact p.Prime] (hp : 256 ≤ p) (u r n q c : ZMod p) :
    Satisfies (proved gadget u r n q c).assignment (constraints gadget) ↔
      (∃ d ≤ 255, u = q + (d : ℕ)) ∧ n * u * r = c := by
  constructor
  · intro h
    exact exists_of_satisfies gadget hp h
  · rintro ⟨⟨d, hd, rfl⟩, rfl⟩
    have hbits := satisfies_bits_proved gadget (q + (d : ZMod p)) r n q (n * (q + d) * r)
    obtain ⟨m, hm, hvalue, hdigits⟩ := gadget.sound 3 _ _ hbits
    have hsmall : m = d := by
      have hcast : (m : ZMod p) = d := by
        rw [hvalue]
        simp [diff, System.assignment, proved, userClearanceVar, reqClearanceVar]
      rwa [ZMod.natCast_eq_natCast_iff', Nat.mod_eq_of_lt hm,
        Nat.mod_eq_of_lt (by omega)] at hcast
    rw [satisfies_constraints, proved_product, proved_expectedCommitment, hdigits,
      take_bits (eight_le_size hp), ofBits_bits, hsmall, Nat.mod_eq_of_lt (by omega)]
    refine ⟨hbits, ?_, rfl, rfl, rfl⟩
    simp [System.assignment, proved, userClearanceVar, reqClearanceVar]

/-- Some choice of the bit and product witnesses satisfies the constraints that
`generate_constraints` emits, for given private values and public inputs. -/
def Satisfiable (u r n q c : ZMod p) : Prop :=
  ∃ s a, generateConstraints gadget {} (System.new .setup) = .ok ((), s) ∧
    (a userClearanceVar = u ∧ a roleScalarVar = r ∧ a nullifierVar = n ∧
      a reqClearanceVar = q ∧ a commitmentVar = c) ∧ Satisfies a s.constraints

/-- **The exact meaning of the constraints** for a prover who chooses every witness. -/
theorem satisfiable_iff [Fact p.Prime] (hp : 256 ≤ p) (u r n q c : ZMod p) :
    Satisfiable gadget u r n q c ↔ (∃ d ≤ 255, u = q + (d : ℕ)) ∧ n * u * r = c := by
  obtain ⟨s, hrun, hconstraints⟩ := generateConstraints_setup gadget {}
  constructor
  · rintro ⟨s', a, hrun', ⟨rfl, rfl, rfl, rfl, rfl⟩, hsat⟩
    obtain rfl := (Prod.mk.inj (Except.ok.inj (hrun.symm.trans hrun'))).2
    rw [hconstraints] at hsat
    exact exists_of_satisfies gadget hp hsat
  · intro h
    refine ⟨s, (proved gadget u r n q c).assignment, hrun, ⟨rfl, rfl, rfl, rfl, rfl⟩, ?_⟩
    rw [hconstraints]
    exact (satisfies_prove_iff gadget hp u r n q c).mpr h

end RoleVerificationCircuit

/-! ## The circuit over the scalar field

The modulus is large enough for all of this. -/

lemma two_hundred_fifty_six_le_modulus : 256 ≤ modulus := by decide +kernel

/-- **The role circuit means exactly this**: for all field elements, the constraints that
`generate_constraints` emits can be satisfied by some choice of the other witnesses if and only if
the clearance is the required one plus a number up to 255 and the product is the commitment.  For
levels that are `u64` numbers the range is that of the numbers. -/
theorem roleCircuit_satisfiable_iff (gadget : ToBitsLe modulus) (u r n q c : Fr) :
    (RoleVerificationCircuit.Satisfiable gadget u r n q c ↔
      (∃ d ≤ 255, u = q + (d : ℕ)) ∧ n * u * r = c) ∧
    ∀ x y : UInt64, (∃ d ≤ 255, Fr.ofU64 x = Fr.ofU64 y + (d : ℕ)) ↔
      y ≤ x ∧ x.toNat - y.toNat ≤ 255 := by
  constructor
  · exact RoleVerificationCircuit.satisfiable_iff gadget two_hundred_fifty_six_le_modulus u r n q c
  · intro x y
    rw [UInt64.le_iff_toNat_le]
    exact Fr.exists_natCast_eq_add_iff x.toNat_lt y.toNat_lt (by norm_num)

end DZTA
