import Dzta.Library.R1CS
import Mathlib.Data.Nat.Bits

/-!
# A gadget for the bits of a field element

An instance of `R1CS.ToBitsLe` in rank-1 constraints.  Every bit is a witness `b` with
`b * (1 - b) = 0`, one constraint recomposes the bits to the value, and the rest compares them with
the largest canonical number `p - 1`, from the most significant bit down: a running product `run`
of the bits at the ones of `p - 1` is `1` as long as the two numbers agree, and at a zero of
`p - 1` the bit times `run` has to be `0`.

The two halves of the comparison are **`le_of_satisfies_inField`** and
**`satisfies_inField`**, one induction each along the bits.
-/

namespace R1CS

variable {p : ℕ}

/-! ## The constraints

Each bit is 0 or 1, and all of them are not above the modulus. -/

/-- The variable of bit `i`. -/
def bitVar (first i : ℕ) : LinComb (ZMod p) := .var (.witness (first + i))

/-- The bits are zero or one. -/
def booleanity (first k : ℕ) : List (Constraint (ZMod p)) :=
  (List.range k).map fun i =>
    ⟨bitVar first i, (LinComb.const 1).sub (bitVar first i), .const 0⟩

/-- The `k` low bits, compared with those of `c`, under the running product so far; `next` is the
first witness that is free. -/
def inField (first c : ℕ) : (k next : ℕ) → (run : LinComb (ZMod p)) → List (Constraint (ZMod p))
  | 0, _, _ => []
  | k + 1, next, run =>
    if c.testBit k then
      ⟨run, bitVar first k, .var (.witness next)⟩ ::
        inField first c k (next + 1) (.var (.witness next))
    else ⟨run, bitVar first k, .const 0⟩ :: inField first c k next run

/-- The running products that an honest prover assigns for the number `m`. -/
def runs (m c : ℕ) : (k : ℕ) → (run : Bool) → List (ZMod p)
  | 0, _ => []
  | k + 1, run =>
    if c.testBit k then
      (if run && m.testBit k then 1 else 0) :: runs m c k (run && m.testBit k)
    else runs m c k run

lemma length_runs (m m' c k : ℕ) (run run' : Bool) :
    (runs m c k run : List (ZMod p)).length = (runs m' c k run' : List (ZMod p)).length := by
  induction k generalizing run run' with
  | zero => rfl
  | succ k ih =>
    rw [runs, runs]
    split
    · rw [List.length_cons, List.length_cons, ih]
    · exact ih run run'

/-! ## Comparison

The constraints hold exactly for the bits of a number that is small enough. -/

lemma mod_pow_succ_testBit (m k : ℕ) :
    m % 2 ^ (k + 1) = m % 2 ^ k + 2 ^ k * (m.testBit k).toNat := by
  rw [Nat.mod_pow_succ, Nat.toNat_testBit]

section Compare

variable {a : Assignment (ZMod p)} {first m : ℕ}

/-- **Soundness of the comparison**: if the running product is one and the constraints are
satisfied, the low bits denote at most what those of `c` denote. -/
lemma le_of_satisfies_inField [Fact p.Prime] {c : ℕ} :
    ∀ {k next : ℕ} {run : LinComb (ZMod p)},
      (∀ i < k, a (.witness (first + i)) = if m.testBit i then 1 else 0) →
      run.eval a = 1 → Satisfies a (inField first c k next run) → m % 2 ^ k ≤ c % 2 ^ k
  | 0, _, _, _, _, _ => by simp [Nat.mod_one]
  | k + 1, next, run, hbits, hrun, hsat => by
    have hbit := hbits k (Nat.lt_succ_self k)
    have hlow : ∀ i < k, a (.witness (first + i)) = if m.testBit i then 1 else 0 :=
      fun i hi => hbits i (Nat.lt_succ_of_lt hi)
    have hm := Nat.mod_lt m (Nat.two_pow_pos k)
    rw [mod_pow_succ_testBit, mod_pow_succ_testBit]
    rw [inField] at hsat
    cases hc : c.testBit k with
    | true =>
      rw [hc, if_pos rfl, satisfies_cons, Constraint.Holds, hrun, bitVar, LinComb.eval_var,
        LinComb.eval_var, hbit, one_mul] at hsat
      cases hmk : m.testBit k with
      | true =>
        rw [hmk, if_pos rfl] at hsat
        have ih := le_of_satisfies_inField hlow (by rw [LinComb.eval_var, ← hsat.1]) hsat.2
        simpa using ih
      | false =>
        simp only [Bool.toNat_false, Bool.toNat_true]
        omega
    | false =>
      rw [hc, if_neg Bool.false_ne_true, satisfies_cons, Constraint.Holds, hrun, bitVar,
        LinComb.eval_var, LinComb.eval_const, hbit, one_mul] at hsat
      cases hmk : m.testBit k with
      | true =>
        rw [hmk, if_pos rfl] at hsat
        exact absurd hsat.1 one_ne_zero
      | false =>
        simpa using le_of_satisfies_inField hlow hrun hsat.2

/-- **Completeness of the comparison**: the honest running products satisfy, unless the low bits
denote more than those of `c` while the running product is one. -/
lemma satisfies_inField {c : ℕ} :
    ∀ {k next : ℕ} {run : LinComb (ZMod p)} {r : Bool},
      (∀ i < k, a (.witness (first + i)) = if m.testBit i then 1 else 0) →
      run.eval a = (if r then 1 else 0) → (r = true → m % 2 ^ k ≤ c % 2 ^ k) →
      (∀ i < (runs m c k r : List (ZMod p)).length,
        a (.witness (next + i)) = (runs m c k r).getD i 0) →
      Satisfies a (inField first c k next run)
  | 0, _, _, _, _, _, _, _ => satisfies_nil a
  | k + 1, next, run, r, hbits, hrun, hle, hruns => by
    have hbit := hbits k (Nat.lt_succ_self k)
    have hlow : ∀ i < k, a (.witness (first + i)) = if m.testBit i then 1 else 0 :=
      fun i hi => hbits i (Nat.lt_succ_of_lt hi)
    rw [mod_pow_succ_testBit, mod_pow_succ_testBit] at hle
    rw [inField]
    rw [runs] at hruns
    cases hc : c.testBit k with
    | true =>
      rw [hc, if_pos rfl] at hruns
      have hfirst := hruns 0 (by simp)
      rw [Nat.add_zero, List.getD_cons_zero] at hfirst
      rw [if_pos rfl, satisfies_cons]
      refine ⟨?_, satisfies_inField (r := r && m.testBit k) hlow ?_ ?_ ?_⟩
      · rw [Constraint.Holds, hrun, bitVar, LinComb.eval_var, LinComb.eval_var, hbit, hfirst]
        cases r <;> cases m.testBit k <;> simp
      · rw [LinComb.eval_var, hfirst]
      · intro hr
        rw [Bool.and_eq_true] at hr
        have h := hle hr.1
        rw [hc, hr.2] at h
        omega
      · intro i hi
        have h := hruns (i + 1) (by simpa using hi)
        rw [List.getD_cons_succ] at h
        rw [← h]
        congr 2
        omega
    | false =>
      rw [hc, if_neg Bool.false_ne_true] at hruns
      rw [if_neg Bool.false_ne_true, satisfies_cons]
      have hzero : r = true → m.testBit k = false := by
        intro hr
        have h := hle hr
        have hlt := Nat.mod_lt c (Nat.two_pow_pos k)
        cases hmk : m.testBit k with
        | false => rfl
        | true =>
          rw [hc, hmk, Bool.toNat_true, Bool.toNat_false] at h
          omega
      refine ⟨?_, satisfies_inField (r := r) hlow hrun ?_ hruns⟩
      · rw [Constraint.Holds, hrun, bitVar, LinComb.eval_var, LinComb.eval_const, hbit]
        cases r with
        | false => simp
        | true => simp [hzero rfl]
      · intro hr
        have h := hle hr
        rw [hc, hzero hr] at h
        omega

end Compare

/-! ## The gadget

The bits of a field element, with both directions of its law. -/

/-- The bits of a value as variables. -/
def bitVars (p first : ℕ) : List (LinComb (ZMod p)) := (List.range p.size).map (bitVar first)

/-- All constraints of the gadget. -/
def bitConstraints (p first : ℕ) (x : LinComb (ZMod p)) : List (Constraint (ZMod p)) :=
  booleanity first p.size ++
    ⟨(leBitsToFp (bitVars p first)).sub x, .const 1, .const 0⟩ ::
      inField first (p - 1) p.size (first + p.size) (.const 1)

/-- The digits of the canonical number and the running products of its comparison. -/
def bitWitnesses (p : ℕ) (v : ZMod p) : List (ZMod p) :=
  bits (ZMod p) p.size v.val ++ runs v.val (p - 1) p.size true

lemma pred_mod_two_pow_size [Fact p.Prime] : (p - 1) % 2 ^ p.size = p - 1 :=
  Nat.mod_eq_of_lt (lt_of_le_of_lt (Nat.sub_le p 1) (Nat.lt_size_self p))

/-- Bits that are digits, variable by variable. -/
lemma map_eval_bitVars {a : Assignment (ZMod p)} {first m : ℕ}
    (h : ∀ i < p.size, a (.witness (first + i)) = if m.testBit i then 1 else 0) :
    (bitVars p first).map (LinComb.eval a) = bits (ZMod p) p.size m := by
  rw [bitVars, bits, List.map_map]
  refine List.map_congr_left fun i hi => ?_
  rw [Function.comp_apply, bitVar, LinComb.eval_var, h i (List.mem_range.mp hi)]

lemma exists_testBit [Fact p.Prime] {a : Assignment (ZMod p)} {first k : ℕ}
    (h : Satisfies a (booleanity first k)) :
    ∃ m < 2 ^ k, ∀ i < k, a (.witness (first + i)) = if m.testBit i then 1 else 0 := by
  refine ⟨Nat.ofBits fun i : Fin k => decide (a (.witness (first + i)) = 1),
    Nat.ofBits_lt_two_pow _, fun i hi => ?_⟩
  have hbool := h _ (List.mem_map.mpr ⟨i, List.mem_range.mpr hi, rfl⟩)
  rw [Constraint.Holds, bitVar, LinComb.eval_sub, LinComb.eval_var, LinComb.eval_const,
    LinComb.eval_const, mul_eq_zero, sub_eq_zero] at hbool
  rw [Nat.testBit_ofBits_lt _ _ hi]
  rcases hbool with hzero | hone
  · simp [hzero]
  · simp [← hone]

/-- **The gadget is sound.** -/
theorem exists_of_satisfies_bitConstraints [Fact p.Prime] {a : Assignment (ZMod p)} {first : ℕ}
    {x : LinComb (ZMod p)} (h : Satisfies a (bitConstraints p first x)) :
    ∃ m < p, (m : ZMod p) = x.eval a ∧
      (bitVars p first).map (LinComb.eval a) = bits (ZMod p) p.size m := by
  rw [bitConstraints, satisfies_append, satisfies_cons] at h
  obtain ⟨hbool, hvalue, hrange⟩ := h
  obtain ⟨m, hm, hbits⟩ := exists_testBit hbool
  have hle := le_of_satisfies_inField hbits (LinComb.eval_const a 1) hrange
  rw [pred_mod_two_pow_size, Nat.mod_eq_of_lt hm] at hle
  have hdigits := map_eval_bitVars hbits
  refine ⟨m, lt_of_le_of_lt hle (Nat.sub_lt (Fact.out : p.Prime).pos one_pos), ?_, hdigits⟩
  rw [Constraint.Holds, LinComb.eval_sub, LinComb.eval_const, LinComb.eval_const, mul_one,
    sub_eq_zero, eval_leBitsToFp, hdigits, ofBits_bits, Nat.mod_eq_of_lt hm] at hvalue
  exact hvalue

/-- **The gadget is complete.** -/
theorem satisfies_bitConstraints [Fact p.Prime] {a : Assignment (ZMod p)} {first : ℕ}
    {x : LinComb (ZMod p)}
    (h : ∀ i < (bitWitnesses p (x.eval a)).length,
      a (.witness (first + i)) = (bitWitnesses p (x.eval a)).getD i 0) :
    Satisfies a (bitConstraints p first x) := by
  have hlength : (bits (ZMod p) p.size (x.eval a).val).length = p.size := by
    simp [bits]
  have hlt : (x.eval a).val < 2 ^ p.size := lt_trans (ZMod.val_lt _) (Nat.lt_size_self p)
  have hbits : ∀ i < p.size,
      a (.witness (first + i)) = if (x.eval a).val.testBit i then 1 else 0 := by
    intro i hi
    rw [h i (by rw [bitWitnesses, List.length_append, hlength]; omega), bitWitnesses,
      List.getD_append _ _ _ _ (by rw [hlength]; exact hi)]
    simp [bits, hi]
  have hruns : ∀ i < (runs (x.eval a).val (p - 1) p.size true : List (ZMod p)).length,
      a (.witness (first + p.size + i)) =
        (runs (x.eval a).val (p - 1) p.size true).getD i 0 := by
    intro i hi
    rw [Nat.add_assoc, h _ (by rw [bitWitnesses, List.length_append, hlength]; omega),
      bitWitnesses, List.getD_append_right _ _ _ _ (by rw [hlength]; omega), hlength,
      Nat.add_sub_cancel_left]
  rw [bitConstraints, satisfies_append, satisfies_cons]
  refine ⟨?_, ?_, satisfies_inField (r := true) hbits (LinComb.eval_const a 1) ?_ hruns⟩
  · intro k hk
    obtain ⟨i, hi, rfl⟩ := List.mem_map.mp hk
    rw [Constraint.Holds, bitVar, LinComb.eval_sub, LinComb.eval_var, LinComb.eval_const,
      LinComb.eval_const, hbits i (List.mem_range.mp hi)]
    split <;> simp
  · rw [Constraint.Holds, LinComb.eval_sub, LinComb.eval_const, LinComb.eval_const,
      eval_leBitsToFp, map_eval_bitVars hbits, ofBits_bits, Nat.mod_eq_of_lt hlt,
      ZMod.natCast_zmod_val, sub_self, zero_mul]
  · intro _
    rw [pred_mod_two_pow_size, Nat.mod_eq_of_lt hlt]
    exact Nat.le_sub_one_of_lt (ZMod.val_lt _)

/-- The gadget. -/
def ToBitsLe.comparing (p : ℕ) [Fact p.Prime] : ToBitsLe p where
  numWitnesses := (bitWitnesses p 0).length
  bitsFrom := bitVars p
  constraints := bitConstraints p
  witnesses := bitWitnesses p
  length_witnesses v := by
    rw [bitWitnesses, bitWitnesses, List.length_append, List.length_append,
      length_runs v.val (0 : ZMod p).val (p - 1) p.size true true]
    simp [bits]
  sound _ _ _ h := exists_of_satisfies_bitConstraints h
  complete first x a h := by
    refine satisfies_bitConstraints fun i hi => h i ?_
    rw [bitWitnesses, List.length_append] at hi ⊢
    rw [length_runs (0 : ZMod p).val (x.eval a).val (p - 1) p.size true true]
    simpa [bits] using hi

end R1CS
