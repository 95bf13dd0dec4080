import Mathlib.Algebra.Field.ZMod
import Mathlib.Algebra.BigOperators.Group.List.Basic
import Mathlib.Data.Nat.Size
import Mathlib.Data.Nat.Bitwise
import Mathlib.Tactic.Ring

/-!
# Rank-1 constraint systems and their synthesis

A constraint system over a field: linear combinations of public inputs and witnesses, constraints
`a * b = c` on them, and the assignments that satisfy them.  A circuit is a program in `Builder`
that allocates variables and enforces constraints.  In **setup** it is run for its shape alone and
reads no value; to **prove**, every variable is given a value when it is allocated, and a value
that is missing is an error.

The gadget that takes a field element apart into bits is a parameter, `ToBitsLe`, with what a
circuit may rely on: bits that a satisfying assignment gives are the binary digits of a number
below the characteristic that denotes the value, and the honest bits satisfy.  The
bits of a number denote it up to the number of bits that are kept (`ofBits_bits`).
-/

namespace R1CS

/-! ## Linear combinations and constraints

Products of linear combinations of the variables, under an assignment. -/

/-- A variable of a constraint system. -/
inductive Variable where
  | input (i : ℕ)
  | witness (i : ℕ)
deriving DecidableEq

/-- Values for the variables. -/
abbrev Assignment (F : Type) := Variable → F

/-- A constant plus multiples of variables. -/
structure LinComb (F : Type) where
  constant : F
  terms : List (F × Variable)

namespace LinComb

variable {F : Type} [CommRing F]

/-- A variable. -/
def var (v : Variable) : LinComb F := ⟨0, [(1, v)]⟩

/-- A constant. -/
def const (k : F) : LinComb F := ⟨k, []⟩

def add (x y : LinComb F) : LinComb F := ⟨x.constant + y.constant, x.terms ++ y.terms⟩

def smul (k : F) (x : LinComb F) : LinComb F :=
  ⟨k * x.constant, x.terms.map fun t => (k * t.1, t.2)⟩

def sub (x y : LinComb F) : LinComb F := x.add (y.smul (-1))

/-- The value under an assignment. -/
def eval (a : Assignment F) (x : LinComb F) : F :=
  x.constant + (x.terms.map fun t => t.1 * a t.2).sum

variable (a : Assignment F)

@[simp] lemma eval_var (v : Variable) : (var v).eval a = a v := by
  simp [var, eval]

@[simp] lemma eval_const (k : F) : (const k).eval a = k := by
  simp [const, eval]

@[simp] lemma eval_add (x y : LinComb F) : (x.add y).eval a = x.eval a + y.eval a := by
  simp only [add, eval, List.map_append, List.sum_append]
  ring

@[simp] lemma eval_smul (k : F) (x : LinComb F) : (x.smul k).eval a = k * x.eval a := by
  simp only [smul, eval, List.map_map, mul_add, ← List.sum_map_mul_left]
  congr 2
  refine List.map_congr_left fun t _ => ?_
  simp only [Function.comp_apply, mul_assoc]

@[simp] lemma eval_sub (x y : LinComb F) : (x.sub y).eval a = x.eval a - y.eval a := by
  rw [sub, eval_add, eval_smul]
  ring

end LinComb

/-- The constraint `a * b = c`. -/
structure Constraint (F : Type) where
  a : LinComb F
  b : LinComb F
  c : LinComb F

section Satisfied

variable {F : Type} [CommRing F]

/-- An assignment satisfies a constraint. -/
def Constraint.Holds (a : Assignment F) (k : Constraint F) : Prop :=
  k.a.eval a * k.b.eval a = k.c.eval a

/-- An assignment satisfies all constraints of a list. -/
def Satisfies (a : Assignment F) (ks : List (Constraint F)) : Prop := ∀ k ∈ ks, k.Holds a

@[simp] lemma satisfies_nil (a : Assignment F) : Satisfies a [] := by
  simp [Satisfies]

@[simp] lemma satisfies_cons (a : Assignment F) (k : Constraint F) (ks : List (Constraint F)) :
    Satisfies a (k :: ks) ↔ k.Holds a ∧ Satisfies a ks := by
  simp [Satisfies]

@[simp] lemma satisfies_append (a : Assignment F) (ks ls : List (Constraint F)) :
    Satisfies a (ks ++ ls) ↔ Satisfies a ks ∧ Satisfies a ls := by
  simp [Satisfies, or_imp, forall_and]

end Satisfied

/-! ## Synthesis

A circuit allocates variables and enforces constraints, with values or without. -/

/-- What a circuit is run for. -/
inductive Mode where
  | setup
  | prove
deriving DecidableEq

/-- How synthesis fails. -/
inductive SynthesisError where
  | assignmentMissing
deriving DecidableEq

/-- The variables and the constraints allocated so far, with the values of the variables; in
setup no value is known, and the entry is zero. -/
structure System (F : Type) where
  mode : Mode
  inputs : List F
  witnesses : List F
  constraints : List (Constraint F)

/-- A program that allocates and constrains. -/
abbrev Builder (F : Type) := StateT (System F) (Except SynthesisError)

section Builder

variable {F : Type} [CommRing F]

/-- A system without variables. -/
def System.new (mode : Mode) : System F := ⟨mode, [], [], []⟩

/-- The values of the variables of a system. -/
def System.assignment (s : System F) : Assignment F
  | .input i => s.inputs.getD i 0
  | .witness i => s.witnesses.getD i 0

/-- The value a variable is allocated with. -/
def assigned (mode : Mode) (value : Option F) : Except SynthesisError F :=
  match mode, value with
  | .setup, _ => .ok 0
  | .prove, some v => .ok v
  | .prove, none => .error .assignmentMissing

/-- Allocates a witness. -/
def newWitness (value : Option F) : Builder F (LinComb F) := fun s => do
  let v ← assigned s.mode value
  return (.var (.witness s.witnesses.length), { s with witnesses := s.witnesses ++ [v] })

/-- Allocates a public input. -/
def newInput (value : Option F) : Builder F (LinComb F) := fun s => do
  let v ← assigned s.mode value
  return (.var (.input s.inputs.length), { s with inputs := s.inputs ++ [v] })

/-- Enforces constraints. -/
def enforce (ks : List (Constraint F)) : Builder F Unit := fun s =>
  .ok ((), { s with constraints := s.constraints ++ ks })

/-- Enforces that two linear combinations are equal. -/
def enforceEqual (x y : LinComb F) : Builder F Unit := enforce [⟨x.sub y, .const 1, .const 0⟩]

/-- A product, as a new witness. -/
def mul (x y : LinComb F) : Builder F (LinComb F) := fun s => do
  let (product, s) ← newWitness (some (x.eval s.assignment * y.eval s.assignment)) s
  let (_, s) ← enforce [⟨x, y, product⟩] s
  return (product, s)

end Builder

/-! ## Bits

The bits of a number as field elements. -/

/-- The `k` low binary digits of a number as field elements, least significant first. -/
def bits (F : Type) [CommRing F] (k m : ℕ) : List F :=
  (List.range k).map fun i => if m.testBit i then 1 else 0

/-- The number that digits denote, least significant first. -/
def ofBits {F : Type} [CommRing F] : List F → F
  | [] => 0
  | b :: bs => b + 2 * ofBits bs

section Bits

variable {F : Type} [CommRing F]

lemma ofBits_append (bs : List F) (b : F) : ofBits (bs ++ [b]) = ofBits bs + 2 ^ bs.length * b := by
  induction bs with
  | nil => simp [ofBits]
  | cons c cs ih =>
    rw [List.cons_append, ofBits, ih, ofBits, List.length_cons, pow_succ]
    ring

/-- **The low digits of a number denote what is left of it.** -/
theorem ofBits_bits (k m : ℕ) : ofBits (bits F k m) = ((m % 2 ^ k : ℕ) : F) := by
  induction k with
  | zero => simp [bits, ofBits, Nat.mod_one]
  | succ k ih =>
    have hbits : bits F (k + 1) m = bits F k m ++ [if m.testBit k then 1 else 0] := by
      simp [bits, List.range_succ]
    have hlength : (bits F k m).length = k := by
      simp [bits]
    have hmod : m % 2 ^ (k + 1) = m % 2 ^ k + 2 ^ k * (m.testBit k).toNat := by
      rw [Nat.mod_pow_succ, Nat.toNat_testBit]
    rw [hbits, ofBits_append, ih, hlength, hmod]
    cases m.testBit k <;> simp

lemma take_bits {j k : ℕ} (h : j ≤ k) (m : ℕ) : (bits F k m).take j = bits F j m := by
  rw [bits, ← List.map_take, List.take_range, Nat.min_eq_left h, bits]

/-- Digits recomposed into one linear combination. -/
def leBitsToFp : List (LinComb F) → LinComb F
  | [] => .const 0
  | b :: bs => b.add ((leBitsToFp bs).smul 2)

lemma eval_leBitsToFp (a : Assignment F) (bs : List (LinComb F)) :
    (leBitsToFp bs).eval a = ofBits (bs.map (LinComb.eval a)) := by
  induction bs with
  | nil => simp [leBitsToFp, ofBits]
  | cons b bs ih => simp [leBitsToFp, ofBits, ih]

end Bits

/-- A gadget for the bits of a field element: the digits and the constraints on `numWitnesses` new
witnesses from `first` on, and the values of these for an honest prover.  **Sound**: under any
assignment that satisfies the constraints the bits are the digits of a number below `p` that
denotes the value.  **Complete**: the honest values satisfy. -/
structure ToBitsLe (p : ℕ) where
  numWitnesses : ℕ
  bitsFrom : (first : ℕ) → List (LinComb (ZMod p))
  constraints : (first : ℕ) → LinComb (ZMod p) → List (Constraint (ZMod p))
  witnesses : ZMod p → List (ZMod p)
  length_witnesses : ∀ v, (witnesses v).length = numWitnesses
  sound : ∀ first x a, Satisfies a (constraints first x) →
    ∃ m < p, (m : ZMod p) = x.eval a ∧
      (bitsFrom first).map (LinComb.eval a) = bits (ZMod p) p.size m
  complete : ∀ first x a,
    (∀ i < numWitnesses, a (.witness (first + i)) = (witnesses (x.eval a)).getD i 0) →
    Satisfies a (constraints first x)

/-- Takes a linear combination apart. -/
def ToBitsLe.toBitsLe {p : ℕ} (gadget : ToBitsLe p) (x : LinComb (ZMod p)) :
    Builder (ZMod p) (List (LinComb (ZMod p))) := fun s =>
  let first := s.witnesses.length
  let values := match s.mode with
    | .setup => List.replicate gadget.numWitnesses 0
    | .prove => gadget.witnesses (x.eval s.assignment)
  .ok (gadget.bitsFrom first,
    { s with
      witnesses := s.witnesses ++ values
      constraints := s.constraints ++ gadget.constraints first x })

end R1CS
