import Mathlib.Data.Nat.Digits.Defs
import Mathlib.Data.Int.Order.Basic

/-!
# JSON documents

The syntax tree of a JSON text, with what a decoder reads from it.  Members of an object are kept
in the order of the text and are *not* merged: a decoder that lets the last of two equal keys win
and one that rejects them both read the same tree.  A number keeps its literal (sign, digits,
fraction, exponent), because decoders differ in which literals they take for an integer.

`member?` is the lookup of a decoder that merges (the last member of a name wins); `members` and
`memberNamed` serve the decoders that look at every occurrence.
-/

/-- The literal of a JSON number: `-12.50e-3` is `⟨true, 12, [5, 0], some (-3)⟩`. -/
structure JsonNumber where
  neg : Bool
  int : ℕ
  frac : List (Fin 10)
  exp : Option ℤ
deriving DecidableEq, Repr

/-- A JSON document. -/
inductive Json where
  | null
  | bool (b : Bool)
  | num (n : JsonNumber)
  | str (s : String)
  | arr (vs : List Json)
  | obj (ms : List (String × Json))
deriving Repr

namespace JsonNumber

/-- The literal an encoder writes for an integer. -/
def ofInt (i : ℤ) : JsonNumber := ⟨decide (i < 0), i.natAbs, [], none⟩

/-- The literal an encoder writes for a natural number. -/
def ofNat (n : ℕ) : JsonNumber := ⟨false, n, [], none⟩

/-- A literal without fraction and exponent denotes an integer. -/
def toInt? (n : JsonNumber) : Option ℤ :=
  if n.frac = [] ∧ n.exp = none then some (if n.neg then -(n.int : ℤ) else n.int) else none

@[simp] lemma toInt?_ofInt (i : ℤ) : (ofInt i).toInt? = some i := by
  rcases lt_or_ge i 0 with h | h
  · simp [toInt?, ofInt, h, abs_of_neg h]
  · simp [toInt?, ofInt, not_lt.mpr h, abs_of_nonneg h]

@[simp] lemma ofInt_natCast (n : ℕ) : ofInt n = ofNat n := by
  simp [ofInt, ofNat]

end JsonNumber

namespace Json

/-- The value of the last member named `k`: what a decoder that merges equal keys finds. -/
def lastMember (k : String) : List (String × Json) → Option Json
  | [] => none
  | m :: ms => (lastMember k ms).or (if m.1 = k then some m.2 else none)

/-- The member of an object by name; no other document has members. -/
def member? (k : String) : Json → Option Json
  | obj ms => lastMember k ms
  | _ => none

mutual
/-- How deep arrays and objects nest in a document. -/
def depth : Json → ℕ
  | arr vs => depthElems vs + 1
  | obj ms => depthMembers ms + 1
  | _ => 0

/-- The nesting of the deepest element. -/
def depthElems : List Json → ℕ
  | [] => 0
  | v :: vs => max (depth v) (depthElems vs)

/-- The nesting of the deepest member. -/
def depthMembers : List (String × Json) → ℕ
  | [] => 0
  | (_, v) :: ms => max (depth v) (depthMembers ms)
end

attribute [simp] depth depthElems depthMembers

/-- The text of a string document. -/
def asString? : Json → Option String
  | str s => some s
  | _ => none

@[simp] lemma asString?_str (s : String) : (str s).asString? = some s := rfl

@[simp] lemma lastMember_nil (k : String) : lastMember k [] = none := rfl

lemma lastMember_cons (k : String) (m : String × Json) (ms : List (String × Json)) :
    lastMember k (m :: ms) = (lastMember k ms).or (if m.1 = k then some m.2 else none) := rfl

@[simp] lemma member?_obj (k : String) (ms : List (String × Json)) :
    (obj ms).member? k = lastMember k ms := rfl

end Json
