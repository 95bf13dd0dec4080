import Dzta.Library.Bytes
import Dzta.Library.PrimeCert
import Mathlib.Data.ZMod.Basic
import Mathlib.Tactic.NormNum.Prime

/-!
# The scalar field of BLS12-381

The field `Fr` in which the role circuit is written, with the conversions that the code uses: from
machine integers, from little-endian bytes modulo the order, and to 32 little-endian bytes.  The
modulus is the constant of the source, and **it is prime** (`modulus_prime`), by a certificate for
the root 7.

Level comparison happens in the field, so the question is what survives the wraparound:
`exists_natCast_eq_add_iff` says that two numbers of at most 64 bits differ by at most `k < 2 ^ 64`
in the field exactly when they do so as numbers.
-/

namespace DZTA

/-- `BLS12_381_SCALAR_FIELD_PRIME`: the order of the group of the curve. -/
def modulus : ℕ := 52435875175126190479447740508185965837690552500527637822603658699938581184513

/-- The factorization of the predecessor of the modulus. -/
def modulusFactors : List (ℕ × ℕ) :=
  [(2, 32), (3, 1), (11, 1), (19, 1), (10177, 1), (125527, 1), (859267, 1), (906349, 2),
   (2508409, 1), (2529403, 1), (52437899, 1), (254760293, 2)]

/-- **The modulus is prime.** -/
theorem modulus_prime : modulus.Prime := by
  have hprod : (modulusFactors.map fun f => f.1 ^ f.2).prod = modulus - 1 := by decide +kernel
  have hprimes : ∀ f ∈ modulusFactors, f.1.Prime := by
    simp only [modulusFactors, List.forall_mem_cons]
    norm_num
  have htest : PrimeCert.test modulus 7 (modulusFactors.map Prod.fst) = true := by decide +kernel
  refine PrimeCert.prime_of_certificate (by decide +kernel) (fun q hq hdvd => ?_) htest
  rw [← hprod] at hdvd
  exact PrimeCert.mem_of_dvd_prod hprimes hq hdvd

instance : Fact modulus.Prime := ⟨modulus_prime⟩

/-- The scalar field. -/
abbrev Fr := ZMod modulus

namespace Fr

/-- `Fr::from` of a `u64`. -/
def ofU64 (n : UInt64) : Fr := (n.toNat : Fr)

/-- `Fr::from_le_bytes_mod_order`: bytes as a number, least byte first, reduced. -/
def ofLeBytesModOrder (b : Bytes) : Fr := (Bytes.leNat b : Fr)

/-- `into_bigint().to_bytes_le()`: four limbs of 64 bits. -/
def toBytesLe (x : Fr) : Bytes := Bytes.leBytes 32 x.val

@[simp] lemma length_toBytesLe (x : Fr) : (toBytesLe x).length = 32 := Bytes.length_leBytes _ _

lemma modulus_lt : modulus < 256 ^ 32 := by decide +kernel

lemma two_pow_65_lt_modulus : 2 ^ 65 < modulus := by decide +kernel

lemma leNat_toBytesLe (x : Fr) : Bytes.leNat (toBytesLe x) = x.val :=
  Bytes.leNat_leBytes_of_lt (lt_trans (ZMod.val_lt x) modulus_lt)

/-- **Reading the bytes of an element gives it back.** -/
@[simp] theorem ofLeBytesModOrder_toBytesLe (x : Fr) : ofLeBytesModOrder (toBytesLe x) = x := by
  rw [ofLeBytesModOrder, leNat_toBytesLe, ZMod.natCast_zmod_val]

lemma toBytesLe_injective : Function.Injective toBytesLe :=
  Function.LeftInverse.injective ofLeBytesModOrder_toBytesLe

lemma natCast_inj {m n : ℕ} (hm : m < modulus) (hn : n < modulus) : (m : Fr) = n ↔ m = n := by
  rw [ZMod.natCast_eq_natCast_iff', Nat.mod_eq_of_lt hm, Nat.mod_eq_of_lt hn]

/-- **A difference in the field is a difference of numbers**, for numbers of at most 64 bits: no
level passes by wrapping around. -/
theorem exists_natCast_eq_add_iff {u q k : ℕ} (hu : u < 2 ^ 64) (hq : q < 2 ^ 64)
    (hk : k < 2 ^ 64) : (∃ d ≤ k, (u : Fr) = q + d) ↔ q ≤ u ∧ u - q ≤ k := by
  have hsmall : ∀ n, n < 2 ^ 65 → n < modulus := fun n hn => lt_trans hn two_pow_65_lt_modulus
  constructor
  · rintro ⟨d, hd, h⟩
    rw [← Nat.cast_add, natCast_inj (hsmall u (by omega)) (hsmall (q + d) (by omega))] at h
    omega
  · rintro ⟨hle, hdiff⟩
    refine ⟨u - q, hdiff, ?_⟩
    rw [← Nat.cast_add, Nat.add_sub_cancel' hle]

lemma ofU64_injective : Function.Injective ofU64 := by
  intro m n h
  have hsmall : ∀ k : UInt64, k.toNat < modulus := fun k =>
    lt_trans (by have := k.toNat_lt; omega) two_pow_65_lt_modulus
  exact UInt64.toNat_inj.mp ((natCast_inj (hsmall m) (hsmall n)).mp h)

/-! ## Vectors of elements

As the crate writes and reads them. -/

/-- The element that 32 bytes are the canonical form of. -/
def deserialize (b : Bytes) : Option Fr :=
  if b.length = 32 ∧ Bytes.leNat b < modulus then some (ofLeBytesModOrder b) else none

/-- `Vec::<Fr>::serialize_compressed`: the number of elements in eight bytes, then the elements. -/
def serializeVec (xs : List Fr) : Bytes := Bytes.leBytes 8 xs.length ++ xs.flatMap toBytesLe

/-- Reads `n` elements; what follows them is not looked at. -/
def readElems : (n : ℕ) → Bytes → Option (List Fr)
  | 0, _ => some []
  | n + 1, b => do
    let x ← deserialize (b.take 32)
    let xs ← readElems n (b.drop 32)
    some (x :: xs)

/-- `Vec::<Fr>::deserialize_compressed`: a count of eight bytes, and so many elements behind it. -/
def deserializeVec (b : Bytes) : Option (List Fr) :=
  if b.length < 8 then none else readElems (Bytes.leNat (b.take 8)) (b.drop 8)

lemma deserialize_toBytesLe (x : Fr) : deserialize (toBytesLe x) = some x := by
  have hcanonical : Bytes.leNat (toBytesLe x) < modulus := by
    rw [leNat_toBytesLe]
    exact ZMod.val_lt x
  rw [deserialize, if_pos ⟨length_toBytesLe x, hcanonical⟩, ofLeBytesModOrder_toBytesLe]

lemma readElems_flatMap (xs : List Fr) (rest : Bytes) :
    readElems xs.length (xs.flatMap toBytesLe ++ rest) = some xs := by
  induction xs with
  | nil => rfl
  | cons x xs ih =>
    have hlength := length_toBytesLe x
    rw [List.length_cons, readElems, List.flatMap_cons, List.append_assoc,
      List.take_left' hlength, List.drop_left' hlength, deserialize_toBytesLe, ih]
    rfl

/-- **A serialized vector is read back.** -/
theorem deserializeVec_serializeVec {xs : List Fr} (h : xs.length < 2 ^ 64) :
    deserializeVec (serializeVec xs) = some xs := by
  have hlength := Bytes.length_leBytes 8 xs.length
  rw [deserializeVec, serializeVec, if_neg (by simp), List.take_left' hlength,
    List.drop_left' hlength, Bytes.leNat_leBytes_of_lt (by omega),
    ← List.append_nil (xs.flatMap toBytesLe), readElems_flatMap]

end Fr

end DZTA
