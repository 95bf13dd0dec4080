import Dzta.Library.Bytes
import Mathlib.Data.List.TakeWhile
import Mathlib.Data.Nat.Digits.Lemmas

/-!
# Base58

A byte string as a number that is written in another base.  Zeros at the front do not count in a
number, so they are kept beside it, one digit for each (`changeBase`).  Then **nothing is lost**:
changing the base back gives what was there (`changeBase_changeBase`), and every byte string is the
decoding of its text (`Base58.decode_encode`, `Multibase.decode_encode`).
-/

/-! ## Another base

Digits of a number, with zeros in front that are kept apart. -/

namespace Positional

/-- The zeros at the front of a list of digits. -/
def zeros (ds : List ℕ) : ℕ := (ds.takeWhile (· = 0)).length

/-- The digits of a number, the most significant first. -/
def digits (b n : ℕ) : List ℕ := (Nat.digits b n).reverse

/-- The number that digits denote. -/
def value (b : ℕ) (ds : List ℕ) : ℕ := Nat.ofDigits b ds.reverse

/-- Digits in one base as digits in another, with as many zeros at the front. -/
def changeBase (b b' : ℕ) (ds : List ℕ) : List ℕ :=
  List.replicate (zeros ds) 0 ++ digits b' (value b ds)

lemma zeros_replicate_append {k : ℕ} {ds : List ℕ} (h : ∀ d ∈ ds.head?, d ≠ 0) :
    zeros (List.replicate k 0 ++ ds) = k := by
  rw [zeros, List.takeWhile_append_of_pos (by simp)]
  cases ds with
  | nil => simp
  | cons d ds =>
    have hd : d ≠ 0 := h d rfl
    simp [hd]

lemma value_replicate_append (b k : ℕ) (ds : List ℕ) :
    value b (List.replicate k 0 ++ ds) = value b ds := by
  simp [value, Nat.ofDigits_append]

lemma value_digits (b n : ℕ) : value b (digits b n) = n := by
  rw [value, digits, List.reverse_reverse, Nat.ofDigits_digits]

/-- The first digit of a number is not zero. -/
lemma head?_digits (b n : ℕ) : ∀ d ∈ (digits b n).head?, d ≠ 0 := by
  intro d hd
  rw [digits, List.head?_reverse] at hd
  by_cases hn : n = 0
  · rw [hn, Nat.digits_zero] at hd
    cases hd
  · have hne : Nat.digits b n ≠ [] := Nat.digits_ne_nil_iff_ne_zero.mpr hn
    rw [List.getLast?_eq_some_getLast hne] at hd
    rw [← Option.some.inj hd]
    exact Nat.getLast_digit_ne_zero b hn

lemma digits_value {b : ℕ} (hb : 1 < b) {ds : List ℕ} (hds : ∀ d ∈ ds, d < b)
    (hhead : ∀ d ∈ ds.head?, d ≠ 0) : digits b (value b ds) = ds := by
  rw [digits, value, Nat.digits_ofDigits b hb _ (by simpa using hds), List.reverse_reverse]
  intro hne
  rw [List.getLast_reverse]
  exact hhead _ (List.head?_eq_some_head _)

lemma exists_replicate_append (ds : List ℕ) :
    ∃ rest, ds = List.replicate (zeros ds) 0 ++ rest ∧ ∀ d ∈ rest.head?, d ≠ 0 := by
  refine ⟨ds.dropWhile (· = 0), ?_, ?_⟩
  · have hzeros : ds.takeWhile (· = 0) = List.replicate (zeros ds) 0 := by
      refine List.eq_replicate_iff.mpr ⟨rfl, ?_⟩
      intro d hd
      simpa using List.mem_takeWhile_imp hd
    rw [← hzeros, List.takeWhile_append_dropWhile]
  · intro d hd
    have h := List.head?_dropWhile_not (· = 0) ds
    rw [Option.mem_def.mp hd] at h
    simpa using h

lemma changeBase_lt {b b' : ℕ} (hb' : 1 < b') (ds : List ℕ) :
    ∀ d ∈ changeBase b b' ds, d < b' := by
  intro d hd
  rw [changeBase, List.mem_append, List.mem_replicate, digits, List.mem_reverse] at hd
  rcases hd with ⟨-, rfl⟩ | hd
  · omega
  · exact Nat.digits_lt_base hb' hd

/-- **Changing the base back gives what was there.** -/
theorem changeBase_changeBase {b : ℕ} (hb : 1 < b) (b' : ℕ) {ds : List ℕ} (hds : ∀ d ∈ ds, d < b) :
    changeBase b' b (changeBase b b' ds) = ds := by
  obtain ⟨rest, heq, hhead⟩ := exists_replicate_append ds
  have hrest : ∀ d ∈ rest, d < b := by
    intro d hd
    refine hds d ?_
    rw [heq]
    exact List.mem_append_right _ hd
  have hvalue : value b ds = value b rest := by
    rw [heq, value_replicate_append]
  rw [changeBase, changeBase, zeros_replicate_append (head?_digits b' _), value_replicate_append,
    value_digits, hvalue, digits_value hb hrest hhead, ← heq]

end Positional

/-! ## The alphabet of Bitcoin

It leaves out the characters that look alike. -/

namespace Base58

open Positional

/-- The digits in order. -/
def alphabet : List Char :=
  "123456789ABCDEFGHJKLMNPQRSTUVWXYZabcdefghijkmnopqrstuvwxyz".toList

/-- The digit for a number below 58. -/
def digit (n : ℕ) : Char := alphabet.getD n '1'

/-- The number a digit denotes. -/
def value? (c : Char) : Option ℕ := alphabet.idxOf? c

/-- The text of a byte string. -/
def encode (bs : Bytes) : String :=
  String.ofList ((changeBase 256 58 (bs.map UInt8.toNat)).map digit)

/-- The byte string of a text. -/
def decode (s : String) : Option Bytes :=
  (s.toList.mapM value?).map fun ds => (changeBase 58 256 ds).map UInt8.ofNat

lemma value?_digit : ∀ n < 58, value? (digit n) = some n := by decide +kernel

lemma mapM_value?_digit {ds : List ℕ} (h : ∀ d ∈ ds, d < 58) :
    (ds.map digit).mapM value? = some ds := by
  induction ds with
  | nil => rfl
  | cons d ds ih =>
    obtain ⟨hd, hds⟩ := List.forall_mem_cons.mp h
    rw [List.map_cons, List.mapM_cons, value?_digit d hd, ih hds]
    rfl

/-- **Decoding inverts encoding.** -/
@[simp] theorem decode_encode (bs : Bytes) : decode (encode bs) = some bs := by
  have hbytes : ∀ d ∈ bs.map UInt8.toNat, d < 256 := by
    intro d hd
    obtain ⟨b, -, rfl⟩ := List.mem_map.mp hd
    exact b.toNat_lt
  rw [decode, encode, String.toList_ofList,
    mapM_value?_digit (changeBase_lt (by decide) _), Option.map_some,
    changeBase_changeBase (by decide) 58 hbytes, List.map_map]
  simp [Function.comp_def]

example : encode [0, 0, 1, 2, 255] = "11LiA" := by decide +kernel

end Base58

/-! ## Multibase

A letter in front tells the encoding. -/

namespace Multibase

/-- `multibase::encode(Base::Base58Btc, _)`: a letter for the base in front. -/
def encode (bs : Bytes) : String := "z" ++ Base58.encode bs

/-- The byte string of a text in this base. -/
def decode (s : String) : Option Bytes :=
  match s.toList with
  | 'z' :: cs => Base58.decode (String.ofList cs)
  | _ => none

/-- **What is encoded is decoded**, with the letter of the base in front. -/
@[simp] theorem decode_encode (bs : Bytes) : decode (encode bs) = some bs := by
  rw [encode, decode, String.toList_append]
  change Base58.decode (String.ofList (Base58.encode bs).toList) = some bs
  rw [String.ofList_toList, Base58.decode_encode]

end Multibase
