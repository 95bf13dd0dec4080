import Mathlib.Data.Nat.Digits.Defs
import Mathlib.Tactic.Ring

/-!
# Byte strings

Byte strings as lists, byte strings of a fixed length as a subtype, the UTF-8 encoding of a string
with its two decoders, and little-endian numbers.

A strict decoder (`utf8Decode?`) rejects a byte string that is not UTF-8; a lossy one
(`utf8Lossy`) replaces every byte that starts no character by U+FFFD and goes on behind it.  Both
invert the encoding.
-/

/-- A byte string. -/
abbrev Bytes := List UInt8

/-- A byte string of `n` bytes. -/
abbrev FixedBytes (n : ℕ) := {b : Bytes // b.length = n}

namespace Bytes

/-! ## UTF-8

Texts as bytes, bytes as texts, and what becomes of bytes that are no text. -/

/-- The UTF-8 encoding of a string. -/
def utf8 (s : String) : Bytes := s.toList.flatMap String.utf8EncodeChar

/-- The character whose encoding a byte string starts with. -/
def rune? (b : Bytes) : Option Char := b.toByteArray.utf8DecodeChar? 0

/-- The characters of a byte string after its first `skip` bytes, with U+FFFD for every byte that
starts no character. -/
def runes : (skip : ℕ) → Bytes → List Char
  | _, [] => []
  | skip + 1, _ :: bs => runes skip bs
  | 0, b :: bs =>
    match rune? (b :: bs) with
    | some c => c :: runes (c.utf8Size - 1) bs
    | none => '\uFFFD' :: runes 0 bs

/-- The characters of a byte string after its first `skip` bytes, if they are UTF-8. -/
def runes? : (skip : ℕ) → Bytes → Option (List Char)
  | _, [] => some []
  | skip + 1, _ :: bs => runes? skip bs
  | 0, b :: bs =>
    match rune? (b :: bs) with
    | some c => (runes? (c.utf8Size - 1) bs).map (c :: ·)
    | none => none

/-- Lossy decoding. -/
def utf8Lossy (b : Bytes) : String := String.ofList (runes 0 b)

/-- Strict decoding. -/
def utf8Decode? (b : Bytes) : Option String := (runes? 0 b).map String.ofList

lemma rune?_append (c : Char) (bs : Bytes) :
    rune? (String.utf8EncodeChar c ++ bs) = some c := by
  rw [rune?, List.toByteArray_append]
  exact ByteArray.utf8DecodeChar?_utf8EncodeChar_append

/-- The encoding of a character is one byte and as many more as its size says. -/
lemma utf8EncodeChar_cons (c : Char) :
    ∃ b bs, String.utf8EncodeChar c = b :: bs ∧ bs.length = c.utf8Size - 1 := by
  have hlen := String.length_utf8EncodeChar c
  have hpos := c.utf8Size_pos
  cases h : String.utf8EncodeChar c with
  | nil =>
    rw [h] at hlen
    simp at hlen
    omega
  | cons b bs =>
    refine ⟨b, bs, rfl, ?_⟩
    rw [h] at hlen
    simp at hlen
    omega

lemma runes_skip (bs : Bytes) : ∀ pre : Bytes, runes pre.length (pre ++ bs) = runes 0 bs
  | [] => rfl
  | _ :: pre => by
    rw [List.length_cons, List.cons_append, runes]
    exact runes_skip bs pre

lemma runes?_skip (bs : Bytes) : ∀ pre : Bytes, runes? pre.length (pre ++ bs) = runes? 0 bs
  | [] => rfl
  | _ :: pre => by
    rw [List.length_cons, List.cons_append, runes?]
    exact runes?_skip bs pre

lemma runes_append (c : Char) (bs : Bytes) :
    runes 0 (String.utf8EncodeChar c ++ bs) = c :: runes 0 bs := by
  have hrune := rune?_append c bs
  obtain ⟨b, tl, htl, hlen⟩ := utf8EncodeChar_cons c
  rw [htl, List.cons_append] at hrune ⊢
  rw [runes, hrune]
  dsimp only
  rw [← hlen, runes_skip]

lemma runes?_append (c : Char) (bs : Bytes) :
    runes? 0 (String.utf8EncodeChar c ++ bs) = (runes? 0 bs).map (c :: ·) := by
  have hrune := rune?_append c bs
  obtain ⟨b, tl, htl, hlen⟩ := utf8EncodeChar_cons c
  rw [htl, List.cons_append] at hrune ⊢
  rw [runes?, hrune]
  dsimp only
  rw [← hlen, runes?_skip]

/-- **Lossy decoding inverts the encoding.** -/
@[simp] theorem utf8Lossy_utf8 (s : String) : utf8Lossy (utf8 s) = s := by
  have h : ∀ cs : List Char, runes 0 (cs.flatMap String.utf8EncodeChar) = cs := by
    intro cs
    induction cs with
    | nil => rfl
    | cons c cs ih => rw [List.flatMap_cons, runes_append, ih]
  rw [utf8Lossy, utf8, h, String.ofList_toList]

/-- **Strict decoding inverts the encoding.** -/
@[simp] theorem utf8Decode?_utf8 (s : String) : utf8Decode? (utf8 s) = some s := by
  have h : ∀ cs : List Char, runes? 0 (cs.flatMap String.utf8EncodeChar) = some cs := by
    intro cs
    induction cs with
    | nil => rfl
    | cons c cs ih => rw [List.flatMap_cons, runes?_append, ih, Option.map_some]
  rw [utf8Decode?, utf8, h, Option.map_some, String.ofList_toList]

/-- Texts with the same bytes are equal. -/
theorem utf8_injective : Function.Injective utf8 := by
  intro s t h
  rw [← utf8Lossy_utf8 s, h, utf8Lossy_utf8]

lemma utf8_append (s t : String) : utf8 (s ++ t) = utf8 s ++ utf8 t := by
  simp [utf8, String.toList_append]

/-! ## Little-endian numbers

A number and its bytes, the least one first. -/

/-- The number a byte string denotes, least significant byte first. -/
def leNat (b : Bytes) : ℕ := Nat.ofDigits 256 (b.map UInt8.toNat)

/-- The `k` least significant bytes of a number, least significant first. -/
def leBytes : (k : ℕ) → ℕ → Bytes
  | 0, _ => []
  | k + 1, n => UInt8.ofNat n :: leBytes k (n / 256)

@[simp] lemma length_leBytes (k n : ℕ) : (leBytes k n).length = k := by
  induction k generalizing n with
  | zero => rfl
  | succ k ih => simp [leBytes, ih]

@[simp] lemma leNat_nil : leNat [] = 0 := rfl

lemma leNat_cons (b : UInt8) (bs : Bytes) : leNat (b :: bs) = b.toNat + 256 * leNat bs := by
  simp [leNat, Nat.ofDigits_cons]

/-- Writing a number in `k` bytes and reading it back reduces it modulo `256 ^ k`. -/
lemma leNat_leBytes (k n : ℕ) : leNat (leBytes k n) = n % 256 ^ k := by
  induction k generalizing n with
  | zero => simp [leBytes, Nat.mod_one]
  | succ k ih =>
    rw [leBytes, leNat_cons, ih, pow_succ, Nat.mul_comm (256 ^ k), Nat.mod_mul]
    simp

lemma leNat_leBytes_of_lt {k n : ℕ} (h : n < 256 ^ k) : leNat (leBytes k n) = n := by
  rw [leNat_leBytes, Nat.mod_eq_of_lt h]

lemma leNat_lt (b : Bytes) : leNat b < 256 ^ b.length := by
  induction b with
  | nil => simp
  | cons x b ih =>
    have hx := x.toNat_lt
    rw [leNat_cons, List.length_cons, pow_succ]
    omega

/-- Writing the number of a byte string in as many bytes gives the byte string back. -/
lemma leBytes_leNat (b : Bytes) : leBytes b.length (leNat b) = b := by
  induction b with
  | nil => rfl
  | cons x b ih =>
    have hx := x.toNat_lt
    have hhead : UInt8.ofNat (x.toNat + 256 * leNat b) = x := by
      apply UInt8.toNat_inj.mp
      simp
    have htail : (x.toNat + 256 * leNat b) / 256 = leNat b := by omega
    rw [leNat_cons, List.length_cons, leBytes, hhead, htail, ih]

/-! ## Big-endian numbers

The same with the least byte last. -/

/-- The `k` least significant bytes of a number, most significant first. -/
def beBytes (k n : ℕ) : Bytes := (leBytes k n).reverse

@[simp] lemma length_beBytes (k n : ℕ) : (beBytes k n).length = k := by simp [beBytes]

lemma beBytes_inj {k m n : ℕ} (hm : m < 256 ^ k) (hn : n < 256 ^ k) :
    beBytes k m = beBytes k n ↔ m = n := by
  constructor
  · intro h
    rw [← leNat_leBytes_of_lt hm, List.reverse_inj.mp h, leNat_leBytes_of_lt hn]
  · rintro rfl
    rfl

lemma exists_beBytes_eq (b : Bytes) : ∃ n < 256 ^ b.length, beBytes b.length n = b := by
  refine ⟨leNat b.reverse, by simpa using leNat_lt b.reverse, ?_⟩
  have h := leBytes_leNat b.reverse
  rw [List.length_reverse] at h
  rw [beBytes, h, List.reverse_reverse]

end Bytes
