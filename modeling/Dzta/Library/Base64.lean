import Dzta.Library.Bytes

/-!
# Base64

The standard alphabet with padding, and the alphabet for URLs without.  The decoders are strict:
padding is required where the length asks for it (and refused in a URL), and the bits that a last
group does not use must be zero, so every byte string has one text.  **Decoding inverts encoding**
(`decode_encode`, `decodeUrl_encodeUrl`), and what the encoder writes is printable and free of white
space (`printable_encode`).
-/

namespace Base64

/-- The digits in order. -/
def alphabet : List Char :=
  "ABCDEFGHIJKLMNOPQRSTUVWXYZabcdefghijklmnopqrstuvwxyz0123456789+/".toList

/-- The digit for a number below 64. -/
def digit (n : ℕ) : Char := alphabet.getD n '='

/-- The number a digit denotes. -/
def value? (c : Char) : Option ℕ := alphabet.idxOf? c

/-- The digits of three bytes, in groups of four; one or two bytes at the end are padded. -/
def encodeChars : Bytes → List Char
  | [] => []
  | [a] => [digit (a.toNat / 4), digit (a.toNat % 4 * 16), '=', '=']
  | [a, b] =>
    [digit (a.toNat / 4), digit (a.toNat % 4 * 16 + b.toNat / 16), digit (b.toNat % 16 * 4), '=']
  | a :: b :: c :: bs =>
    digit (a.toNat / 4) :: digit (a.toNat % 4 * 16 + b.toNat / 16) ::
      digit (b.toNat % 16 * 4 + c.toNat / 64) :: digit (c.toNat % 64) :: encodeChars bs

/-- Reads groups of four digits. -/
def decodeChars : List Char → Option Bytes
  | [] => some []
  | x :: y :: z :: w :: cs => do
    let x ← value? x
    let y ← value? y
    if w = '=' ∧ cs = [] then
      if z = '=' then
        if y % 16 = 0 then some [UInt8.ofNat (x * 4 + y / 16)] else none
      else
        let z ← value? z
        if z % 4 = 0 then
          some [UInt8.ofNat (x * 4 + y / 16), UInt8.ofNat (y % 16 * 16 + z / 4)]
        else none
    else
      let z ← value? z
      let w ← value? w
      let bs ← decodeChars cs
      some (UInt8.ofNat (x * 4 + y / 16) :: UInt8.ofNat (y % 16 * 16 + z / 4) ::
        UInt8.ofNat (z % 4 * 64 + w) :: bs)
  | _ => none

/-- The text of a byte string. -/
def encode (bs : Bytes) : String := String.ofList (encodeChars bs)

/-- The byte string of a text. -/
def decode (s : String) : Option Bytes := decodeChars s.toList

/-! ## Round trip

What is decoded is what was encoded. -/

lemma value?_digit : ∀ n < 64, value? (digit n) = some n := by decide +kernel

lemma value?_pad : value? '=' = none := by decide +kernel

lemma digit_ne_pad {n : ℕ} (h : n < 64) : digit n ≠ '=' := by
  intro hpad
  have hvalue := value?_digit n h
  rw [hpad, value?_pad] at hvalue
  cases hvalue

lemma ofNat_eq {n : ℕ} (a : UInt8) (h : n = a.toNat) : UInt8.ofNat n = a := by
  rw [h, UInt8.ofNat_toNat]

lemma decodeChars_encodeChars (bs : Bytes) : decodeChars (encodeChars bs) = some bs := by
  fun_induction encodeChars bs with
  | case1 => rfl
  | case2 a =>
    have ha := a.toNat_lt
    rw [decodeChars, value?_digit _ (by omega), value?_digit _ (by omega)]
    simp only [Option.bind_eq_bind, Option.bind_some, and_self, if_true]
    rw [if_pos (by omega), ofNat_eq a (by omega)]
  | case3 a b =>
    have ha := a.toNat_lt
    have hb := b.toNat_lt
    rw [decodeChars, value?_digit _ (by omega), value?_digit _ (by omega),
      value?_digit _ (by omega)]
    simp only [Option.bind_eq_bind, Option.bind_some, and_self, if_true,
      digit_ne_pad (show b.toNat % 16 * 4 < 64 by omega), if_false]
    rw [if_pos (by omega), ofNat_eq a (by omega), ofNat_eq b (by omega)]
  | case4 a b c bs ih =>
    have ha := a.toNat_lt
    have hb := b.toNat_lt
    have hc := c.toNat_lt
    rw [decodeChars, value?_digit _ (by omega), value?_digit _ (by omega),
      value?_digit _ (by omega), value?_digit _ (by omega), ih]
    simp only [Option.bind_eq_bind, Option.bind_some,
      digit_ne_pad (show c.toNat % 64 < 64 by omega), false_and, if_false]
    rw [ofNat_eq a (by omega), ofNat_eq b (by omega), ofNat_eq c (by omega)]

/-- **Decoding inverts encoding.** -/
@[simp] theorem decode_encode (bs : Bytes) : decode (encode bs) = some bs := by
  rw [decode, encode, String.toList_ofList, decodeChars_encodeChars]

/-! ## The characters

None of them needs escaping in a header or in a string. -/

/-- A text consists of digits and padding. -/
lemma mem_encodeChars {bs : Bytes} {c : Char} (h : c ∈ encodeChars bs) :
    c = '=' ∨ ∃ n < 64, c = digit n := by
  fun_induction encodeChars bs with
  | case1 => cases h
  | case2 a =>
    have ha := a.toNat_lt
    simp only [List.mem_cons, List.not_mem_nil, or_false] at h
    rcases h with rfl | rfl | rfl | rfl
    · exact .inr ⟨_, by omega, rfl⟩
    · exact .inr ⟨_, by omega, rfl⟩
    · exact .inl rfl
    · exact .inl rfl
  | case3 a b =>
    have ha := a.toNat_lt
    have hb := b.toNat_lt
    simp only [List.mem_cons, List.not_mem_nil, or_false] at h
    rcases h with rfl | rfl | rfl | rfl
    · exact .inr ⟨_, by omega, rfl⟩
    · exact .inr ⟨_, by omega, rfl⟩
    · exact .inr ⟨_, by omega, rfl⟩
    · exact .inl rfl
  | case4 a b c bs ih =>
    have ha := a.toNat_lt
    have hb := b.toNat_lt
    have hc := c.toNat_lt
    simp only [List.mem_cons] at h
    rcases h with rfl | rfl | rfl | rfl | h
    · exact .inr ⟨_, by omega, rfl⟩
    · exact .inr ⟨_, by omega, rfl⟩
    · exact .inr ⟨_, by omega, rfl⟩
    · exact .inr ⟨_, by omega, rfl⟩
    · exact ih h

/-- A character that is printed and is no white space. -/
def Printable (c : Char) : Prop := 0x21 ≤ c.toNat ∧ c.toNat ≤ 0x7E

instance (c : Char) : Decidable (Printable c) := inferInstanceAs (Decidable (_ ∧ _))

lemma printable_digit : ∀ n < 64, Printable (digit n) := by decide +kernel

/-- **What is encoded is printable.** -/
theorem printable_encode (bs : Bytes) : ∀ c ∈ (encode bs).toList, Printable c := by
  intro c hc
  rw [encode, String.toList_ofList] at hc
  rcases mem_encodeChars hc with rfl | ⟨n, hn, rfl⟩
  · decide
  · exact printable_digit n hn

lemma encode_ne_empty {bs : Bytes} (h : bs ≠ []) : (encode bs).toList ≠ [] := by
  rw [encode, String.toList_ofList]
  fun_cases encodeChars bs <;> simp_all

/-! ## The alphabet for URLs

Two characters are replaced, and the padding is left out. -/

/-- The digit of a URL for a standard one. -/
def toUrlDigit (c : Char) : Char := if c = '+' then '-' else if c = '/' then '_' else c

/-- The standard digit for one of a URL. -/
def ofUrlDigit? (c : Char) : Option Char :=
  if c = '-' then some '+' else if c = '_' then some '/'
  else if c = '+' ∨ c = '/' ∨ c = '=' then none else some c

/-- A text with the padding that its length asks for. -/
def pad (cs : List Char) : List Char := cs ++ List.replicate ((4 - cs.length % 4) % 4) '='

/-- The text of a byte string in a URL. -/
def encodeUrl (bs : Bytes) : String :=
  String.ofList (((encodeChars bs).filter (· ≠ '=')).map toUrlDigit)

/-- The byte string of a text in a URL. -/
def decodeUrl (s : String) : Option Bytes :=
  (s.toList.mapM ofUrlDigit?).bind fun cs => decodeChars (pad cs)

lemma ofUrlDigit?_toUrlDigit_digit :
    ∀ n < 64, ofUrlDigit? (toUrlDigit (digit n)) = some (digit n) := by decide +kernel

lemma pad_cons_four (x y z w : Char) (cs : List Char) :
    pad (x :: y :: z :: w :: cs) = x :: y :: z :: w :: pad cs := by
  have hlength : (x :: y :: z :: w :: cs).length % 4 = cs.length % 4 := by
    simp only [List.length_cons]
    omega
  rw [pad, hlength]
  rfl

/-- The padding is what the length says. -/
lemma pad_filter_encodeChars (bs : Bytes) :
    pad ((encodeChars bs).filter (· ≠ '=')) = encodeChars bs := by
  fun_induction encodeChars bs with
  | case1 => rfl
  | case2 a =>
    have ha := a.toNat_lt
    have h₁ := digit_ne_pad (show a.toNat / 4 < 64 by omega)
    have h₂ := digit_ne_pad (show a.toNat % 4 * 16 < 64 by omega)
    simp [pad, h₁, h₂]
  | case3 a b =>
    have ha := a.toNat_lt
    have hb := b.toNat_lt
    have h₁ := digit_ne_pad (show a.toNat / 4 < 64 by omega)
    have h₂ := digit_ne_pad (show a.toNat % 4 * 16 + b.toNat / 16 < 64 by omega)
    have h₃ := digit_ne_pad (show b.toNat % 16 * 4 < 64 by omega)
    simp [pad, h₁, h₂, h₃]
  | case4 a b c bs ih =>
    have ha := a.toNat_lt
    have hb := b.toNat_lt
    have hc := c.toNat_lt
    have h₁ := digit_ne_pad (show a.toNat / 4 < 64 by omega)
    have h₂ := digit_ne_pad (show a.toNat % 4 * 16 + b.toNat / 16 < 64 by omega)
    have h₃ := digit_ne_pad (show b.toNat % 16 * 4 + c.toNat / 64 < 64 by omega)
    have h₄ := digit_ne_pad (show c.toNat % 64 < 64 by omega)
    rw [List.filter_cons_of_pos (by simpa using h₁), List.filter_cons_of_pos (by simpa using h₂),
      List.filter_cons_of_pos (by simpa using h₃), List.filter_cons_of_pos (by simpa using h₄),
      pad_cons_four, ih]

lemma mapM_ofUrlDigit? {cs : List Char} (h : ∀ c ∈ cs, ∃ n < 64, c = digit n) :
    (cs.map toUrlDigit).mapM ofUrlDigit? = some cs := by
  induction cs with
  | nil => rfl
  | cons c cs ih =>
    obtain ⟨n, hn, rfl⟩ := h c List.mem_cons_self
    rw [List.map_cons, List.mapM_cons, ofUrlDigit?_toUrlDigit_digit n hn,
      ih fun c hc => h c (List.mem_cons_of_mem _ hc)]
    rfl

/-- **Decoding inverts encoding** in a URL. -/
@[simp] theorem decodeUrl_encodeUrl (bs : Bytes) : decodeUrl (encodeUrl bs) = some bs := by
  have hdigits : ∀ c ∈ (encodeChars bs).filter (· ≠ '='), ∃ n < 64, c = digit n := by
    intro c hc
    obtain ⟨hmem, hpad⟩ := List.mem_filter.mp hc
    exact (mem_encodeChars hmem).resolve_left (by simpa using hpad)
  rw [decodeUrl, encodeUrl, String.toList_ofList, mapM_ofUrlDigit? hdigits, Option.bind_some,
    pad_filter_encodeChars, decodeChars_encodeChars]

end Base64
