import Dzta.Library.JsonText
import Mathlib.Data.List.TakeDrop

/-!
# The reader inverts the printer

`read_print`: reading what was printed gives back the document, whatever characters the printer
escapes and whatever the reader makes of lone surrogates.  The pieces, bottom up:

* one character of a string literal (`scanUnits_escapeChar`), then a whole literal
  (`readString_printString`);
* the four parts of a number (`readDigits_append`, `readFrac_printFrac`, `readExp_printExp`,
  `readNumber_printNumber`), each for any continuation that cannot be taken for more of it;
* documents, elements and members by one structural induction (`readValue_print`), with the
  length of the printed text as the bound on the fuel.
-/

namespace Json

variable (force : Char → Bool) (lone : Option Char)

/-! ## Strings

Each escape is read as the character that it was written for. -/

lemma hexValue?_digitChar : ∀ d < 16, hexValue? (Nat.digitChar d) = some d := by decide

lemma hexValue?_hexDigit (n : ℕ) : hexValue? (hexDigit n) = some (n % 16) :=
  hexValue?_digitChar _ (Nat.mod_lt _ (by norm_num))

lemma char_not_surrogate (c : Char) : c.toNat < 0xD800 ∨ 0xE000 ≤ c.toNat := by
  have h : c.toNat.isValidChar := c.valid
  rcases h with h | ⟨h, _⟩
  · exact Or.inl h
  · exact Or.inr (by omega)

/-- A code unit that is a character denotes it, whatever follows. -/
lemma joinUnits_unit_toNat (c : Char) (us : List CodeUnit) :
    joinUnits lone none (.unit c.toNat :: us) = (joinUnits lone none us).map (c :: ·) := by
  have hc := char_not_surrogate c
  have h₁ : ¬ (0xDC00 ≤ c.toNat ∧ c.toNat < 0xE000) := by omega
  have h₂ : ¬ (0xD800 ≤ c.toNat ∧ c.toNat < 0xDC00) := by omega
  rw [joinUnits, if_neg h₁]
  simp only [flushHigh, Option.bind_eq_bind, Option.bind_some, h₂, if_false, Char.ofNat_toNat,
    List.nil_append]
  cases joinUnits lone none us <;> rfl

lemma joinUnits_char (c : Char) (us : List CodeUnit) :
    joinUnits lone none (.char c :: us) = (joinUnits lone none us).map (c :: ·) := by
  rw [joinUnits]
  simp only [flushHigh, Option.bind_eq_bind, Option.bind_some, List.nil_append]
  cases joinUnits lone none us <;> rfl

lemma scanUnits_quote (cs : List Char) : scanUnits ('"' :: cs) = some ([], cs) := by
  rw [scanUnits.eq_def]
  simp

lemma scanUnits_short {e x : Char} (hu : e ≠ 'u') (hx : shortEscape? e = some x)
    (cs : List Char) :
    scanUnits ('\\' :: e :: cs) = (scanUnits cs).map fun p => (.char x :: p.1, p.2) := by
  rw [scanUnits.eq_def]
  cases h : scanUnits cs <;> simp [hu, hx, h]

lemma scanUnits_hex {h₁ h₂ h₃ h₄ : Char} {d₁ d₂ d₃ d₄ : ℕ} (e₁ : hexValue? h₁ = some d₁)
    (e₂ : hexValue? h₂ = some d₂) (e₃ : hexValue? h₃ = some d₃) (e₄ : hexValue? h₄ = some d₄)
    (cs : List Char) :
    scanUnits ('\\' :: 'u' :: h₁ :: h₂ :: h₃ :: h₄ :: cs) = (scanUnits cs).map fun p =>
      (.unit (((d₁ * 16 + d₂) * 16 + d₃) * 16 + d₄) :: p.1, p.2) := by
  rw [scanUnits.eq_def]
  cases h : scanUnits cs <;> simp [e₁, e₂, e₃, e₄, h]

lemma scanUnits_literal {c : Char} (hq : c ≠ '"') (hb : c ≠ '\\') (hc : ¬ c.toNat < 0x20)
    (cs : List Char) :
    scanUnits (c :: cs) = (scanUnits cs).map fun p => (.char c :: p.1, p.2) := by
  rw [scanUnits.eq_def]
  cases h : scanUnits cs <;> simp [hq, hb, hc, h]

/-- **One printed character is read as one item that denotes it.** -/
lemma scanUnits_escapeChar (c : Char) : ∃ u : CodeUnit,
    (∀ us, joinUnits lone none (u :: us) = (joinUnits lone none us).map (c :: ·)) ∧
    ∀ rest, scanUnits (escapeChar force c ++ rest)
      = (scanUnits rest).map fun p => (u :: p.1, p.2) := by
  by_cases hshort : c = '"' ∨ c = '\\' ∨ c = '\x08' ∨ c = '\x0c' ∨ c = '\n' ∨ c = '\r' ∨ c = '\t'
  · refine ⟨.char c, joinUnits_char lone _, fun rest => ?_⟩
    rcases hshort with rfl | rfl | rfl | rfl | rfl | rfl | rfl <;>
      exact scanUnits_short (by decide) (by decide) rest
  simp only [not_or] at hshort
  obtain ⟨hq, hb, h₁, h₂, h₃, h₄, h₅⟩ := hshort
  by_cases hu : c.toNat < 0x20 ∨ (force c ∧ c.toNat < 0x10000)
  · refine ⟨.unit c.toNat, joinUnits_unit_toNat lone c, fun rest => ?_⟩
    have hlt : c.toNat < 0x10000 := by omega
    -- the four digits recompose the code point
    have hsum : ((c.toNat / 4096 % 16 * 16 + c.toNat / 256 % 16) * 16 + c.toNat / 16 % 16) * 16
        + c.toNat % 16 = c.toNat := by omega
    have he : escapeChar force c = ['\\', 'u', hexDigit (c.toNat / 4096),
        hexDigit (c.toNat / 256), hexDigit (c.toNat / 16), hexDigit c.toNat] := by
      simp only [escapeChar, hq, hb, h₁, h₂, h₃, h₄, h₅, hu, if_true, if_false]
    have hscan := scanUnits_hex (hexValue?_hexDigit (c.toNat / 4096))
      (hexValue?_hexDigit (c.toNat / 256)) (hexValue?_hexDigit (c.toNat / 16))
      (hexValue?_hexDigit c.toNat) rest
    rw [hsum] at hscan
    rw [he]
    exact hscan
  · refine ⟨.char c, joinUnits_char lone _, fun rest => ?_⟩
    have he : escapeChar force c = [c] := by
      simp only [escapeChar, hq, hb, h₁, h₂, h₃, h₄, h₅, hu, if_false]
    rw [he]
    exact scanUnits_literal hq hb (fun h => hu (Or.inl h)) rest

/-- A string literal is scanned to items that denote the string. -/
lemma scanUnits_printString (cs rest : List Char) : ∃ us,
    scanUnits (cs.flatMap (escapeChar force) ++ '"' :: rest) = some (us, rest) ∧
    joinUnits lone none us = some cs := by
  induction cs with
  | nil => exact ⟨[], scanUnits_quote rest, by simp [joinUnits, flushHigh]⟩
  | cons c cs ih =>
    obtain ⟨us, hscan, hjoin⟩ := ih
    obtain ⟨u, hu, hscan'⟩ := scanUnits_escapeChar force lone c
    refine ⟨u :: us, ?_, ?_⟩
    · rw [List.flatMap_cons, List.append_assoc, hscan', hscan]
      rfl
    · rw [hu, hjoin]
      rfl

/-- **String literals round-trip.** -/
lemma readString_printString (s : String) (rest : List Char) :
    readString lone (printString force s ++ rest) = some (s, rest) := by
  obtain ⟨us, hscan, hjoin⟩ := scanUnits_printString force lone s.toList rest
  have hscan' : scanUnits (printString force s ++ rest) = some (us, rest) := by
    simpa [printString] using hscan
  simp [readString, hscan', hjoin]

/-- A string without quotes, backslashes and control characters is printed as it is by a printer
that escapes no more than it has to. -/
lemma printString_plain {s : String}
    (h : ∀ c ∈ s.toList, c ≠ '"' ∧ c ≠ '\\' ∧ 0x20 ≤ c.toNat) :
    printString (fun _ => false) s = s.toList ++ ['"'] := by
  have hchar : ∀ c ∈ s.toList, escapeChar (fun _ => false) c = [c] := by
    intro c hc
    obtain ⟨hquote, hbackslash, hcontrol⟩ := h c hc
    have hne : ∀ d : Char, d.toNat < 0x20 → c ≠ d := by
      rintro d hd rfl
      omega
    simp [escapeChar, hquote, hbackslash, hne '\x08' (by decide), hne '\x0c' (by decide),
      hne '\n' (by decide), hne '\r' (by decide), hne '\t' (by decide), not_lt.mpr hcontrol]
  rw [printString, List.flatMap_def, List.map_congr_left hchar, ← List.flatMap_def,
    List.flatMap_singleton']

/-! ## Numbers

A number is read as its digits, if nothing behind it looks like a part of it. -/

/-- What may follow a number: nothing that could be read as more of it. -/
def NoNumberHead (rest : List Char) : Prop :=
  ∀ c cs, rest = c :: cs → c.isDigit = false ∧ c ≠ '.' ∧ c ≠ 'e' ∧ c ≠ 'E'

lemma noNumberHead_nil : NoNumberHead [] := by
  intro c cs h
  cases h

lemma noNumberHead_cons {c : Char} {cs : List Char}
    (h : c.isDigit = false ∧ c ≠ '.' ∧ c ≠ 'e' ∧ c ≠ 'E') : NoNumberHead (c :: cs) := by
  intro c' cs' h'
  cases h'
  exact h

lemma readDigits_append {ds rest : List Char} (hne : ds ≠ []) (hd : ∀ c ∈ ds, c.isDigit = true)
    (hr : ∀ c cs, rest = c :: cs → c.isDigit = false) :
    readDigits (ds ++ rest) = some (ds, rest) := by
  have hspan : (ds ++ rest).span Char.isDigit = (ds, rest) := by
    rw [List.span_eq_takeWhile_dropWhile, List.takeWhile_append_of_pos hd,
      List.dropWhile_append_of_pos hd]
    cases rest with
    | nil => simp
    | cons c cs => simp [hr c cs rfl]
  rw [readDigits, hspan]
  cases ds with
  | nil => exact absurd rfl hne
  | cons d ds => rfl

lemma readDigits_toDigits (n : ℕ) {rest : List Char}
    (hr : ∀ c cs, rest = c :: cs → c.isDigit = false) :
    readDigits (Nat.toDigits 10 n ++ rest) = some (Nat.toDigits 10 n, rest) :=
  readDigits_append Nat.toDigits_ne_nil
    (fun _ h => Nat.isDigit_of_mem_toDigits (by norm_num) (by norm_num) h) hr

/-- A decimal numeral starts with `0` only when it is `0`. -/
lemma toDigits_head (n : ℕ) : (Nat.toDigits 10 n).head? = some '0' → n = 0 := by
  induction n using Nat.strong_induction_on with
  | _ n ih =>
    intro h
    rw [Nat.toDigits_eq_if (by norm_num)] at h
    split_ifs at h with hlt
    · simpa using h
    · obtain ⟨d, ds, hds⟩ :=
        List.exists_cons_of_ne_nil (Nat.toDigits_ne_nil (n := n / 10) (b := 10))
      have := ih (n / 10) (by omega) (by simpa [hds] using h)
      omega

lemma digitValue_digitChar : ∀ d : Fin 10, digitValue (Nat.digitChar d.val) = d := by decide

lemma readFrac_printFrac (fs : List (Fin 10)) {rest : List Char}
    (hr : ∀ c cs, rest = c :: cs → c.isDigit = false ∧ c ≠ '.') :
    readFrac (printFrac fs ++ rest) = some (fs, rest) := by
  by_cases hfs : fs = []
  · subst hfs
    simp only [printFrac, if_true, List.nil_append]
    cases rest with
    | nil => rfl
    | cons c cs =>
      have hdot : c ≠ '.' := (hr c cs rfl).2
      unfold readFrac
      split
      · rename_i heq
        cases heq
        exact absurd rfl hdot
      · rfl
  · have hne : (fs.map fun d => Nat.digitChar d.val) ≠ [] := by simpa using hfs
    have hread := readDigits_append hne (by simp) (fun c cs h => (hr c cs h).1)
    have hback : (fs.map fun d => Nat.digitChar d.val).map digitValue = fs := by
      simp [List.map_map, Function.comp_def, digitValue_digitChar]
    simp only [printFrac, hfs, if_false, List.cons_append, readFrac, hread,
      Option.bind_eq_bind, Option.bind_some, hback]

lemma readExpDigits_printInt (e : ℤ) {rest : List Char}
    (hr : ∀ c cs, rest = c :: cs → c.isDigit = false) :
    readExpDigits (printInt e ++ rest) = some (e, rest) := by
  have hread := readDigits_toDigits e.natAbs hr
  by_cases he : e < 0
  · have habs : -(e.natAbs : ℤ) = e := by omega
    simp only [printInt, he, if_true, List.cons_append, readExpDigits, hread,
      Option.bind_eq_bind, Option.bind_some, Nat.ofDigitChars_ten_toDigits, habs]
  · have habs : (e.natAbs : ℤ) = e := by omega
    simp only [printInt, he, if_false]
    obtain ⟨d, ds, hds⟩ :=
      List.exists_cons_of_ne_nil (Nat.toDigits_ne_nil (n := e.natAbs) (b := 10))
    have hd : d.isDigit = true := Nat.isDigit_of_mem_toDigits (b := 10) (n := e.natAbs)
      (by norm_num) (by norm_num) (by simp [hds])
    unfold readExpDigits
    split
    · rename_i heq
      rw [hds] at heq
      cases heq
      exact absurd hd (by decide)
    · rename_i heq
      rw [hds] at heq
      cases heq
      exact absurd hd (by decide)
    · simp [hread, Nat.ofDigitChars_ten_toDigits, habs]

lemma readExp_printExp (e : Option ℤ) {rest : List Char} (hr : NoNumberHead rest) :
    readExp (printExp e ++ rest) = some (e, rest) := by
  cases e with
  | none =>
    cases rest with
    | nil => rfl
    | cons c cs =>
      obtain ⟨_, _, he, hE⟩ := hr c cs rfl
      simp [printExp, readExp, he, hE]
  | some e =>
    have hread := readExpDigits_printInt e fun c cs h => (hr c cs h).1
    simp [printExp, readExp, hread]

/-- What may follow the fraction of a number. -/
lemma printExp_head (e : Option ℤ) {rest : List Char} (hr : NoNumberHead rest) :
    ∀ c cs, printExp e ++ rest = c :: cs → c.isDigit = false ∧ c ≠ '.' := by
  intro c cs h
  cases e with
  | none => exact ⟨(hr c cs h).1, (hr c cs h).2.1⟩
  | some e =>
    simp only [printExp, List.cons_append, List.cons.injEq] at h
    rw [← h.1]
    decide

/-- What may follow the integer part of a number. -/
lemma printFrac_head (fs : List (Fin 10)) (e : Option ℤ) {rest : List Char}
    (hr : NoNumberHead rest) :
    ∀ c cs, printFrac fs ++ (printExp e ++ rest) = c :: cs → c.isDigit = false := by
  intro c cs h
  by_cases hfs : fs = []
  · simp only [printFrac, hfs, if_true, List.nil_append] at h
    exact (printExp_head e hr c cs h).1
  · simp only [printFrac, hfs, if_false, List.cons_append, List.cons.injEq] at h
    rw [← h.1]
    decide

lemma readUnsigned_print (n : JsonNumber) {rest : List Char} (hr : NoNumberHead rest) :
    readUnsigned n.neg (Nat.toDigits 10 n.int ++ (printFrac n.frac ++ (printExp n.exp ++ rest)))
      = some (n, rest) := by
  have hint := readDigits_toDigits n.int (printFrac_head n.frac n.exp hr)
  have hfrac := readFrac_printFrac n.frac (printExp_head n.exp hr)
  have hexp := readExp_printExp n.exp hr
  have hzero : ¬ ((Nat.toDigits 10 n.int).head? = some '0' ∧
      1 < (Nat.toDigits 10 n.int).length) := by
    rintro ⟨hhead, hlen⟩
    rw [toDigits_head _ hhead, Nat.toDigits_zero] at hlen
    simp at hlen
  simp [readUnsigned, hint, hfrac, hexp, hzero, Nat.ofDigitChars_ten_toDigits]

/-- **Numbers round-trip.** -/
lemma readNumber_printNumber (n : JsonNumber) {rest : List Char} (hr : NoNumberHead rest) :
    readNumber (printNumber n ++ rest) = some (n, rest) := by
  have hread := readUnsigned_print n hr
  cases hneg : n.neg with
  | true =>
    rw [hneg] at hread
    simpa [printNumber, hneg, readNumber] using hread
  | false =>
    rw [hneg] at hread
    obtain ⟨d, ds, hds⟩ := List.exists_cons_of_ne_nil (Nat.toDigits_ne_nil (n := n.int) (b := 10))
    have hd : d.isDigit = true := Nat.isDigit_of_mem_toDigits (b := 10) (n := n.int)
      (by norm_num) (by norm_num) (by simp [hds])
    have hprint : printNumber n ++ rest
        = Nat.toDigits 10 n.int ++ (printFrac n.frac ++ (printExp n.exp ++ rest)) := by
      simp [printNumber, hneg]
    rw [hprint]
    unfold readNumber
    split
    · rename_i heq
      rw [hds] at heq
      cases heq
      exact absurd hd (by decide)
    · exact hread

/-! ## Documents

By induction on the document, with any text behind it. -/

/-- The characters that start a document: no whitespace, and no closing bracket. -/
def StartsDocument (c : Char) : Prop :=
  ¬ (c = ' ' ∨ c = '\t' ∨ c = '\n' ∨ c = '\r') ∧ c ≠ ']'

instance (c : Char) : Decidable (StartsDocument c) := inferInstanceAs (Decidable (_ ∧ _))

lemma startsDocument_digit {c : Char} (h : c.isDigit = true) : StartsDocument c := by
  refine ⟨?_, ?_⟩
  · rintro (rfl | rfl | rfl | rfl) <;> exact absurd h (by decide)
  · rintro rfl
    exact absurd h (by decide)

lemma printNumber_cons (n : JsonNumber) :
    ∃ c cs, printNumber n = c :: cs ∧ (c = '-' ∨ c.isDigit = true) := by
  cases hneg : n.neg with
  | true => exact ⟨'-', _, by simp [printNumber, hneg]; rfl, Or.inl rfl⟩
  | false =>
    obtain ⟨d, ds, hds⟩ := List.exists_cons_of_ne_nil (Nat.toDigits_ne_nil (n := n.int) (b := 10))
    exact ⟨d, ds ++ (printFrac n.frac ++ printExp n.exp), by simp [printNumber, hneg, hds],
      Or.inr (Nat.isDigit_of_mem_toDigits (b := 10) (n := n.int) (by norm_num) (by norm_num)
        (by simp [hds]))⟩

lemma print_cons (v : Json) : ∃ c cs, print force v = c :: cs ∧ StartsDocument c := by
  cases v with
  | null => exact ⟨_, _, by rw [print], by decide⟩
  | bool b => cases b <;> exact ⟨_, _, by rw [print], by decide⟩
  | num n =>
    obtain ⟨c, cs, hcs, hc⟩ := printNumber_cons n
    refine ⟨c, cs, by rw [print, hcs], ?_⟩
    rcases hc with rfl | hc
    · decide
    · exact startsDocument_digit hc
  | str s => exact ⟨_, _, by rw [print], by decide⟩
  | arr vs => cases vs <;> exact ⟨_, _, by rw [print], by decide⟩
  | obj ms => rcases ms with _ | ⟨⟨k, v⟩, ms⟩ <;> exact ⟨_, _, by rw [print], by decide⟩

lemma skipWs_cons {c : Char} (h : StartsDocument c) (cs : List Char) :
    skipWs (c :: cs) = c :: cs := by
  simp only [skipWs, h.1, if_false]

lemma skipWs_print (v : Json) (rest : List Char) :
    skipWs (print force v ++ rest) = print force v ++ rest := by
  obtain ⟨c, cs, hcs, hc⟩ := print_cons force v
  rw [hcs, List.cons_append, skipWs_cons hc]

lemma noNumberHead_printElems (vs : List Json) (rest : List Char) :
    NoNumberHead (printElems force vs ++ rest) := by
  cases vs <;> rw [printElems] <;> exact noNumberHead_cons (by decide)

lemma noNumberHead_printMembers (ms : List (String × Json)) (rest : List Char) :
    NoNumberHead (printMembers force ms ++ rest) := by
  rcases ms with _ | ⟨⟨k, v⟩, ms⟩ <;> rw [printMembers] <;> exact noNumberHead_cons (by decide)

lemma readName_print (k : String) (rest : List Char) :
    readName lone ('"' :: (printString force k ++ ':' :: rest)) = some (k, rest) := by
  have hread := readString_printString force lone k (':' :: rest)
  have hquote : skipWs ('"' :: (printString force k ++ ':' :: rest))
      = '"' :: (printString force k ++ ':' :: rest) := skipWs_cons (by decide) _
  have hcolon : skipWs (':' :: rest) = ':' :: rest := skipWs_cons (by decide) _
  simp only [readName, hquote, hread, Option.bind_eq_bind, Option.bind_some, hcolon]

mutual
/-- **Documents round-trip**: with fuel for the printed text, reading it gives the document back
and stops at its end. -/
theorem readValue_print : ∀ (v : Json) (n : ℕ) (rest : List Char),
    (print force v).length ≤ n → NoNumberHead rest →
      readValue lone n (print force v ++ rest) = some (v, rest)
  | v, 0, rest, hn, _ => by
    obtain ⟨c, cs, hcs, _⟩ := print_cons force v
    simp [hcs] at hn
  | .null, n + 1, rest, _, _ => by
    simp [readValue, print, skipWs, readKeyword]
  | .bool true, n + 1, rest, _, _ => by
    simp [readValue, print, skipWs, readKeyword]
  | .bool false, n + 1, rest, _, _ => by
    simp [readValue, print, skipWs, readKeyword]
  | .num m, n + 1, rest, _, hr => by
    obtain ⟨c, cs, hcs, hc⟩ := printNumber_cons m
    have hread := readNumber_printNumber m hr
    have hskip := skipWs_print force (num m) rest
    have hne : c ≠ '"' ∧ c ≠ '[' ∧ c ≠ '{' := by
      rcases hc with rfl | hc
      · decide
      · refine ⟨?_, ?_, ?_⟩ <;> rintro rfl <;> exact absurd hc (by decide)
    rw [readValue, hskip, print]
    rw [hcs, List.cons_append] at hread ⊢
    simp only [hne.1, hne.2.1, hne.2.2, hc, if_true, if_false, hread, Option.bind_eq_bind,
      Option.bind_some]
  | .str s, n + 1, rest, _, _ => by
    have hread := readString_printString force lone s rest
    have hskip := skipWs_print force (str s) rest
    rw [readValue, hskip, print]
    simp only [List.cons_append, if_true, hread, Option.bind_eq_bind, Option.bind_some]
  | .arr [], n + 1, rest, _, _ => by
    simp [readValue, print, skipWs]
  | .arr (v :: vs), n + 1, rest, hn, _ => by
    simp only [print, List.length_cons, List.length_append] at hn
    have hv := readValue_print v n (printElems force vs ++ rest) (by omega)
      (noNumberHead_printElems force vs rest)
    have hvs := readElems_print vs n rest (by omega)
    have hskip := skipWs_print force v (printElems force vs ++ rest)
    -- the first element does not start with the closing bracket
    have hopen : (print force v ++ (printElems force vs ++ rest)).head? ≠ some ']' := by
      obtain ⟨c, cs, hcs, hc⟩ := print_cons force v
      simpa [hcs] using hc.2
    have houter : skipWs ('[' :: (print force v ++ (printElems force vs ++ rest)))
        = '[' :: (print force v ++ (printElems force vs ++ rest)) := skipWs_cons (by decide) _
    simp only [readValue, print, List.cons_append, List.append_assoc, houter, hskip, hopen, hv, hvs,
      Char.reduceEq, if_true, if_false, Option.bind_eq_bind, Option.bind_some]
  | .obj [], n + 1, rest, _, _ => by
    simp [readValue, print, skipWs]
  | .obj ((k, v) :: ms), n + 1, rest, hn, _ => by
    simp only [print, List.length_cons, List.length_append] at hn
    have hk := readName_print force lone k (print force v ++ (printMembers force ms ++ rest))
    have hv := readValue_print v n (printMembers force ms ++ rest) (by omega)
      (noNumberHead_printMembers force ms rest)
    have hms := readMembers_print ms n rest (by omega)
    have houter : ∀ cs : List Char, skipWs ('{' :: cs) = '{' :: cs := skipWs_cons (by decide)
    have hinner : ∀ cs : List Char, skipWs ('"' :: cs) = '"' :: cs := skipWs_cons (by decide)
    simp only [readValue, print, List.cons_append, List.append_assoc, houter, hinner, hk, hv, hms,
      List.head?_cons, Option.some.injEq, Char.reduceEq, if_true, if_false, Option.bind_eq_bind,
      Option.bind_some]

/-- The elements of an array, with fuel for the characters they take. -/
theorem readElems_print : ∀ (vs : List Json) (n : ℕ) (rest : List Char),
    (printElems force vs).length ≤ n →
      readElems lone n (printElems force vs ++ rest) = some (vs, rest)
  | [], 0, rest, hn => by simp [printElems] at hn
  | _ :: _, 0, rest, hn => by simp [printElems] at hn
  | [], n + 1, rest, _ => by
    simp [readElems, printElems, skipWs]
  | v :: vs, n + 1, rest, hn => by
    simp only [printElems, List.length_cons, List.length_append] at hn
    have hv := readValue_print v n (printElems force vs ++ rest) (by omega)
      (noNumberHead_printElems force vs rest)
    have hvs := readElems_print vs n rest (by omega)
    have hcomma : ∀ cs : List Char, skipWs (',' :: cs) = ',' :: cs := skipWs_cons (by decide)
    simp only [readElems, printElems, List.cons_append, List.append_assoc, hcomma, hv, hvs,
      Char.reduceEq, if_true, if_false, Option.bind_eq_bind, Option.bind_some]

/-- The members of an object, with fuel for the characters they take. -/
theorem readMembers_print : ∀ (ms : List (String × Json)) (n : ℕ) (rest : List Char),
    (printMembers force ms).length ≤ n →
      readMembers lone n (printMembers force ms ++ rest) = some (ms, rest)
  | [], 0, rest, hn => by simp [printMembers] at hn
  | (_, _) :: _, 0, rest, hn => by simp [printMembers] at hn
  | [], n + 1, rest, _ => by
    simp [readMembers, printMembers, skipWs]
  | (k, v) :: ms, n + 1, rest, hn => by
    simp only [printMembers, List.length_cons, List.length_append] at hn
    have hk := readName_print force lone k (print force v ++ (printMembers force ms ++ rest))
    have hv := readValue_print v n (printMembers force ms ++ rest) (by omega)
      (noNumberHead_printMembers force ms rest)
    have hms := readMembers_print ms n rest (by omega)
    have hcomma : ∀ cs : List Char, skipWs (',' :: cs) = ',' :: cs := skipWs_cons (by decide)
    simp only [readMembers, printMembers, List.cons_append, List.append_assoc, hcomma, hk, hv, hms,
      Char.reduceEq, if_true, if_false, Option.bind_eq_bind, Option.bind_some]
end

/-- **Reading inverts printing.** -/
theorem read_print (v : Json) : read lone (print force v) = some v := by
  have h := readValue_print force lone v (print force v).length [] le_rfl noNumberHead_nil
  rw [List.append_nil] at h
  simp [read, h, skipWs]

end Json
