import Mathlib.Data.List.DropRight
import Mathlib.Data.List.Infix

/-!
# Results, strings and dates of Rust

What a sequence of fallible steps has done when it succeeds, the string operations of the standard
library that are not those of Lean (`trim` and `split` go by the characters that Unicode calls white
space), and the dates of chrono.  Which seconds are dates and how dates are written is a parameter
(`Chrono`).
-/

/-! ## Results

`?` on results, and the loops that stop at an error. -/

namespace Except

variable {ε ε' α β : Type}

lemma ok_bind (a : α) (f : α → Except ε β) : (Except.ok a >>= f) = f a := rfl

/-- **A sequence succeeds** if its first step does, and the rest on the value of that. -/
theorem bind_eq_ok_iff {x : Except ε α} {f : α → Except ε β} {b : β} :
    (x >>= f) = .ok b ↔ ∃ a, x = .ok a ∧ f a = .ok b := by
  cases x with
  | error e =>
    refine ⟨fun h => (by cases h), ?_⟩
    rintro ⟨a, h, -⟩
    cases h
  | ok a =>
    refine ⟨fun h => ⟨a, rfl, h⟩, ?_⟩
    rintro ⟨a', h, hf⟩
    cases h
    exact hf

/-- **A loop succeeds** if every pass does. -/
lemma forM_eq_ok_iff {f : α → Except ε Unit} {l : List α} :
    l.forM f = .ok () ↔ ∀ a ∈ l, f a = .ok () := by
  induction l with
  | nil => exact iff_of_true rfl fun a h => absurd h List.not_mem_nil
  | cons a l ih =>
    have hcons : (a :: l).forM f = (f a >>= fun _ => l.forM f) := rfl
    rw [hcons, bind_eq_ok_iff, List.forall_mem_cons, ← ih]
    constructor
    · rintro ⟨⟨⟩, ha, hl⟩
      exact ⟨ha, hl⟩
    · rintro ⟨ha, hl⟩
      exact ⟨(), ha, hl⟩

/-- `ok_or`: an absent value is an error. -/
def okOr (e : ε) : Option α → Except ε α
  | some a => .ok a
  | none => .error e

@[simp] lemma okOr_some (e : ε) (a : α) : okOr e (some a) = .ok a := rfl

lemma okOr_eq_ok_iff {e : ε} {o : Option α} {a : α} : okOr e o = .ok a ↔ o = some a := by
  cases o with
  | none => simp [okOr]
  | some a' => simp

lemma mapError_eq_ok_iff {f : ε → ε'} {x : Except ε α} {a : α} :
    x.mapError f = .ok a ↔ x = .ok a := by
  cases x with
  | error e => simp [Except.mapError]
  | ok a' => simp [Except.mapError]

end Except

namespace Rust

/-! ## Strings

The functions on strings that the repository uses. -/

/-- `char::is_whitespace`: the white space of Unicode. -/
def isWhitespace (c : Char) : Bool :=
  (9 ≤ c.toNat && c.toNat ≤ 13) || (0x2000 ≤ c.toNat && c.toNat ≤ 0x200A) ||
    c.toNat ∈ [0x20, 0x85, 0xA0, 0x1680, 0x2028, 0x2029, 0x202F, 0x205F, 0x3000]

/-- `str::trim`: without the white space at both ends. -/
def trim (s : String) : String :=
  String.ofList ((s.toList.dropWhile isWhitespace).rdropWhile isWhitespace)

/-- `str::split` at a character. -/
def split (c : Char) (s : String) : List String := (s.toList.splitOn c).map String.ofList

/-- The first piece is what stands before the first separator. -/
lemma exists_split (c : Char) (s : String) :
    ∃ rest, split c s = String.ofList (s.toList.takeWhile (· ≠ c)) :: rest := by
  have hlist : ∀ l : List Char, ∃ rest, l.splitOn c = l.takeWhile (· ≠ c) :: rest := by
    intro l
    induction l with
    | nil => exact ⟨[], List.splitOn_nil c⟩
    | cons x xs ih =>
      obtain ⟨rest, hrest⟩ := ih
      rw [List.splitOn_cons_eq_if_modifyHead]
      by_cases hx : x = c
      · exact ⟨xs.splitOn c, by simp [hx]⟩
      · exact ⟨rest, by simp [hx, hrest]⟩
  obtain ⟨rest, hrest⟩ := hlist s.toList
  exact ⟨rest.map String.ofList, by rw [split, hrest, List.map_cons]⟩

/-- A text without the separator belongs to the first piece. -/
lemma exists_split_append {c : Char} {s : String} (h : c ∉ s.toList) (t : String) :
    ∃ rest, split c (s ++ t) = (s ++ String.ofList (t.toList.takeWhile (· ≠ c))) :: rest := by
  obtain ⟨rest, hrest⟩ := exists_split c (s ++ t)
  have hkeep : ∀ x ∈ s.toList, decide (x ≠ c) = true := by
    intro x hx
    refine decide_eq_true ?_
    rintro rfl
    exact h hx
  refine ⟨rest, ?_⟩
  rw [hrest, String.toList_append, List.takeWhile_append_of_pos hkeep, String.ofList_append,
    String.ofList_toList]

/-- A text without the separator in front of one is the first piece. -/
lemma split_append {c : Char} {s : String} (h : c ∉ s.toList) (t : String) :
    split c (s ++ String.singleton c ++ t) = s :: split c t := by
  have hlist : (s ++ String.singleton c ++ t).toList = s.toList ++ c :: t.toList := by
    simp [String.toList_append]
  rw [split, hlist, List.splitOn_append_cons_self, List.splitOn_eq_singleton h,
    List.singleton_append, List.map_cons, String.ofList_toList, split]

/-- **Blank strings** are those of white space only. -/
theorem trim_eq_empty_iff (s : String) : trim s = "" ↔ ∀ c ∈ s.toList, isWhitespace c = true := by
  rw [trim, ← String.ofList_nil, String.ofList_inj, List.rdropWhile_eq_nil_iff]
  constructor
  · intro h c hc
    rw [← List.takeWhile_append_dropWhile (p := isWhitespace) (l := s.toList)] at hc
    rcases List.mem_append.mp hc with hc | hc
    · exact List.mem_takeWhile_imp hc
    · exact h c hc
  · intro h c hc
    exact h c ((List.dropWhile_sublist _).subset hc)

/-- White space after a text that has none at its ends is all that is trimmed off. -/
theorem trim_append {s t : String} {c d : Char} (hhead : s.toList.head? = some c)
    (hlast : s.toList.getLast? = some d) (hc : isWhitespace c = false)
    (hd : isWhitespace d = false) (ht : ∀ x ∈ t.toList, isWhitespace x = true) :
    trim (s ++ t) = s := by
  obtain ⟨cs, hcs⟩ := List.head?_eq_some_iff.mp hhead
  obtain ⟨ds, hds⟩ := List.getLast?_eq_some_iff.mp hlast
  have hstart : (s ++ t).toList.dropWhile isWhitespace = s.toList ++ t.toList := by
    rw [String.toList_append, hcs, List.cons_append, List.dropWhile_cons_of_neg (by simp [hc])]
  have hstop : (s.toList ++ t.toList).rdropWhile isWhitespace = s.toList := by
    rw [List.rdropWhile, List.reverse_append,
      List.dropWhile_append_of_pos fun x hx => ht x (List.mem_reverse.mp hx), hds,
      List.reverse_concat, List.dropWhile_cons_of_neg (by simp [hd])]
    simp
  rw [trim, hstart, hstop, String.ofList_toList]

/-- `str::trim_matches` of a character. -/
def trimMatches (c : Char) (s : String) : String :=
  String.ofList ((s.toList.dropWhile (· = c)).rdropWhile (· = c))

/-- `str::contains`: the pattern occurs as a block. -/
def contains (pattern s : String) : Bool := decide (pattern.toList <:+: s.toList)

/-- The characters of a text behind its first `skip`, without the occurrences of a pattern. -/
def removeFrom (pattern : List Char) : (skip : ℕ) → List Char → List Char
  | _, [] => []
  | skip + 1, _ :: cs => removeFrom pattern skip cs
  | 0, c :: cs =>
    if pattern <+: c :: cs then removeFrom pattern (pattern.length - 1) cs
    else c :: removeFrom pattern 0 cs

/-- `str::replace` of a pattern with nothing. -/
def remove (pattern s : String) : String := String.ofList (removeFrom pattern.toList 0 s.toList)

/-- A text that lacks a character of the pattern stays as it is. -/
lemma removeFrom_of_not_mem {pattern : List Char} {x : Char} (hx : x ∈ pattern) {cs : List Char}
    (h : x ∉ cs) : removeFrom pattern 0 cs = cs := by
  induction cs with
  | nil => rfl
  | cons c cs ih =>
    have hnot : ¬ pattern <+: c :: cs := fun hp => h (hp.subset hx)
    rw [removeFrom, if_neg hnot, ih fun hmem => h (List.mem_cons_of_mem c hmem)]

lemma removeFrom_skip (pattern cs : List Char) : ∀ pre : List Char,
    removeFrom pattern pre.length (pre ++ cs) = removeFrom pattern 0 cs
  | [] => rfl
  | _ :: pre => by
    rw [List.length_cons, List.cons_append, removeFrom]
    exact removeFrom_skip pattern cs pre

/-- An occurrence at the front is removed. -/
lemma removeFrom_append {c : Char} {pattern : List Char} (cs : List Char) :
    removeFrom (c :: pattern) 0 (c :: pattern ++ cs) = removeFrom (c :: pattern) 0 cs := by
  have hprefix : c :: pattern <+: c :: (pattern ++ cs) := ⟨cs, rfl⟩
  rw [List.cons_append, removeFrom, if_pos hprefix]
  exact removeFrom_skip (c :: pattern) cs pattern

/-- An occurrence that ends in front of a text is one in what stands there. -/
lemma prefix_of_prefix_append {pattern pre cs : List Char} {x : Char}
    (hlast : pattern.getLast? = some x) (hx : x ∉ cs) (h : pattern <+: pre ++ cs) :
    pattern <+: pre := by
  rcases List.prefix_or_prefix_of_prefix h (List.prefix_append pre cs) with h' | ⟨rest, rfl⟩
  · exact h'
  · have hrest : rest <+: cs := (List.prefix_append_right_inj pre).mp h
    cases rest with
    | nil => simp
    | cons c rest =>
      rw [List.getLast?_append_of_ne_nil _ (List.cons_ne_nil c rest)] at hlast
      exact absurd (hrest.subset (List.mem_of_getLast? hlast)) hx

/-- What the front does not contain is not removed. -/
lemma removeFrom_append_of_not_infix {pattern pre cs : List Char} {x : Char}
    (hlast : pattern.getLast? = some x) (hx : x ∉ cs) (h : ¬ pattern <:+: pre) :
    removeFrom pattern 0 (pre ++ cs) = pre ++ cs := by
  induction pre with
  | nil => exact removeFrom_of_not_mem (List.mem_of_getLast? hlast) hx
  | cons c pre ih =>
    have hnot : ¬ pattern <+: c :: (pre ++ cs) := fun hp =>
      h (prefix_of_prefix_append hlast hx hp).isInfix
    rw [List.cons_append, removeFrom, if_neg hnot,
      ih fun hp => h (hp.trans (List.suffix_cons c pre).isInfix)]

/-- **A pattern at the front is removed**, and nothing else where its last character does not
occur. -/
lemma remove_append {pattern s : String} {x : Char} (hlast : pattern.toList.getLast? = some x)
    (hx : x ∉ s.toList) : remove pattern (pattern ++ s) = s := by
  rw [remove, String.toList_append]
  cases hpattern : pattern.toList with
  | nil =>
    rw [hpattern] at hlast
    cases hlast
  | cons c cs =>
    rw [hpattern] at hlast
    rw [removeFrom_append, removeFrom_of_not_mem (List.mem_of_getLast? hlast) hx,
      String.ofList_toList]

/-- **What the front does not contain is not removed.** -/
lemma remove_append_of_not_contains {pattern pre s : String} {x : Char}
    (hlast : pattern.toList.getLast? = some x) (hx : x ∉ s.toList)
    (h : contains pattern pre = false) : remove pattern (pre ++ s) = pre ++ s := by
  rw [remove, String.toList_append,
    removeFrom_append_of_not_infix hlast hx (of_decide_eq_false h), ← String.toList_append,
    String.ofList_toList]

lemma remove_of_not_mem {pattern s : String} {x : Char} (hlast : pattern.toList.getLast? = some x)
    (hx : x ∉ s.toList) : remove pattern s = s := by
  rw [remove, removeFrom_of_not_mem (List.mem_of_getLast? hlast) hx, String.ofList_toList]

/-- Trimming at both ends of a text with a character in it that stays. -/
lemma dropWhile_rdropWhile {p : Char → Bool} {c d : Char} {cs ds : List Char} (hc : p c = false)
    (hlast : (c :: ds).getLast? = some d) (hd : p d = false) :
    ((cs ++ c :: ds).dropWhile p).rdropWhile p = cs.dropWhile p ++ c :: ds := by
  have hfront : (cs ++ c :: ds).dropWhile p = cs.dropWhile p ++ c :: ds := by
    induction cs with
    | nil =>
      rw [List.nil_append, List.dropWhile_cons_of_neg (by simp [hc]), List.dropWhile_nil,
        List.nil_append]
    | cons x xs ih =>
      rw [List.cons_append, List.dropWhile_cons, List.dropWhile_cons]
      split
      · exact ih
      · rfl
  obtain ⟨init, hinit⟩ := List.getLast?_eq_some_iff.mp hlast
  rw [hfront, hinit, ← List.append_assoc, List.rdropWhile_concat_neg _ _ _ (by simp [hd])]

end Rust

/-! ## Dates

Points in time and their calendar, which is code of others. -/

/-- `DateTime<Utc>`: seconds since the epoch and nanoseconds in the second. -/
structure DateTime where
  seconds : Int64
  nanoseconds : UInt32
deriving DecidableEq, Repr

/-- What chrono decides: which seconds are dates, how a date is written, and which texts are
dates. -/
structure Chrono where
  supported : Int64 → Bool
  toRfc3339 : DateTime → String
  isRfc3339 : String → Bool

/-- `DateTime::from_timestamp`: a point in time, if the calendar has it. -/
def Chrono.fromTimestamp (chrono : Chrono) (seconds : Int64) (nanoseconds : UInt32) :
    Option DateTime :=
  if chrono.supported seconds then some ⟨seconds, nanoseconds⟩ else none

lemma Chrono.eq_of_fromTimestamp {chrono : Chrono} {seconds : Int64} {nanoseconds : UInt32}
    {date : DateTime} (h : chrono.fromTimestamp seconds nanoseconds = some date) :
    date = ⟨seconds, nanoseconds⟩ := by
  rw [fromTimestamp] at h
  split at h
  · exact (Option.some.inj h).symm
  · cases h
