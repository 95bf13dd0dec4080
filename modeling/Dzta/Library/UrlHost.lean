import Mathlib.Data.Bool.AllAny
import Mathlib.Data.List.DropRight

/-!
# The host of a URL

Which host a URL names: the authority ends at the first slash, question mark or hash, user
information in front of an at sign does not count, and neither does a port.  **What stands in front
of a port is read as if it stood alone** (`host?_eq`), and a registered name stands for itself
(`namedHost?_of_isHostChar`).
-/

namespace Url

/-- The host that an authority names: behind the user information, and in front of the port.  An
address in brackets has to be closed. -/
def hostOfAuthority? (authority : List Char) : Option (List Char) :=
  let hostPort := authority.rtakeWhile (· ≠ '@')
  if hostPort.head? = some '[' then
    if ']' ∈ hostPort then some (hostPort.takeWhile (· ≠ ']') ++ [']']) else none
  else some (hostPort.takeWhile (· ≠ ':'))

/-- What stands in front of the query and the fragment. -/
def beforeQuery (cs : List Char) : List Char := cs.takeWhile fun c => c ∉ ['/', '?', '#']

/-- The host of a URL with an authority. -/
def host? (url : String) : Option String :=
  (hostOfAuthority? (beforeQuery ((url.toList.dropWhile (· ≠ ':')).drop 3))).map String.ofList

/-- The host that a text names in front of a port. -/
def namedHost? (text : String) : Option String :=
  (hostOfAuthority? (beforeQuery text.toList)).map String.ofList

lemma rtakeWhile_append_of_all {p : Char → Bool} {cs ds : List Char} (h : ∀ d ∈ ds, p d = true) :
    (cs ++ ds).rtakeWhile p = cs.rtakeWhile p ++ ds := by
  rw [List.rtakeWhile, List.rtakeWhile, List.reverse_append,
    List.takeWhile_append_of_pos fun d hd => h d (List.mem_reverse.mp hd), List.reverse_append,
    List.reverse_reverse]

lemma takeWhile_ne_of_not_mem {c : Char} {cs : List Char} (h : c ∉ cs) :
    cs.takeWhile (· ≠ c) = cs :=
  List.takeWhile_eq_self_iff.mpr fun x hx => by
    simp only [ne_eq, decide_eq_true_eq]
    rintro rfl
    exact h hx

lemma takeWhile_ne_append_of_mem {c : Char} {cs : List Char} (h : c ∈ cs) (ds : List Char) :
    (cs ++ ds).takeWhile (· ≠ c) = cs.takeWhile (· ≠ c) := by
  induction cs with
  | nil => cases h
  | cons x cs ih =>
    rw [List.cons_append, List.takeWhile_cons, List.takeWhile_cons]
    split
    · rename_i hx
      rw [ih ((List.mem_cons.mp h).resolve_left fun hc => by simp [hc] at hx)]
    · rfl

/-- A port does not change the host. -/
lemma hostOfAuthority?_append {cs port : List Char} (hcs : ':' ∉ cs)
    (hport : ∀ c ∈ port, c ≠ '@' ∧ c ≠ ']') :
    hostOfAuthority? (cs ++ ':' :: port) = hostOfAuthority? cs := by
  have hall : ∀ c ∈ ':' :: port, decide (c ≠ '@') = true := by
    intro c hc
    rcases List.mem_cons.mp hc with rfl | hc
    · decide
    · exact decide_eq_true (hport c hc).1
  have hcolon : ':' ∉ cs.rtakeWhile (· ≠ '@') := fun h =>
    hcs ((List.rtakeWhile_suffix _ cs).subset h)
  rw [hostOfAuthority?, hostOfAuthority?, rtakeWhile_append_of_all hall]
  generalize cs.rtakeWhile (· ≠ '@') = hostPort at hcolon
  have hhead : (hostPort ++ ':' :: port).head? = some '[' ↔ hostPort.head? = some '[' := by
    cases hostPort <;> simp
  have hmem : ']' ∈ hostPort ++ ':' :: port ↔ ']' ∈ hostPort := by
    have hbracket : ']' ∉ port := fun h => (hport _ h).2 rfl
    simp [hbracket]
  by_cases hopen : hostPort.head? = some '['
  · rw [if_pos (hhead.mpr hopen), if_pos hopen]
    by_cases hclose : ']' ∈ hostPort
    · rw [if_pos (hmem.mpr hclose), if_pos hclose, takeWhile_ne_append_of_mem hclose]
    · rw [if_neg fun h => hclose (hmem.mp h), if_neg hclose]
  · have hkeep : ∀ c ∈ hostPort, decide (c ≠ ':') = true := by
      intro c hc
      refine decide_eq_true ?_
      rintro rfl
      exact hcolon hc
    rw [if_neg fun h => hopen (hhead.mp h), if_neg hopen, List.takeWhile_append_of_pos hkeep,
      takeWhile_ne_of_not_mem hcolon]
    simp

/-- **The host of a URL** that is made of a text without colons and of a port. -/
theorem host?_eq {text port : String} (hcolon : ':' ∉ text.toList)
    (hport : ∀ c ∈ port.toList, c.isDigit = true) :
    host? ("https://" ++ (text ++ ":" ++ port)) = namedHost? text := by
  have hdigit : ∀ c ∈ port.toList, ∀ d ∈ ['@', ']', '/', '?', '#'], c ≠ d := by
    rintro c hc d hd rfl
    have hnot : ∀ d ∈ ['@', ']', '/', '?', '#'], d.isDigit = false :=
      List.all_iff_forall_prop.mp (by decide)
    exact absurd (hport c hc) (by simp [hnot c hd])
  have hauthority : (("https://" ++ (text ++ ":" ++ port)).toList.dropWhile (· ≠ ':')).drop 3 =
      text.toList ++ ':' :: port.toList := by
    simp [String.toList_append]
  rw [host?, namedHost?, hauthority]
  refine congrArg (Option.map String.ofList) ?_
  rw [beforeQuery, beforeQuery, List.takeWhile_append]
  split
  · rename_i hall
    have hself : text.toList.takeWhile (fun c => c ∉ ['/', '?', '#']) = text.toList :=
      (List.takeWhile_prefix _).eq_of_length hall
    rw [hself, List.takeWhile_eq_self_iff.mpr ?_, hostOfAuthority?_append hcolon fun c hc =>
      ⟨hdigit c hc _ (by decide), hdigit c hc _ (by decide)⟩]
    intro c hc
    rcases List.mem_cons.mp hc with rfl | hc
    · decide
    · simp [hdigit c hc]
  · rfl

/-- A character of a registered name. -/
def isHostChar (c : Char) : Bool := c.isAlphanum || c = '-' || c = '.' || c = '_'

/-- A registered name stands for itself. -/
lemma namedHost?_of_isHostChar {text : String} (h : ∀ c ∈ text.toList, isHostChar c = true) :
    namedHost? text = some text := by
  have hne : ∀ c ∈ text.toList, ∀ d ∈ ['@', '[', ':', '/', '?', '#'], c ≠ d := by
    rintro c hc d hd rfl
    have hnot : ∀ d ∈ ['@', '[', ':', '/', '?', '#'], isHostChar d = false :=
      List.all_iff_forall_prop.mp (by decide)
    exact absurd (h c hc) (by simp [hnot c hd])
  have hquery : beforeQuery text.toList = text.toList :=
    List.takeWhile_eq_self_iff.mpr fun c hc => by simp [hne c hc]
  have huser : text.toList.rtakeWhile (· ≠ '@') = text.toList :=
    List.rtakeWhile_eq_self_iff.mpr fun c hc => decide_eq_true (hne c hc _ (by decide))
  have hopen : text.toList.head? ≠ some '[' := fun hhead =>
    hne _ (List.mem_of_mem_head? hhead) '[' (by decide) rfl
  have hcolon : ':' ∉ text.toList := fun hc => hne _ hc ':' (by decide) rfl
  rw [namedHost?, hostOfAuthority?, hquery, huser, if_neg hopen, takeWhile_ne_of_not_mem hcolon,
    Option.map_some, String.ofList_toList]

end Url
