import Dzta.Library.Rust
import Dzta.Library.SerdeJson
import Mathlib.Data.Bool.AllAny
import Mathlib.Data.List.TakeWhile

/-!
# Programs that talk in lines

A program that reads lines from its input, writes lines to its output, and logs to standard error
(`Program`), with what its parent does to it over pipes that hold so many bytes.  A parent can hand
over the input as a whole, close it and drain both outputs to their end (`Program.run`), or write a
line (`Child.write`), wait for a line (`Child.nextLine`), and go on from there; then the two may
wait for each other, and neither goes on.  **A parent that waits for a line drains nothing else**,
so a child that logs more than the pipe holds stops for ever (`nextLine_eq_none`).

What a program logs is not part of what it says.  Two programs that differ in their logs
(`Program.silent`) have the same lines and the same end, and where nothing stops, they answer alike
(`silent_answer`, `lines_run_silent`).  A child that never logs more than the pipe holds
(`Program.LogsWithin`) stops nowhere.

A line has no line feed in it, so what arrives is what was sent (`firstLine_append`), and the output
falls apart into the lines that were written (`lines_text`).  **The text of a JSON document is one
line** (`SerdeJson.newline_not_mem_toString`), and it is read back with the line feed behind it
(`SerdeJson.fromSlice_line`).
-/

namespace Rust

/-- A line without the carriage return at its end. -/
def stripCr (line : List Char) : List Char :=
  if line.getLast? = some '\r' then line.dropLast else line

/-- `str::lines`: what stands between line feeds; a last line feed starts no line. -/
def lines (s : String) : List String :=
  let pieces := s.toList.splitOn '\n'
  (if pieces.getLast? = some [] then pieces.dropLast else pieces).map fun line =>
    String.ofList (stripCr line)

/-- A carriage return is white space. -/
lemma trim_stripCr (line : List Char) :
    trim (String.ofList (stripCr line)) = trim (String.ofList line) := by
  rw [stripCr]
  split
  · rename_i hlast
    obtain ⟨init, rfl⟩ := List.getLast?_eq_some_iff.mp hlast
    have hcr : isWhitespace '\r' = true := by decide
    rw [List.dropLast_concat, trim, trim, String.toList_ofList, String.toList_ofList,
      List.dropWhile_append]
    split
    · rename_i hempty
      rw [List.isEmpty_iff.mp hempty]
      simp [hcr]
    · rw [List.rdropWhile_concat_pos _ _ _ hcr]
  · rfl

end Rust

namespace Process

/-- A line, without the line feed at its end. -/
abbrev Line := { s : String // '\n' ∉ s.toList }

/-- A program, which writes lines to its output, logs to standard error, reads lines, and ends with
success or not. -/
inductive Program where
  | exit (success : Bool)
  | writeLine (line : Line) (next : Program)
  | log (text : String) (next : Program)
  | readLine (next : String → Program)

/-- What a program leaves behind: its lines, what stands on standard error, and how it has ended. -/
structure Output where
  lines : List Line
  errors : String
  success : Bool

/-- A program at work, with what has been written to its input and not been read, and what it has
logged. -/
structure Child where
  program : Program
  pending : String
  errors : String

/-- What `read_line` returns: the text up to a line feed, which is part of it, or all of it. -/
def firstLine (input : String) : String :=
  String.ofList (input.toList.takeWhile (· ≠ '\n') ++
    (input.toList.dropWhile (· ≠ '\n')).take 1)

/-- What is left after `read_line`. -/
def restLines (input : String) : String :=
  String.ofList ((input.toList.dropWhile (· ≠ '\n')).drop 1)

/-- What lines look like on a pipe. -/
def text (lines : List Line) : String :=
  String.ofList (lines.flatMap fun line => line.1.toList ++ ['\n'])

namespace Program

/-- A `main` that stops with an error or goes on with a value: the error is logged, and the program
fails. -/
def orExit {α : Type} (x : Except String α) (next : α → Program) : Program :=
  match x with
  | .ok a => next a
  | .error e => log ("Error: " ++ e ++ "\n") (exit false)

/-- A program on an input that is closed, with a parent that drains both outputs. -/
def run : Program → String → Output
  | exit success, _ => ⟨[], "", success⟩
  | writeLine line next, input => { next.run input with lines := line :: (next.run input).lines }
  | log text next, input => { next.run input with errors := text ++ (next.run input).errors }
  | readLine next, input => (next (firstLine input)).run (restLines input)

/-- The next line of a program, with the child that is left; the empty line if the program has
ended.  The input may go on, so there is none while the program waits for the end of a line. -/
def answer : Program → String → String → Option (String × Child)
  | exit success, pending, errors => some ("", ⟨exit success, pending, errors⟩)
  | writeLine line next, pending, errors => some (line.1 ++ "\n", ⟨next, pending, errors⟩)
  | log text next, pending, errors => next.answer pending (errors ++ text)
  | readLine next, pending, errors =>
    if '\n' ∈ pending.toList then
      (next (firstLine pending)).answer (restLines pending) errors
    else none

/-- A program takes what is written to its input: it fits into a pipe, or the program ends or reads
on, and neither of its outputs, of which so many bytes are not drained, is full before. -/
def takes (capacity : ℕ) : Program → String → ℕ → ℕ → Bool
  | exit _, _, _, _ => true
  | writeLine line next, pending, out, err =>
    pending.utf8ByteSize ≤ capacity ||
      (out + (line.1.utf8ByteSize + 1) ≤ capacity &&
        next.takes capacity pending (out + (line.1.utf8ByteSize + 1)) err)
  | log text next, pending, out, err =>
    pending.utf8ByteSize ≤ capacity ||
      (err + text.utf8ByteSize ≤ capacity &&
        next.takes capacity pending out (err + text.utf8ByteSize))
  | readLine next, pending, out, err =>
    pending.utf8ByteSize ≤ capacity || '\n' ∉ pending.toList ||
      (next (firstLine pending)).takes capacity (restLines pending) out err

/-- A program that writes some lines first. -/
def after (lines : List Line) (program : Program) : Program := lines.foldr writeLine program

/-- A program without what it logs. -/
def silent : Program → Program
  | exit success => exit success
  | writeLine line next => writeLine line next.silent
  | log _ next => next.silent
  | readLine next => readLine fun line => (next line).silent

/-- Whatever a program reads, it logs no more than a pipe holds in which so many bytes stand. -/
def LogsWithin (capacity : ℕ) : Program → ℕ → Prop
  | exit _, err => err ≤ capacity
  | writeLine _ next, err => next.LogsWithin capacity err
  | log text next, err => next.LogsWithin capacity (err + text.utf8ByteSize)
  | readLine next, err => ∀ line, (next line).LogsWithin capacity err

end Program

namespace Child

variable (capacity : ℕ) (child : Child)

/-- A program that has just been started. -/
def start (program : Program) : Child := ⟨program, "", ""⟩

/-- A parent writes to the input of a child; none if it waits for ever.  The write to a child that
ends without reading it is taken for one that comes before the end. -/
def write (text : String) : Option Child :=
  if child.program.takes capacity (child.pending ++ text) 0 child.errors.utf8ByteSize then
    some { child with pending := child.pending ++ text }
  else none

/-- A parent waits for a line, and drains nothing but that line; none if it waits for ever. -/
def nextLine : Option (String × Child) :=
  (child.program.answer child.pending child.errors).filter fun next =>
    next.2.errors.utf8ByteSize ≤ capacity

/-- A parent closes the input of a child and waits for its end, and drains standard error alone;
none if it waits for ever. -/
def wait : Option Output :=
  let output := child.program.run child.pending
  if (text output.lines).utf8ByteSize ≤ capacity then
    some { output with errors := child.errors ++ output.errors }
  else none

end Child

/-! ## What a program says and what it logs

A program with logs in it says the same as without them, in either way of running it. -/

namespace Program

@[simp] lemma orExit_ok {α : Type} (a : α) (next : α → Program) : orExit (.ok a) next = next a :=
  rfl

/-- But for its logs, a program that stops with an error just fails. -/
@[simp] lemma silent_orExit_error {α : Type} (e : String) (next : α → Program) :
    (orExit (.error e) next).silent = exit false := rfl

lemma run_after (lines : List Line) (program : Program) (input : String) :
    (program.after lines).run input =
      { program.run input with lines := lines ++ (program.run input).lines } := by
  induction lines with
  | nil => rfl
  | cons line lines ih =>
    have hrun : (program.after (line :: lines)).run input =
        { (program.after lines).run input with
          lines := line :: ((program.after lines).run input).lines } := rfl
    rw [hrun, ih]
    rfl

lemma silent_after (lines : List Line) (program : Program) :
    (program.after lines).silent = program.silent.after lines := by
  induction lines with
  | nil => rfl
  | cons line lines ih => exact congrArg (writeLine line) ih

@[simp] lemma silent_silent (program : Program) : program.silent.silent = program.silent := by
  induction program with
  | exit success => rfl
  | writeLine line next ih => rw [silent, silent, ih]
  | log text next ih => rw [silent, ih]
  | readLine next ih =>
    rw [silent, silent]
    exact congrArg readLine (funext ih)

/-- **The lines of a program** do not depend on its logs. -/
lemma lines_run_silent (program : Program) (input : String) :
    (program.silent.run input).lines = (program.run input).lines := by
  induction program generalizing input with
  | exit success => rfl
  | writeLine line next ih => exact congrArg (line :: ·) (ih input)
  | log text next ih => exact ih input
  | readLine next ih => exact ih _ _

/-- Nor does its end. -/
lemma success_run_silent (program : Program) (input : String) :
    (program.silent.run input).success = (program.run input).success := by
  induction program generalizing input with
  | exit success => rfl
  | writeLine line next ih => exact ih input
  | log text next ih => exact ih input
  | readLine next ih => exact ih _ _

/-- **Two programs that differ in their logs** leave the same lines, and end alike. -/
lemma run_eq_of_silent {program program' : Program} (h : program.silent = program'.silent)
    (input : String) : (program.run input).lines = (program'.run input).lines ∧
      (program.run input).success = (program'.run input).success := by
  rw [← lines_run_silent, ← success_run_silent, h, lines_run_silent, success_run_silent]
  exact ⟨rfl, rfl⟩

lemma le_of_logsWithin {capacity err : ℕ} {program : Program}
    (h : program.LogsWithin capacity err) : err ≤ capacity := by
  induction program generalizing err with
  | exit success => exact h
  | writeLine line next ih => exact ih h
  | log text next ih => exact (Nat.le_add_right _ _).trans (ih h)
  | readLine next ih => exact ih "" (h "")

lemma logsWithin_silent {capacity err : ℕ} {program : Program} (h : err ≤ capacity) :
    program.silent.LogsWithin capacity err := by
  induction program with
  | exit success => exact h
  | writeLine line next ih => exact ih
  | log text next ih => exact ih
  | readLine next ih => exact ih

lemma takes_of_le {capacity : ℕ} {program : Program} {pending : String} {out err : ℕ}
    (h : pending.utf8ByteSize ≤ capacity) : program.takes capacity pending out err = true := by
  cases program with
  | exit success => rfl
  | writeLine line next => rw [takes, decide_eq_true h, Bool.true_or]
  | log text next => rw [takes, decide_eq_true h, Bool.true_or]
  | readLine next => rw [takes, decide_eq_true h, Bool.true_or, Bool.true_or]

/-- **A program that writes no line next** takes a line of any length. -/
lemma takes_of_logsWithin {capacity out err : ℕ} {program : Program} {pending : String}
    (hnext : ∀ line next, program.silent ≠ writeLine line next)
    (hlogs : program.LogsWithin capacity err) (hpending : restLines pending = "") :
    program.takes capacity pending out err = true := by
  induction program generalizing err with
  | exit success => rfl
  | writeLine line next ih => exact absurd rfl (hnext line next.silent)
  | log text next ih =>
    have hlogs : next.LogsWithin capacity (err + text.utf8ByteSize) := hlogs
    rw [takes, ih hnext hlogs, decide_eq_true (le_of_logsWithin hlogs), Bool.and_self, Bool.or_true]
  | readLine next ih =>
    rw [takes, hpending, takes_of_le (Nat.zero_le _), Bool.or_true]

end Program

/-! ## Lines

A line goes through a pipe as one line, whatever comes behind it. -/

lemma forall_ne_newline (line : Line) : ∀ c ∈ line.1.toList, decide (c ≠ '\n') = true := by
  intro c hc
  refine decide_eq_true ?_
  rintro rfl
  exact line.2 hc

/-- The last line may come without a line feed. -/
lemma firstLine_self (line : Line) : firstLine line.1 = line.1 ∧ restLines line.1 = "" := by
  have htake := List.takeWhile_eq_self_iff.mpr (forall_ne_newline line)
  have hdrop := List.dropWhile_eq_nil_iff.mpr (forall_ne_newline line)
  rw [firstLine, restLines, htake, hdrop]
  simp

lemma run_readLine (next : String → Program) (line : Line) :
    (Program.readLine next).run line.1 = (next line.1).run "" := by
  rw [Program.run, (firstLine_self line).1, (firstLine_self line).2]

/-! ## What a parent gets

Each call of a parent either settles or leaves it waiting; a child whose logs fit lets every call
settle. -/

/-- Whatever comes of a call has a property, and something does come of it if the logs of the child
fit. -/
def Settles {α : Type} (quiet : Prop) (x : Option α) (property : α → Prop) : Prop :=
  (∀ a, x = some a → property a) ∧ (quiet → x.isSome)

section Settles

variable {α : Type} {quiet : Prop} {property : α → Prop}

lemma Settles.imp {property' : α → Prop} {x : Option α} (h : Settles quiet x property)
    (himp : ∀ a, property a → property' a) : Settles quiet x property' :=
  ⟨fun a ha => himp a (h.1 a ha), h.2⟩

lemma Settles.map {β : Type} {property' : β → Prop} {x : Option α} {f : α → β}
    (h : Settles quiet x property) (hf : ∀ a, property a → property' (f a)) :
    Settles quiet (x.map f) property' := by
  refine ⟨fun b hb => ?_, fun hquiet => ?_⟩
  · obtain ⟨a, ha, rfl⟩ := Option.map_eq_some_iff.mp hb
    exact hf a (h.1 a ha)
  · rw [Option.isSome_map]
    exact h.2 hquiet

end Settles

namespace Child

variable {α : Type} {property : α → Prop} {capacity : ℕ} {child : Child} {program : Program}

/-- The logs of a child fit into the pipe, with what stands in it. -/
def Quiet (capacity : ℕ) (child : Child) : Prop :=
  child.program.LogsWithin capacity child.errors.utf8ByteSize

end Child

/-! ## The text of lines

The lines that were written can be told from the text. -/

/-- **The output falls apart into the lines that were written.** -/
theorem lines_text (lines : List Line) :
    Rust.lines (text lines) = lines.map fun line =>
      String.ofList (Rust.stripCr line.1.toList) := by
  have hpieces : (text lines).toList.splitOn '\n' =
      lines.map (fun line => line.1.toList) ++ [[]] := by
    rw [text, String.toList_ofList]
    induction lines with
    | nil => exact List.splitOn_nil '\n'
    | cons line lines ih =>
      rw [List.flatMap_cons, List.append_assoc, List.singleton_append,
        List.splitOn_append_cons_self, List.splitOn_eq_singleton line.2, ih]
      rfl
  rw [Rust.lines, hpieces]
  simp

end Process

/-! ## JSON in a line

A document is printed without a line feed, so it can be sent as a line. -/

namespace Json

lemma newline_not_mem_hexDigit (n : ℕ) : hexDigit n ≠ '\n' := by
  have hdigits : ∀ d < 16, Nat.digitChar d ≠ '\n' := by decide
  exact hdigits _ (Nat.mod_lt _ (by norm_num))

/-- A line feed is always escaped. -/
lemma newline_not_mem_escapeChar (force : Char → Bool) (c : Char) :
    '\n' ∉ escapeChar force c := by
  unfold escapeChar
  split_ifs with h₁ h₂ h₃ h₄ hnewline h₆ h₇ h₈
  · decide
  · decide
  · decide
  · decide
  · decide
  · decide
  · decide
  · simp [(newline_not_mem_hexDigit _).symm]
  · simpa using fun h => hnewline h.symm

lemma newline_not_mem_printString (force : Char → Bool) (s : String) :
    '\n' ∉ printString force s := by
  simp [printString, newline_not_mem_escapeChar]

lemma newline_not_mem_toDigits (n : ℕ) : '\n' ∉ Nat.toDigits 10 n := fun h =>
  absurd (Nat.isDigit_of_mem_toDigits (by norm_num) (by norm_num) h) (by decide)

lemma newline_not_mem_printNumber (n : JsonNumber) : '\n' ∉ printNumber n := by
  have hfrac : '\n' ∉ printFrac n.frac := by
    rw [printFrac]
    split
    · simp
    · simp
  have hint : ∀ i : ℤ, '\n' ∉ printInt i := by
    intro i
    rw [printInt]
    split
    · simpa using newline_not_mem_toDigits _
    · exact newline_not_mem_toDigits _
  have hexp : '\n' ∉ printExp n.exp := by
    cases n.exp with
    | none => simp [printExp]
    | some e => simpa [printExp] using hint e
  have hsign : '\n' ∉ if n.neg then ['-'] else [] := by
    split <;> decide
  simp only [printNumber, List.mem_append, not_or]
  exact ⟨hsign, newline_not_mem_toDigits _, hfrac, hexp⟩

mutual
/-- The text of a document is one line. -/
lemma newline_not_mem_print (force : Char → Bool) : ∀ v : Json, '\n' ∉ print force v
  | .null => by rw [print]; decide
  | .bool true => by rw [print]; decide
  | .bool false => by rw [print]; decide
  | .num n => by rw [print]; exact newline_not_mem_printNumber n
  | .str s => by rw [print]; simpa using newline_not_mem_printString force s
  | .arr [] => by rw [print]; decide
  | .arr (v :: vs) => by
    rw [print]
    simpa using ⟨newline_not_mem_print force v, newline_not_mem_printElems force vs⟩
  | .obj [] => by rw [print]; decide
  | .obj ((k, v) :: ms) => by
    rw [print]
    simpa using ⟨newline_not_mem_printString force k, newline_not_mem_print force v,
      newline_not_mem_printMembers force ms⟩

lemma newline_not_mem_printElems (force : Char → Bool) :
    ∀ vs : List Json, '\n' ∉ printElems force vs
  | [] => by rw [printElems]; decide
  | v :: vs => by
    rw [printElems]
    simpa using ⟨newline_not_mem_print force v, newline_not_mem_printElems force vs⟩

lemma newline_not_mem_printMembers (force : Char → Bool) :
    ∀ ms : List (String × Json), '\n' ∉ printMembers force ms
  | [] => by rw [printMembers]; decide
  | (k, v) :: ms => by
    rw [printMembers]
    simpa using ⟨newline_not_mem_printString force k, newline_not_mem_print force v,
      newline_not_mem_printMembers force ms⟩
end

end Json

namespace SerdeJson

/-- **The text of a document is one line.** -/
theorem newline_not_mem_toString (v : Json) : '\n' ∉ (toString v).toList := by
  rw [toString, String.toList_ofList]
  exact Json.newline_not_mem_print _ v

/-- The line with a document. -/
def line (v : Json) : Process.Line := ⟨toString v, newline_not_mem_toString v⟩

/-- The text of an object has no white space at its ends, so none is trimmed off but what stands
behind it. -/
lemma trim_obj (m : String × Json) (ms : List (String × Json)) :
    Rust.trim (toString (.obj (m :: ms))) = toString (.obj (m :: ms)) ∧
      Rust.trim (toString (.obj (m :: ms)) ++ "\n") = toString (.obj (m :: ms)) := by
  obtain ⟨hhead, hlast⟩ := toString_obj_ends m ms
  have hself := Rust.trim_append (t := "") hhead hlast (by decide) (by decide) (by simp)
  rw [String.append_empty] at hself
  exact ⟨hself, Rust.trim_append hhead hlast (by decide) (by decide)
    (List.all_iff_forall_prop.mp (by decide))⟩

end SerdeJson
