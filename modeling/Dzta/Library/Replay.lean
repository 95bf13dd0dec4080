import Mathlib.Data.Finset.Insert
import Mathlib.Order.Lattice

/-!
# Replays of a log

A log is delivered in batches to a consumer that keeps a set of what it has read.  Sessions come
and go: each starts from the first batch again and is cut after some batch.  Since the consumer only
ever adds to its set, replays do no harm, and **after any sessions it holds exactly what the longest
prefix contains** (`mem_replays`).
-/

namespace Replay

variable {α β : Type*} [DecidableEq β] (read : α → Option β)

/-- Adds what an item contains, if anything, to the set. -/
def remember (s : Finset β) (a : α) : Finset β :=
  match read a with
  | some b => insert b s
  | none => s

/-- The set after sessions that are cut after given numbers of batches. -/
def replays (batches : List (List α)) (s : Finset β) (cuts : List ℕ) : Finset β :=
  cuts.foldl (fun s n => (batches.take n).foldl (fun s batch => batch.foldl (remember read) s) s) s

lemma mem_remember {s : Finset β} {a : α} {b : β} :
    b ∈ remember read s a ↔ b ∈ s ∨ read a = some b := by
  rw [remember]
  cases h : read a with
  | none => simp
  | some b' => simp [eq_comm, or_comm]

lemma mem_foldl_remember {s : Finset β} {as : List α} {b : β} :
    b ∈ as.foldl (remember read) s ↔ b ∈ s ∨ ∃ a ∈ as, read a = some b := by
  induction as generalizing s with
  | nil => simp
  | cons a as ih =>
    rw [List.foldl_cons, ih, mem_remember, or_assoc]
    simp

lemma mem_foldl_batches {s : Finset β} {batches : List (List α)} {b : β} :
    b ∈ batches.foldl (fun s batch => batch.foldl (remember read) s) s ↔
      b ∈ s ∨ ∃ a ∈ batches.flatten, read a = some b := by
  rw [← List.foldl_flatten, mem_foldl_remember]

/-- What one of two prefixes contains, the longer one contains. -/
lemma exists_mem_take_max {batches : List (List α)} {m n : ℕ} {P : α → Prop} :
    (∃ a ∈ (batches.take (max m n)).flatten, P a) ↔
      (∃ a ∈ (batches.take m).flatten, P a) ∨ ∃ a ∈ (batches.take n).flatten, P a := by
  have hmono : ∀ {i j : ℕ}, i ≤ j → (∃ a ∈ (batches.take i).flatten, P a) →
      ∃ a ∈ (batches.take j).flatten, P a := by
    rintro i j h ⟨a, ha, hP⟩
    obtain ⟨batch, hbatch, ha⟩ := List.mem_flatten.mp ha
    exact ⟨a, List.mem_flatten.mpr ⟨batch, List.take_subset_take_left batches h hbatch, ha⟩, hP⟩
  rcases le_total m n with h | h
  · rw [max_eq_right h]
    exact ⟨.inr, fun h' => h'.elim (hmono h) id⟩
  · rw [max_eq_left h]
    exact ⟨.inl, fun h' => h'.elim id (hmono h)⟩

/-- **The set after any sessions** holds what the longest prefix contains. -/
theorem mem_replays {batches : List (List α)} {s : Finset β} {cuts : List ℕ} {b : β} :
    b ∈ replays read batches s cuts ↔
      b ∈ s ∨ ∃ a ∈ (batches.take (cuts.foldl max 0)).flatten, read a = some b := by
  induction cuts using List.reverseRecOn with
  | nil => simp [replays]
  | append_singleton cuts n ih =>
    rw [replays, List.foldl_append, List.foldl_cons, List.foldl_nil, mem_foldl_batches]
    rw [replays] at ih
    rw [ih, List.foldl_append, List.foldl_cons, List.foldl_nil, exists_mem_take_max, or_assoc]

end Replay
