import Mathlib.Data.Nat.Find
import Mathlib.Tactic.Ring

/-!
# Loops that poll

A loop that asks the world in rounds.  A round ends the loop with a result, either because it is
time to stop or because there is an answer; after a round that does not, the loop pauses and goes
on with the next one.  Nothing makes such a loop end, so it runs on fuel.

**`Loop.run_eq_some_iff`** says what a run returns: the result of the first round that has one.  How
much fuel is needed can be read off a clock that no round turns back and that every pause advances
(`Loop.now_before`, `Loop.isSome_run_of_deadline`).  What rounds and pauses keep, the loop keeps
(`Loop.before_of_invariant`).
-/

namespace Polling

/-- A clock, and pauses that last at least as long as they are meant to. -/
structure Clock (σ : Type) where
  now : σ → ℕ
  sleep : ℕ → σ → σ
  sleep_le : ∀ d s, now s + d ≤ now (sleep d s)

/-- A loop, whose rounds are counted from 0: when it stops before it asks, what an answer is, and
what happens between two rounds. -/
structure Loop (σ β : Type) where
  stop : ℕ → σ → Option β
  poll : ℕ → σ → Option β × σ
  pause : ℕ → σ → σ

namespace Loop

variable {σ β : Type} (loop : Loop σ β)

/-- One round. -/
def round (k : ℕ) (s : σ) : Option β × σ :=
  match loop.stop k s with
  | some b => (some b, s)
  | none => loop.poll k s

/-- The loop from the `k`-th round on; none if the fuel runs out. -/
def run : (fuel k : ℕ) → σ → Option (β × σ)
  | 0, _, _ => none
  | fuel + 1, k, s =>
    match loop.round k s with
    | (some b, s') => some (b, s')
    | (none, s') => run fuel (k + 1) (loop.pause k s')

/-- The state before the `n`-th round, if none before it ends the loop. -/
def before (s : σ) : ℕ → σ
  | 0 => s
  | n + 1 => loop.pause n (loop.round n (before s n)).2

/-- None of the first `n` rounds ends the loop. -/
def OpenUntil (s : σ) (n : ℕ) : Prop := ∀ j < n, (loop.round j (loop.before s j)).1 = none

variable {loop} {s : σ}

lemma round_of_stop {k : ℕ} {b : β} (h : loop.stop k s = some b) :
    loop.round k s = (some b, s) := by
  rw [round, h]

lemma round_of_not_stop {k : ℕ} (h : loop.stop k s = none) : loop.round k s = loop.poll k s := by
  rw [round, h]

lemma run_succ (fuel k : ℕ) (s : σ) :
    loop.run (fuel + 1) k s =
      match loop.round k s with
      | (some b, s') => some (b, s')
      | (none, s') => loop.run fuel (k + 1) (loop.pause k s') := rfl

lemma OpenUntil.succ {n : ℕ} (h : loop.OpenUntil s n)
    (hn : (loop.round n (loop.before s n)).1 = none) : loop.OpenUntil s (n + 1) := by
  intro j hj
  rcases Nat.lt_succ_iff_lt_or_eq.mp hj with hj | rfl
  · exact h j hj
  · exact hn

/-- Rounds that end nothing only use up fuel. -/
lemma run_of_openUntil {n : ℕ} (h : loop.OpenUntil s n) (fuel : ℕ) :
    loop.run (fuel + n) 0 s = loop.run fuel n (loop.before s n) := by
  induction n generalizing fuel with
  | zero => rfl
  | succ n ih =>
    have hn := h n (Nat.lt_succ_self n)
    rw [show fuel + (n + 1) = fuel + 1 + n by omega, ih (fun j hj => h j (Nat.lt_succ_of_lt hj)),
      run_succ]
    rcases hround : loop.round n (loop.before s n) with ⟨b, s'⟩
    rw [hround] at hn
    obtain rfl : b = none := hn
    rw [before, hround]

/-- A loop that has come to a round ends in it or in a later one. -/
lemma exists_of_run {n fuel : ℕ} (h : loop.OpenUntil s n) {b : β} {s' : σ}
    (hrun : loop.run fuel n (loop.before s n) = some (b, s')) :
    ∃ m, m < n + fuel ∧ loop.OpenUntil s m ∧ loop.round m (loop.before s m) = (some b, s') := by
  induction fuel generalizing n with
  | zero => cases hrun
  | succ fuel ih =>
    rw [run_succ] at hrun
    rcases hround : loop.round n (loop.before s n) with ⟨_ | b', t⟩
    · rw [hround] at hrun
      have hbefore : loop.before s (n + 1) = loop.pause n t := by rw [before, hround]
      obtain ⟨m, hm, hopen, hend⟩ :=
        ih (h.succ (by rw [hround])) (by rw [hbefore]; exact hrun)
      exact ⟨m, by omega, hopen, hend⟩
    · rw [hround] at hrun
      obtain ⟨rfl, rfl⟩ := Prod.mk.inj (Option.some.inj hrun)
      exact ⟨n, by omega, h, hround⟩

/-- **What a loop returns**: the result of the first round that has one. -/
theorem run_eq_some_iff {fuel : ℕ} {b : β} {s' : σ} :
    loop.run fuel 0 s = some (b, s') ↔
      ∃ n < fuel, loop.OpenUntil s n ∧ loop.round n (loop.before s n) = (some b, s') := by
  constructor
  · intro h
    obtain ⟨n, hn, hopen, hend⟩ :=
      exists_of_run (n := 0) (fun j hj => absurd hj (Nat.not_lt_zero j)) h
    exact ⟨n, by omega, hopen, hend⟩
  · rintro ⟨n, hn, hopen, hend⟩
    obtain ⟨rest, rfl⟩ := Nat.exists_eq_add_of_lt hn
    rw [show n + rest + 1 = rest + 1 + n by omega, run_of_openUntil hopen, run_succ, hend]

/-- A loop with enough fuel for a round that ends it returns. -/
lemma isSome_run {fuel n : ℕ} (hn : n < fuel)
    (hend : (loop.round n (loop.before s n)).1.isSome = true) : (loop.run fuel 0 s).isSome := by
  -- the first round that ends the loop comes no later
  classical
  have hex : ∃ m, (loop.round m (loop.before s m)).1.isSome = true := ⟨n, hend⟩
  obtain ⟨b, hb⟩ := Option.isSome_iff_exists.mp (Nat.find_spec hex)
  have hopen : loop.OpenUntil s (Nat.find hex) := fun j hj =>
    Option.not_isSome_iff_eq_none.mp (Nat.find_min hex hj)
  have hround : loop.round (Nat.find hex) (loop.before s (Nat.find hex)) =
      (some b, (loop.round (Nat.find hex) (loop.before s (Nat.find hex))).2) := Prod.ext hb rfl
  exact Option.isSome_iff_exists.mpr ⟨_, run_eq_some_iff.mpr
    ⟨Nat.find hex, (Nat.find_min' hex hend).trans_lt hn, hopen, hround⟩⟩

/-- **The invariant rule**: what rounds and pauses keep holds before every round. -/
theorem before_of_invariant {I : σ → Prop} (hround : ∀ k s, I s → I (loop.round k s).2)
    (hpause : ∀ k s, I s → I (loop.pause k s)) (hs : I s) (n : ℕ) : I (loop.before s n) := by
  induction n with
  | zero => exact hs
  | succ n ih => exact hpause _ _ (hround _ _ ih)

/-- **Time passes from round to round.** -/
theorem now_before {now : σ → ℕ} {interval : ℕ}
    (hround : ∀ k s, now s ≤ now (loop.round k s).2)
    (hpause : ∀ k s, now s + interval ≤ now (loop.pause k s)) (s : σ) (n : ℕ) :
    now s + n * interval ≤ now (loop.before s n) := by
  induction n with
  | zero => simp [before]
  | succ n ih =>
    calc now s + (n + 1) * interval = now s + n * interval + interval := by ring
      _ ≤ now (loop.before s n) + interval := Nat.add_le_add_right ih _
      _ ≤ now (loop.round n (loop.before s n)).2 + interval :=
        Nat.add_le_add_right (hround _ _) _
      _ ≤ now (loop.before s (n + 1)) := hpause _ _

/-- **A loop with a deadline ends**: one that stops when more than `window` has passed does so by
the round before which that many intervals have. -/
theorem isSome_run_of_deadline {now : σ → ℕ} {interval window n : ℕ}
    (hround : ∀ k s, now s ≤ now (loop.round k s).2)
    (hpause : ∀ k s, now s + interval ≤ now (loop.pause k s)) (s : σ)
    (hstop : ∀ t, window < now t - now s → (loop.stop n t).isSome = true)
    (hn : window < n * interval) : (loop.run (n + 1) 0 s).isSome := by
  refine isSome_run (Nat.lt_succ_self n) ?_
  have hnow := now_before hround hpause s n
  obtain ⟨b, hb⟩ := Option.isSome_iff_exists.mp (hstop (loop.before s n) (by omega))
  rw [round_of_stop hb]
  rfl

end Loop

end Polling
