import Mathlib.Data.List.Basic

/-!
# Machines with outputs

A machine is a function `step : σ → α → σ × ω`: in a state it takes an action to the next state and
an output.  A run is a list of actions; `trace` pairs every action of a run with its output, and
`accepted` keeps the actions whose output says that they took effect.

**`simulation_accepted`** is the induction that every refinement proof over runs shares: a relation
between states of the machine and states of an abstract model that one step keeps is kept by whole
runs, where the abstract model sees the accepted actions only.  The last section is about folds over
such a list that are observed through a view: actions the view does not see can be dropped, and the
last one it sees decides.
-/

namespace Machine

variable {σ α ω τ β : Type*} (step : σ → α → σ × ω)

/-! ## Runs

A machine that is given inputs, with the state after them and the outputs on the way. -/

/-- The state after a run. -/
def run (s : σ) : List α → σ
  | [] => s
  | a :: as => run (step s a).1 as

/-- The actions of a run with their outputs. -/
def trace (s : σ) : List α → List (α × ω)
  | [] => []
  | a :: as => (a, (step s a).2) :: trace (step s a).1 as

/-- The actions of a run whose output is accepting. -/
def accepted (ok : ω → Bool) (s : σ) (as : List α) : List α :=
  ((trace step s as).filter fun e => ok e.2).map Prod.fst

@[simp] lemma run_nil (s : σ) : run step s [] = s := rfl

@[simp] lemma run_cons (s : σ) (a : α) (as : List α) :
    run step s (a :: as) = run step (step s a).1 as := rfl

@[simp] lemma trace_nil (s : σ) : trace step s [] = [] := rfl

@[simp] lemma trace_cons (s : σ) (a : α) (as : List α) :
    trace step s (a :: as) = (a, (step s a).2) :: trace step (step s a).1 as := rfl

@[simp] lemma accepted_nil (ok : ω → Bool) (s : σ) : accepted step ok s [] = [] := rfl

lemma accepted_cons (ok : ω → Bool) (s : σ) (a : α) (as : List α) :
    accepted step ok s (a :: as) =
      if ok (step s a).2 then a :: accepted step ok (step s a).1 as
      else accepted step ok (step s a).1 as := by
  cases h : ok (step s a).2 <;> simp [accepted, h]

lemma run_append (s : σ) (as bs : List α) :
    run step s (as ++ bs) = run step (run step s as) bs := by
  induction as generalizing s with
  | nil => rfl
  | cons a as ih => exact ih _

lemma trace_append (s : σ) (as bs : List α) :
    trace step s (as ++ bs) = trace step s as ++ trace step (run step s as) bs := by
  induction as generalizing s with
  | nil => rfl
  | cons a as ih => simp only [List.cons_append, trace_cons, ih, run_cons]

lemma accepted_append (ok : ω → Bool) (s : σ) (as bs : List α) :
    accepted step ok s (as ++ bs) =
      accepted step ok s as ++ accepted step ok (run step s as) bs := by
  simp only [accepted, trace_append, List.filter_append, List.map_append]

/-- A run of actions that leave the state alone. -/
lemma run_of_fixed {step : σ → α → σ × ω} {s : σ} {f : α → ω} (h : ∀ a, step s a = (s, f a))
    (as : List α) : run step s as = s ∧ trace step s as = as.map fun a => (a, f a) := by
  induction as with
  | nil => exact ⟨rfl, rfl⟩
  | cons a as ih =>
    rw [run_cons, trace_cons, h, List.map_cons, ih.2]
    exact ⟨ih.1, rfl⟩

lemma mem_of_mem_accepted {ok : ω → Bool} {s : σ} {as : List α} {a : α}
    (h : a ∈ accepted step ok s as) : a ∈ as := by
  induction as generalizing s with
  | nil => exact absurd h List.not_mem_nil
  | cons b as ih =>
    rw [accepted_cons] at h
    split at h
    · rcases List.mem_cons.mp h with rfl | h
      · exact List.mem_cons_self
      · exact List.mem_cons_of_mem _ (ih h)
    · exact List.mem_cons_of_mem _ (ih h)

lemma mem_of_mem_trace {s : σ} {as : List α} {e : α × ω} (h : e ∈ trace step s as) : e.1 ∈ as := by
  induction as generalizing s with
  | nil => exact absurd h List.not_mem_nil
  | cons a as ih =>
    rcases List.mem_cons.mp h with rfl | h
    · exact List.mem_cons_self
    · exact List.mem_cons_of_mem _ (ih h)

/-- A place in the trace of a run is a place in the run. -/
lemma exists_of_trace_eq {s : σ} {as : List α} {pre post : List (α × ω)} {e : α × ω}
    (h : trace step s as = pre ++ e :: post) :
    ∃ as₁ as₂, as = as₁ ++ e.1 :: as₂ ∧ trace step s as₁ = pre ∧
      e.2 = (step (run step s as₁) e.1).2 ∧
      trace step (step (run step s as₁) e.1).1 as₂ = post := by
  induction as generalizing s pre with
  | nil => simp at h
  | cons a as ih =>
    cases pre with
    | nil =>
      obtain ⟨rfl, rfl⟩ := List.cons.inj h
      exact ⟨[], as, rfl, rfl, rfl, rfl⟩
    | cons p pre =>
      obtain ⟨rfl, htail⟩ := List.cons.inj h
      obtain ⟨as₁, as₂, rfl, rfl, hout, rfl⟩ := ih htail
      exact ⟨a :: as₁, as₂, rfl, rfl, hout, rfl⟩

/-- A place in the accepted actions of a run is a place in the run. -/
lemma exists_of_accepted_eq {ok : ω → Bool} {s : σ} {as : List α} {pre post : List α} {a : α}
    (h : accepted step ok s as = pre ++ a :: post) :
    ∃ as₁ as₂, as = as₁ ++ a :: as₂ ∧ accepted step ok s as₁ = pre ∧
      ok (step (run step s as₁) a).2 = true ∧
      accepted step ok (step (run step s as₁) a).1 as₂ = post := by
  induction as generalizing s pre with
  | nil => simp at h
  | cons b as ih =>
    rw [accepted_cons] at h
    by_cases hb : ok (step s b).2
    · rw [if_pos hb] at h
      cases pre with
      | nil =>
        obtain ⟨rfl, rfl⟩ := List.cons.inj h
        exact ⟨[], as, rfl, rfl, hb, rfl⟩
      | cons p pre =>
        obtain ⟨rfl, htail⟩ := List.cons.inj h
        obtain ⟨as₁, as₂, rfl, rfl, hok, rfl⟩ := ih htail
        exact ⟨b :: as₁, as₂, rfl, by rw [accepted_cons, if_pos hb], hok, rfl⟩
    · rw [if_neg hb] at h
      obtain ⟨as₁, as₂, rfl, rfl, hok, rfl⟩ := ih h
      exact ⟨b :: as₁, as₂, rfl, by rw [accepted_cons, if_neg hb], hok, rfl⟩

/-! ## Invariants and simulations

What one step keeps, a run keeps. -/

/-- A property that every step keeps holds after every run. -/
theorem invariant_run {I : σ → Prop} (hstep : ∀ s a, I s → I (step s a).1) {s : σ} (hs : I s)
    (as : List α) : I (run step s as) := by
  induction as generalizing s with
  | nil => exact hs
  | cons a as ih => exact ih (hstep s a hs)

/-- **The simulation of a machine that rejects actions**: the abstract model folds over the
accepted ones. -/
theorem simulation_accepted (ok : ω → Bool) (R : σ → τ → Prop) (next : τ → α → τ)
    (haccept : ∀ s t a, R s t → ok (step s a).2 = true → R (step s a).1 (next t a))
    (hreject : ∀ s t a, R s t → ok (step s a).2 = false → R (step s a).1 t)
    {s : σ} {t : τ} (h : R s t) (as : List α) :
    R (run step s as) ((accepted step ok s as).foldl next t) := by
  induction as generalizing s t with
  | nil => exact h
  | cons a as ih =>
    rw [accepted_cons]
    cases hok : ok (step s a).2 with
    | true => exact ih (haccept s t a h hok)
    | false => exact ih (hreject s t a h hok)

/-! ## Folds seen through a view

Only the steps that change the view count, and the last of them most. -/

variable (next : τ → α → τ) (view : τ → β)

/-- Actions that leave the view as it is leave it so together. -/
lemma view_foldl_of_frame {as : List α} (h : ∀ a ∈ as, ∀ t, view (next t a) = view t) (t : τ) :
    view (as.foldl next t) = view t := by
  induction as generalizing t with
  | nil => rfl
  | cons a as ih =>
    rw [List.foldl_cons, ih fun b hb => h b (List.mem_cons_of_mem _ hb),
      h a List.mem_cons_self]

/-- The last action the view sees decides it. -/
lemma view_foldl_append_cons {pre post : List α} {a : α}
    (h : ∀ b ∈ post, ∀ t, view (next t b) = view t) (t : τ) :
    view ((pre ++ a :: post).foldl next t) = view (next (pre.foldl next t) a) := by
  rw [List.foldl_append, List.foldl_cons, view_foldl_of_frame next view h]

/-- The last of the actions that have a property. -/
lemma exists_last {p : α → Prop} {as : List α} {a : α} (ha : a ∈ as) (hp : p a) :
    ∃ pre b post, as = pre ++ b :: post ∧ p b ∧ ∀ c ∈ post, ¬ p c := by
  induction as generalizing a with
  | nil => cases ha
  | cons b as ih =>
    by_cases hlater : ∃ c ∈ as, p c
    · obtain ⟨c, hc, hpc⟩ := hlater
      obtain ⟨pre, d, post, rfl, hd, hpost⟩ := ih hc hpc
      exact ⟨b :: pre, d, post, rfl, hd, hpost⟩
    · rcases List.mem_cons.mp ha with rfl | ha
      · exact ⟨[], a, as, rfl, hp, fun c hc hpc => hlater ⟨c, hc, hpc⟩⟩
      · exact absurd ⟨a, ha, hp⟩ hlater

/-- **Actions the view does not see can be dropped**: the view after a fold is the view after the
fold over the actions that concern it. -/
theorem view_foldl_filter (concerns : α → Bool)
    (hcongr : ∀ a t t', view t = view t' → view (next t a) = view (next t' a))
    (hframe : ∀ a t, concerns a = false → view (next t a) = view t)
    (as : List α) {t t' : τ} (ht : view t = view t') :
    view (as.foldl next t) = view ((as.filter concerns).foldl next t') := by
  induction as generalizing t t' with
  | nil => exact ht
  | cons a as ih =>
    cases ha : concerns a with
    | true =>
      rw [List.filter_cons_of_pos ha, List.foldl_cons, List.foldl_cons]
      exact ih (hcongr a t t' ht)
    | false =>
      rw [List.filter_cons_of_neg (by simp [ha]), List.foldl_cons]
      exact ih ((hframe a t ha).trans ht)

end Machine
