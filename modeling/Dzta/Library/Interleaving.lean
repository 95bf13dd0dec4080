import Dzta.Library.Machine

/-!
# Interleaved programs

A program of atomic steps on a shared state (`Steps`), and a pool of any number of them of which a
schedule picks one at a time.

**`Pool.ensures_run`** is the rule of rely and guarantee.  A preorder `R` says what any step may do
to the state, and `Q` what a result means for it.  If every program keeps its own steps within `R`
while the others keep to it (`Steps.Ensures`), then every schedule does, and every result means what
it should, at any later time.
-/

/-! ## Programs

A program is a tree of atomic steps on a shared state. -/

/-- A program of atomic steps: each changes the state in one go, and what comes next depends on the
state that it found. -/
inductive Steps (σ ρ : Type) where
  | done (result : ρ)
  | step (effect : σ → σ) (next : σ → Steps σ ρ)

namespace Steps

variable {σ ρ : Type}

/-- The result and the state after a program that nothing interrupts. -/
def run : Steps σ ρ → σ → ρ × σ
  | done result, s => (result, s)
  | step effect next, s => (next s).run (effect s)

/-- From a state on, the program keeps its steps within `R` and ends with `Q`, if everything that
happens in between is within `R`. -/
def Ensures (R : σ → σ → Prop) (Q : ρ → σ → Prop) : Steps σ ρ → σ → Prop
  | done result, s => Q result s
  | step effect next, s => ∀ s', R s s' → R s' (effect s') ∧ (next s').Ensures R Q (effect s')

variable {R : σ → σ → Prop} {Q : ρ → σ → Prop}

/-- What a program ensures is not undone by others. -/
lemma Ensures.stable (htrans : ∀ a b c, R a b → R b c → R a c)
    (hstable : ∀ result s s', Q result s → R s s' → Q result s') {program : Steps σ ρ} {s s' : σ}
    (h : program.Ensures R Q s) (hR : R s s') : program.Ensures R Q s' := by
  cases program with
  | done result => exact hstable _ _ _ h hR
  | step effect next =>
    intro s'' hR'
    exact h s'' (htrans _ _ _ hR hR')

end Steps

/-! ## Pools

Programs that are at different points, and a schedule that says who is next. -/

/-- Programs on a shared state. -/
structure Pool (ι σ ρ : Type) where
  shared : σ
  programs : ι → Steps σ ρ

namespace Pool

variable {ι σ ρ : Type} [DecidableEq ι]

/-- One step of a program; one that is done stays so. -/
def advance (pool : Pool ι σ ρ) (i : ι) : Pool ι σ ρ × Unit :=
  match pool.programs i with
  | .done _ => (pool, ())
  | .step effect next =>
    (⟨effect pool.shared, Function.update pool.programs i (next pool.shared)⟩, ())

/-- The pool after a schedule. -/
def run (pool : Pool ι σ ρ) (schedule : List ι) : Pool ι σ ρ := Machine.run advance pool schedule

lemma run_append (pool : Pool ι σ ρ) (schedule more : List ι) :
    pool.run (schedule ++ more) = (pool.run schedule).run more :=
  Machine.run_append advance pool schedule more

variable {R : σ → σ → Prop} {Q : ρ → σ → Prop}

lemma ensures_advance (htrans : ∀ a b c, R a b → R b c → R a c)
    (hrefl : ∀ s, R s s) (hstable : ∀ result s s', Q result s → R s s' → Q result s')
    {pool : Pool ι σ ρ} (h : ∀ i, (pool.programs i).Ensures R Q pool.shared) (i : ι) :
    R pool.shared (pool.advance i).1.shared ∧
      ∀ j, ((pool.advance i).1.programs j).Ensures R Q (pool.advance i).1.shared := by
  rw [advance]
  split
  · exact ⟨hrefl _, h⟩
  · rename_i effect next hprogram
    have hensures := h i
    rw [hprogram] at hensures
    obtain ⟨hR, hnext⟩ := hensures pool.shared (hrefl _)
    refine ⟨hR, fun j => ?_⟩
    dsimp only
    by_cases hj : j = i
    · subst hj
      rw [Function.update_self]
      exact hnext
    · rw [Function.update_of_ne hj]
      exact (h j).stable htrans hstable hR

/-- **Rely and guarantee**: what every program of a pool ensures, the pool ensures under every
schedule. -/
theorem ensures_run (htrans : ∀ a b c, R a b → R b c → R a c)
    (hrefl : ∀ s, R s s) (hstable : ∀ result s s', Q result s → R s s' → Q result s')
    {pool : Pool ι σ ρ} (h : ∀ i, (pool.programs i).Ensures R Q pool.shared)
    (schedule : List ι) :
    R pool.shared (pool.run schedule).shared ∧
      ∀ i, ((pool.run schedule).programs i).Ensures R Q (pool.run schedule).shared := by
  refine Machine.invariant_run advance (I := fun pool' => R pool.shared pool'.shared ∧
    ∀ i, (pool'.programs i).Ensures R Q pool'.shared) ?_ ⟨hrefl _, h⟩ schedule
  rintro pool' i ⟨hreached, hensures⟩
  obtain ⟨hR, hnext⟩ := ensures_advance htrans hrefl hstable hensures i
  exact ⟨htrans _ _ _ hreached hR, hnext⟩

end Pool
