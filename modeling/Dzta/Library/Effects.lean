import Mathlib.Data.List.Basic
import Mathlib.Order.Defs.Unbundled

/-!
# Computations with effects

A computation that may fail leaves a state behind also where it fails (`EffectM`).  What a sequence
of steps did is read off step by step (`bind_eq_ok_iff`; `bind_of_unchanged` if the first step only
reads).  A computation that keeps a ghost state besides **shadows** one that does not, and so do
sequences (`Shadows.bind`).  A computation on one of two states leaves the other alone (`onFst`,
`onSnd`).  Steps that only **move** the state along a preorder make sequences that do
(`Moves.bind`).

The effects of a program on the world around it are calls to an **environment**, whose replies may
depend on every call before.  The state of such a program is the list of calls that it has made, so
what it did to the world, and in which order, is part of its result.  Two programs **run in
lockstep** if they make the same calls and have the same result up to a relation of values; this
goes through sequences (`Lockstep.bind`).
-/

/-- A computation that may fail, with the state that it leaves behind. -/
abbrev EffectM (ε σ α : Type) := ExceptT ε (StateM σ) α

namespace EffectM

variable {ε ε' σ α β : Type}

/-! ## Sequences

What a sequence returns, if its first part is known to succeed or to fail. -/

/-- A computation that does not touch the state. -/
def ofExcept (result : Except ε α) : EffectM ε σ α := fun s => (result, s)

/-- A computation with its error rewritten. -/
def mapError (f : ε → ε') (x : EffectM ε σ α) : EffectM ε' σ α := fun s =>
  ((x s).1.mapError f, (x s).2)

@[simp] lemma pure_apply (a : α) (s : σ) : (pure a : EffectM ε σ α) s = (.ok a, s) := rfl

@[simp] lemma ofExcept_apply (result : Except ε α) (s : σ) : ofExcept result s = (result, s) := rfl

lemma bind_of_eq_ok {x : EffectM ε σ α} {f : α → EffectM ε σ β} {s t : σ} {a : α}
    (h : x s = (.ok a, t)) : (x >>= f) s = f a t := by
  simp only [bind, ExceptT.bind, ExceptT.mk, StateT.bind, h]
  rfl

lemma bind_of_eq_error {x : EffectM ε σ α} {f : α → EffectM ε σ β} {s t : σ} {e : ε}
    (h : x s = (.error e, t)) : (x >>= f) s = (.error e, t) := by
  simp only [bind, ExceptT.bind, ExceptT.mk, StateT.bind, h]
  rfl

lemma bind_congr_left {x y : EffectM ε σ α} {f : α → EffectM ε σ β} {s : σ} (h : x s = y s) :
    (x >>= f) s = (y >>= f) s := by
  simp only [bind, ExceptT.bind, ExceptT.mk, StateT.bind, h]

lemma mapError_congr {x y : EffectM ε σ α} {s : σ} (h : x s = y s) (f : ε → ε') :
    mapError f x s = mapError f y s := by
  rw [mapError, mapError, h]

/-- **A sequence that succeeds**, step by step. -/
theorem bind_eq_ok_iff {x : EffectM ε σ α} {f : α → EffectM ε σ β} {s s' : σ} {b : β} :
    (x >>= f) s = (.ok b, s') ↔ ∃ a t, x s = (.ok a, t) ∧ f a t = (.ok b, s') := by
  rcases hx : x s with ⟨e | a, t⟩
  · rw [bind_of_eq_error hx]
    constructor
    · intro h
      cases h
    · rintro ⟨a, t', ha, -⟩
      cases ha
  · rw [bind_of_eq_ok hx]
    constructor
    · intro h
      exact ⟨a, t, rfl, h⟩
    · rintro ⟨a', t', ha, h⟩
      cases ha
      exact h

/-- A sequence whose first step leaves the state alone: it fails there, or goes on. -/
lemma bind_of_unchanged {x : EffectM ε σ α} {f : α → EffectM ε σ β} {s : σ}
    {P : Except ε β × σ → Prop} (hx : (x s).2 = s) (herror : ∀ e, P (.error e, s))
    (hok : ∀ a, (x s).1 = .ok a → P (f a s)) : P ((x >>= f) s) := by
  rcases hrun : x s with ⟨e | a, t⟩
  · rw [hrun] at hx
    subst hx
    rw [bind_of_eq_error hrun]
    exact herror e
  · rw [hrun] at hx hok
    subst hx
    rw [bind_of_eq_ok hrun]
    exact hok a rfl

lemma ofExcept_eq_ok_iff {result : Except ε α} {s s' : σ} {a : α} :
    ofExcept result s = (.ok a, s') ↔ result = .ok a ∧ s = s' := Prod.ext_iff

lemma ok_bind (a : α) (f : α → EffectM ε σ β) (s : σ) :
    ((ofExcept (.ok a) : EffectM ε σ α) >>= f) s = f a s := bind_of_eq_ok rfl

lemma mapError_eq_ok_iff {f : ε → ε'} {x : EffectM ε σ α} {s s' : σ} {a : α} :
    mapError f x s = (.ok a, s') ↔ x s = (.ok a, s') := by
  rcases hx : x s with ⟨e | a', t⟩
  · rw [mapError, hx]
    constructor <;> intro h <;> cases h
  · rw [mapError, hx]
    constructor <;> intro h <;> cases h <;> rfl

lemma ofExcept_bind_eq_ok_iff {result : Except ε α} {f : α → EffectM ε σ β} {s s' : σ} {b : β} :
    ((ofExcept result : EffectM ε σ α) >>= f) s = (.ok b, s') ↔
      ∃ a, result = .ok a ∧ f a s = (.ok b, s') := by
  rw [bind_eq_ok_iff]
  constructor
  · rintro ⟨a, t, hfirst, h⟩
    obtain ⟨hresult, rfl⟩ := ofExcept_eq_ok_iff.mp hfirst
    exact ⟨a, hresult, h⟩
  · rintro ⟨a, hresult, h⟩
    exact ⟨a, s, ofExcept_eq_ok_iff.mpr ⟨hresult, rfl⟩, h⟩

lemma mapError_bind_eq_ok_iff {g : ε → ε'} {x : EffectM ε σ α} {f : α → EffectM ε' σ β} {s s' : σ}
    {b : β} :
    (mapError g x >>= f) s = (.ok b, s') ↔
      ∃ a t, x s = (.ok a, t) ∧ f a t = (.ok b, s') := by
  rw [bind_eq_ok_iff]
  simp only [mapError_eq_ok_iff]

/-! ## Ghost state

A computation that does the same next to a state of its own. -/

/-- The second computation does what the first one does, next to a state of its own. -/
def Shadows {τ : Type} (x : EffectM ε σ α) (y : EffectM ε (σ × τ) α) : Prop :=
  ∀ s t, ((y (s, t)).1, (y (s, t)).2.1) = x s

lemma Shadows.bind {τ : Type} {x : EffectM ε σ α} {y : EffectM ε (σ × τ) α}
    {f : α → EffectM ε σ β} {g : α → EffectM ε (σ × τ) β} (h : Shadows x y)
    (hfg : ∀ a, Shadows (f a) (g a)) : Shadows (x >>= f) (y >>= g) := by
  intro s t
  have hx := h s t
  rcases hy : y (s, t) with ⟨e | a, s', t'⟩
  · rw [hy] at hx
    rw [bind_of_eq_error hy, bind_of_eq_error hx.symm]
  · rw [hy] at hx
    rw [bind_of_eq_ok hy, bind_of_eq_ok hx.symm]
    exact hfg a s' t'

/-! ## Two states

A computation on one part of the state leaves the other part as it is. -/

section Pair

variable {τ : Type}

/-- A computation on the first of two states. -/
def onFst (x : EffectM ε σ α) : EffectM ε (σ × τ) α := fun s => ((x s.1).1, (x s.1).2, s.2)

/-- A computation on the second of two states. -/
def onSnd (x : EffectM ε τ α) : EffectM ε (σ × τ) α := fun s => ((x s.2).1, s.1, (x s.2).2)

lemma onFst_eq_iff {x : EffectM ε σ α} {s s' : σ} {t t' : τ} {result : Except ε α} :
    onFst x (s, t) = (result, s', t') ↔ x s = (result, s') ∧ t = t' := by
  rw [onFst, Prod.mk.injEq, Prod.mk.injEq, Prod.ext_iff, and_assoc]

lemma onFst_bind (x : EffectM ε σ α) (f : α → EffectM ε σ β) :
    (onFst (x >>= f) : EffectM ε (σ × τ) β) = onFst x >>= fun a => onFst (f a) := by
  funext s
  rcases hx : x s.1 with ⟨e | a, t⟩
  · rw [bind_of_eq_error (onFst_eq_iff.mpr ⟨hx, rfl⟩)]
    exact onFst_eq_iff.mpr ⟨bind_of_eq_error hx, rfl⟩
  · rw [bind_of_eq_ok (onFst_eq_iff.mpr ⟨hx, rfl⟩)]
    exact onFst_eq_iff.mpr ⟨bind_of_eq_ok hx, rfl⟩

lemma onSnd_eq_iff {x : EffectM ε τ α} {s s' : σ} {t t' : τ} {result : Except ε α} :
    onSnd x (s, t) = (result, s', t') ↔ x t = (result, t') ∧ s = s' := by
  rw [onSnd, Prod.mk.injEq, Prod.mk.injEq, Prod.ext_iff]
  constructor
  · rintro ⟨hresult, hs, ht⟩
    exact ⟨⟨hresult, ht⟩, hs⟩
  · rintro ⟨⟨hresult, ht⟩, hs⟩
    exact ⟨hresult, hs, ht⟩

end Pair

/-! ## Moves

Where each part of a computation only moves along a relation, so does the whole. -/

/-- A computation that takes every state to one that is related to it. -/
def Moves (R : σ → σ → Prop) (x : EffectM ε σ α) : Prop := ∀ s, R s (x s).2

section Moves

variable {R : σ → σ → Prop}

lemma Moves.ofExcept [Std.Refl R] (result : Except ε α) :
    Moves R (ofExcept result : EffectM ε σ α) := fun s => refl_of R s

lemma Moves.pure [Std.Refl R] (a : α) : Moves R (pure a : EffectM ε σ α) := fun s => refl_of R s

lemma Moves.mapError {x : EffectM ε σ α} (h : Moves R x) (f : ε → ε') : Moves R (mapError f x) := h

lemma Moves.bind [IsTrans σ R] {x : EffectM ε σ α} {f : α → EffectM ε σ β} (hx : Moves R x)
    (hf : ∀ a, Moves R (f a)) : Moves R (x >>= f) := by
  intro s
  have hfirst := hx s
  rcases hrun : x s with ⟨e | a, t⟩
  · rw [hrun] at hfirst
    rwa [bind_of_eq_error hrun]
  · rw [hrun] at hfirst
    rw [bind_of_eq_ok hrun]
    exact trans_of R hfirst (hf a t)

end Moves

end EffectM

/-! ## Environments

The state is the list of calls so far, and the environment answers each call from it. -/

/-- What answers the calls of a program. -/
structure Environment (Call : Type) (Reply : Call → Type) where
  reply : List Call → (c : Call) → Reply c

namespace Environment

variable {ε Call : Type} {Reply : Call → Type} (env : Environment Call Reply)

/-- A call: the reply to it after the calls so far. -/
def call (c : Call) : EffectM ε (List Call) (Reply c) := fun calls =>
  (.ok (env.reply calls c), calls ++ [c])

lemma call_bind {β : Type} (c : Call) (f : Reply c → EffectM ε (List Call) β)
    (calls : List Call) :
    (env.call c >>= f) calls = f (env.reply calls c) (calls ++ [c]) :=
  EffectM.bind_of_eq_ok rfl

end Environment

/-! ## Two computations in lockstep

Two computations that make the same calls and fail alike, whatever they return otherwise. -/

namespace EffectM

variable {ε ε' Call α β γ δ : Type} {Reply : Call → Type} {P : Call → Prop} {R : α → β → Prop}

/-- Results that are the same error, or values in a relation. -/
def SameResult (R : α → β → Prop) : Except ε α → Except ε β → Prop
  | .ok a, .ok b => R a b
  | .error e, .error e' => e = e'
  | _, _ => False

/-- Two computations that make the same calls, of one kind, and have the same result up to a
relation of values. -/
def Lockstep (P : Call → Prop) (R : α → β → Prop) (x : EffectM ε (List Call) α)
    (y : EffectM ε (List Call) β) : Prop :=
  ∀ calls, ∃ new, (∀ c ∈ new, P c) ∧ (x calls).2 = calls ++ new ∧ (y calls).2 = calls ++ new ∧
    SameResult R (x calls).1 (y calls).1

lemma Lockstep.ofExcept {x : Except ε α} {y : Except ε β} (h : SameResult R x y) :
    Lockstep P R (ofExcept x : EffectM ε (List Call) α) (ofExcept y) := by
  intro calls
  exact ⟨[], by simp, (List.append_nil calls).symm, (List.append_nil calls).symm, h⟩

lemma Lockstep.pure {a : α} {b : β} (h : R a b) :
    Lockstep P R (pure a : EffectM ε (List Call) α) (pure b) :=
  Lockstep.ofExcept h

/-- A call that both environments answer alike. -/
lemma Lockstep.call {env env' : Environment Call Reply} {c : Call} (h : P c)
    (hreply : ∀ calls, env.reply calls c = env'.reply calls c) :
    Lockstep P Eq (env.call c : EffectM ε (List Call) (Reply c)) (env'.call c) := by
  intro calls
  exact ⟨[c], by simpa using h, rfl, rfl, hreply calls⟩

lemma Lockstep.mapError {x : EffectM ε (List Call) α} {y : EffectM ε (List Call) β}
    (h : Lockstep P R x y) (f : ε → ε') :
    Lockstep P R (mapError f x) (mapError f y) := by
  intro calls
  obtain ⟨new, hnew, hx, hy, hresult⟩ := h calls
  refine ⟨new, hnew, hx, hy, ?_⟩
  rcases hxr : (x calls).1 with e | a <;> rcases hyr : (y calls).1 with e' | b <;>
    simp only [EffectM.mapError, hxr, hyr, Except.mapError, SameResult] at hresult ⊢
  · exact congrArg f hresult
  · exact hresult

/-- **Sequences run in lockstep** if their parts do. -/
theorem Lockstep.bind {S : γ → δ → Prop} {x : EffectM ε (List Call) α}
    {y : EffectM ε (List Call) β} {f : α → EffectM ε (List Call) γ}
    {g : β → EffectM ε (List Call) δ} (hxy : Lockstep P R x y)
    (hfg : ∀ a b, R a b → Lockstep P S (f a) (g b)) : Lockstep P S (x >>= f) (y >>= g) := by
  intro calls
  obtain ⟨new, hnew, hx, hy, hresult⟩ := hxy calls
  rcases hxr : x calls with ⟨e | a, t⟩ <;> rcases hyr : y calls with ⟨e' | b, t'⟩ <;>
    rw [hxr, hyr] at hresult <;> rw [hxr] at hx <;> rw [hyr] at hy
  · rw [bind_of_eq_error hxr, bind_of_eq_error hyr]
    exact ⟨new, hnew, hx, hy, hresult⟩
  · cases hresult
  · cases hresult
  · obtain rfl : t = calls ++ new := hx
    obtain rfl : t' = calls ++ new := hy
    obtain ⟨new', hnew', hf, hg, hresult'⟩ := hfg a b hresult (calls ++ new)
    rw [bind_of_eq_ok hxr, bind_of_eq_ok hyr]
    refine ⟨new ++ new', ?_, by rw [hf, List.append_assoc], by rw [hg, List.append_assoc],
      hresult'⟩
    intro c hc
    rcases List.mem_append.mp hc with hc | hc
    · exact hnew c hc
    · exact hnew' c hc

/-- A first step with the same result on both sides. -/
lemma Lockstep.bind_of_eq {x y : EffectM ε (List Call) α} {f : α → EffectM ε (List Call) β}
    {S : β → γ → Prop} {g : α → EffectM ε (List Call) γ} (hxy : Lockstep P Eq x y)
    (hfg : ∀ a, Lockstep P S (f a) (g a)) : Lockstep P S (x >>= f) (y >>= g) := by
  refine hxy.bind ?_
  rintro a _ rfl
  exact hfg a

lemma Lockstep.same (result : Except ε α) :
    Lockstep P Eq (EffectM.ofExcept result : EffectM ε (List Call) α)
      (EffectM.ofExcept result) := by
  refine Lockstep.ofExcept ?_
  cases result <;> rfl

lemma Lockstep.mono {Q : Call → Prop} {S : α → β → Prop} {x : EffectM ε (List Call) α}
    {y : EffectM ε (List Call) β} (h : Lockstep P R x y) (hPQ : ∀ c, P c → Q c)
    (hRS : ∀ a b, R a b → S a b) : Lockstep Q S x y := by
  intro calls
  obtain ⟨new, hnew, hx, hy, hresult⟩ := h calls
  refine ⟨new, fun c hc => hPQ c (hnew c hc), hx, hy, ?_⟩
  rcases hxr : (x calls).1 with e | a <;> rcases hyr : (y calls).1 with e' | b <;>
    rw [hxr, hyr] at hresult
  · exact hresult
  · cases hresult
  · cases hresult
  · exact hRS a b hresult

lemma Lockstep.eq_error {x : EffectM ε (List Call) α} {y : EffectM ε (List Call) β}
    (h : Lockstep P R x y) {calls calls' : List Call} {e : ε}
    (hx : x calls = (.error e, calls')) : y calls = (.error e, calls') := by
  obtain ⟨new, -, hxs, hys, hresult⟩ := h calls
  rcases hy : y calls with ⟨e' | b, t'⟩ <;> rw [hx, hy] at hresult <;> rw [hx] at hxs <;>
    rw [hy] at hys
  · obtain rfl : calls' = calls ++ new := hxs
    obtain rfl : t' = calls ++ new := hys
    obtain rfl : e = e' := hresult
    rfl
  · cases hresult

lemma Lockstep.exists_append {x : EffectM ε (List Call) α} {y : EffectM ε (List Call) β}
    (h : Lockstep P R x y) {calls calls' : List Call} {result : Except ε α}
    (hx : x calls = (result, calls')) : ∃ new, calls' = calls ++ new ∧ ∀ c ∈ new, P c := by
  obtain ⟨new, hnew, hxs, -, -⟩ := h calls
  rw [hx] at hxs
  exact ⟨new, hxs, hnew⟩

end EffectM
