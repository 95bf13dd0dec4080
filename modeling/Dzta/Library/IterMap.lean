import Mathlib.Data.List.Nodup
import Mathlib.Data.List.Perm.Basic
import Mathlib.Data.Option.Basic

/-!
# Maps with an order of iteration

A hash map as its users meet it: lookups by key, and an iteration over the entries in an order that
nothing determines.  An `IterMap` is a map together with the order of one run, so a statement about
all of them is a statement about every order.

`Same` compares maps by their lookups and forgets the order.  Any entry may come first
(`bringForward`), and the map is the same: what depends on the first entry depends on the run.
-/

/-- A map with the order in which it is iterated. -/
structure IterMap (κ α : Type) where
  entries : List (κ × α)
  nodup : (entries.map Prod.fst).Nodup

namespace IterMap

variable {κ α : Type} [DecidableEq κ]

/-- `get`: the value of a key. -/
def get? (m : IterMap κ α) (k : κ) : Option α := (m.entries.find? fun e => e.1 = k).map Prod.snd

/-- `contains_key`: whether a key has a value. -/
def containsKey (m : IterMap κ α) (k : κ) : Bool := (m.get? k).isSome

/-- `keys`, in the order of iteration. -/
def keys (m : IterMap κ α) : List κ := m.entries.map Prod.fst

/-- `values`, in the order of iteration. -/
def values (m : IterMap κ α) : List α := m.entries.map Prod.snd

/-- `is_empty`: whether there are no entries. -/
def isEmpty (m : IterMap κ α) : Bool := m.entries.isEmpty

/-- **What is iterated over** is what is looked up. -/
lemma mem_entries_iff {m : IterMap κ α} {k : κ} {a : α} :
    (k, a) ∈ m.entries ↔ m.get? k = some a := by
  rw [get?, Option.map_eq_some_iff]
  constructor
  · intro h
    obtain ⟨e, he⟩ : ∃ e, (m.entries.find? fun e => e.1 = k) = some e :=
      Option.isSome_iff_exists.mp (List.find?_isSome.mpr ⟨(k, a), h, by simp⟩)
    have hkey : e.1 = k := by simpa using List.find?_some he
    obtain rfl := List.inj_on_of_nodup_map m.nodup (List.mem_of_find?_eq_some he) h hkey
    exact ⟨_, he, rfl⟩
  · rintro ⟨⟨k', a'⟩, he, rfl⟩
    have hkey : k' = k := by simpa using List.find?_some he
    subst hkey
    exact List.mem_of_find?_eq_some he

lemma mem_keys_iff {m : IterMap κ α} {k : κ} : k ∈ m.keys ↔ m.containsKey k = true := by
  rw [keys, List.mem_map, containsKey, Option.isSome_iff_exists]
  constructor
  · rintro ⟨⟨k', a⟩, h, rfl⟩
    exact ⟨a, mem_entries_iff.mp h⟩
  · rintro ⟨a, h⟩
    exact ⟨(k, a), mem_entries_iff.mpr h, rfl⟩

lemma mem_values_iff {m : IterMap κ α} {a : α} : a ∈ m.values ↔ ∃ k, m.get? k = some a := by
  rw [values, List.mem_map]
  constructor
  · rintro ⟨⟨k, a'⟩, h, rfl⟩
    exact ⟨k, mem_entries_iff.mp h⟩
  · rintro ⟨k, h⟩
    exact ⟨(k, a), mem_entries_iff.mpr h, rfl⟩

lemma isEmpty_eq_false_iff {m : IterMap κ α} : m.isEmpty = false ↔ ∃ k, m.containsKey k = true := by
  rw [isEmpty, List.isEmpty_eq_false_iff_exists_mem]
  constructor
  · rintro ⟨⟨k, a⟩, h⟩
    exact ⟨k, mem_keys_iff.mp (List.mem_map_of_mem h)⟩
  · rintro ⟨k, h⟩
    obtain ⟨e, he, -⟩ := List.mem_map.mp (mem_keys_iff.mpr h)
    exact ⟨e, he⟩

/-- Lookups do not depend on the order. -/
lemma get?_of_perm {m m' : IterMap κ α} (h : m.entries.Perm m'.entries) (k : κ) :
    m.get? k = m'.get? k := by
  ext a
  rw [← mem_entries_iff, ← mem_entries_iff, h.mem_iff]

/-! ## The same map in another order

Two maps with the same values at all keys, up to a relation. -/

/-- The same map, with values that are the same in the sense of `R`. -/
def Same (R : α → α → Prop) (m m' : IterMap κ α) : Prop :=
  ∀ k, Option.Rel R (m.get? k) (m'.get? k)

lemma Same.containsKey_eq {R : α → α → Prop} {m m' : IterMap κ α} (h : Same R m m') (k : κ) :
    m.containsKey k = m'.containsKey k := by
  have hsome : ∀ {x y : Option α}, Option.Rel R x y → x.isSome = y.isSome := by
    intro x y hxy
    cases hxy <;> rfl
  exact hsome (h k)

lemma Same.symm {R : α → α → Prop} (hR : ∀ a b, R a b → R b a) {m m' : IterMap κ α}
    (h : Same R m m') : Same R m' m := by
  have hflip : ∀ {x y : Option α}, Option.Rel R x y → Option.Rel R y x := by
    intro x y hxy
    cases hxy with
    | none => exact .none
    | some hab => exact .some (hR _ _ hab)
  exact fun k => hflip (h k)

lemma Same.refl {R : α → α → Prop} (hR : ∀ a, R a a) (m : IterMap κ α) : Same R m m := by
  intro k
  cases m.get? k with
  | none => exact .none
  | some a => exact .some (hR a)

/-- What one map has, the other has too. -/
lemma Same.exists_get? {R : α → α → Prop} {m m' : IterMap κ α} (h : Same R m m') {k : κ} {a : α}
    (ha : m.get? k = some a) : ∃ a', m'.get? k = some a' ∧ R a a' := by
  have hk := h k
  rw [ha] at hk
  cases ha' : m'.get? k with
  | none =>
    rw [ha'] at hk
    cases hk
  | some a' =>
    rw [ha'] at hk
    cases hk with
    | some h => exact ⟨a', rfl, h⟩

/-- The map with the entry of a key first. -/
def bringForward (m : IterMap κ α) (k : κ) : IterMap κ α where
  entries := m.entries.filter (fun e => e.1 = k) ++ m.entries.filter fun e => ! decide (e.1 = k)
  nodup := ((List.filter_append_perm _ m.entries).map Prod.fst).nodup_iff.mpr m.nodup

lemma get?_bringForward (m : IterMap κ α) (k k' : κ) : (m.bringForward k).get? k' = m.get? k' :=
  get?_of_perm (List.filter_append_perm _ m.entries) k'

/-- **Any entry may come first.** -/
lemma head?_values_bringForward {m : IterMap κ α} {k : κ} {a : α} (h : m.get? k = some a) :
    (m.bringForward k).values.head? = some a := by
  have hmem : (k, a) ∈ m.entries.filter fun e => e.1 = k :=
    List.mem_filter.mpr ⟨mem_entries_iff.mpr h, by simp⟩
  have hall : ∀ e ∈ m.entries.filter (fun e => e.1 = k), e.2 = a := by
    rintro ⟨k', a'⟩ he
    obtain ⟨hentry, hkey⟩ := List.mem_filter.mp he
    obtain rfl : k' = k := by simpa using hkey
    exact Option.some.inj ((mem_entries_iff.mp hentry).symm.trans h)
  have hvalues : (m.bringForward k).values = ((m.entries.filter fun e => e.1 = k) ++
      m.entries.filter fun e => ! decide (e.1 = k)).map Prod.snd := rfl
  rw [hvalues]
  cases hfilter : m.entries.filter (fun e => e.1 = k) with
  | nil =>
    rw [hfilter] at hmem
    cases hmem
  | cons e es =>
    rw [hfilter] at hall
    exact congrArg some (hall e List.mem_cons_self)

/-- The map with the value of a key changed. -/
def modify (m : IterMap κ α) (k : κ) (f : α → α) : IterMap κ α where
  entries := m.entries.map fun e => if e.1 = k then (e.1, f e.2) else e
  nodup := by
    rw [List.map_map]
    have hkeys : (Prod.fst ∘ fun e : κ × α => if e.1 = k then (e.1, f e.2) else e) = Prod.fst := by
      funext e
      rw [Function.comp_apply]
      split <;> rfl
    rw [hkeys]
    exact m.nodup

lemma get?_modify_self (m : IterMap κ α) (k : κ) (f : α → α) :
    (m.modify k f).get? k = (m.get? k).map f := by
  ext a
  rw [← mem_entries_iff, modify, Option.map_eq_some_iff, List.mem_map]
  constructor
  · rintro ⟨⟨k', b⟩, hmem, heq⟩
    split at heq
    · obtain ⟨rfl, rfl⟩ := Prod.mk.inj heq
      exact ⟨b, mem_entries_iff.mp hmem, rfl⟩
    · rename_i hkey
      exact absurd (Prod.mk.inj heq).1 hkey
  · rintro ⟨b, hb, rfl⟩
    exact ⟨(k, b), mem_entries_iff.mpr hb, if_pos rfl⟩

lemma get?_modify_of_ne (m : IterMap κ α) {k k' : κ} (h : k' ≠ k) (f : α → α) :
    (m.modify k f).get? k' = m.get? k' := by
  ext a
  rw [← mem_entries_iff, ← mem_entries_iff, modify, List.mem_map]
  constructor
  · rintro ⟨⟨k₀, b⟩, hmem, heq⟩
    split at heq
    · rename_i hkey
      exact absurd ((Prod.mk.inj heq).1.symm.trans hkey) h
    · rwa [← heq]
  · intro hmem
    exact ⟨(k', a), hmem, if_neg h⟩

end IterMap
