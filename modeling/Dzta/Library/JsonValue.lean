import Dzta.Library.SerdeJson
import Mathlib.Data.List.Forall2

/-!
# JSON values

Two documents are the same value if they agree member by member, whatever the order in which the
members are written (`Json.Same`).  When two literals are the same number is a parameter: a program
that reads numbers as doubles tells fewer of them apart than one that keeps the literals.

Members are taken out of an object with `without` and rewritten in place with `mapMember`; the
lookups of the result are those of the object, except for the one name.  Sorting the members of a
document with distinct names loses nothing (**`same_of_canonical_eq`**), so a canonical form tells
all values apart.  In a plain document the lookups of a derived `Deserialize` are those of a reader
of values (`requiredField_of_lastMember`).
-/

namespace Json

/-! ## Sameness

Two documents say the same if they differ in the order of members alone. -/

section Same

variable (sameNumber : JsonNumber → JsonNumber → Prop)

/-- The same value. -/
inductive Same : Json → Json → Prop
  | null : Same null null
  | bool (b : Bool) : Same (.bool b) (.bool b)
  | num {m n : JsonNumber} (h : sameNumber m n) : Same (.num m) (.num n)
  | str (s : String) : Same (.str s) (.str s)
  | arr {vs ws : List Json} (h : List.Forall₂ Same vs ws) : Same (.arr vs) (.arr ws)
  | obj {ms ns : List (String × Json)}
      (h : ∀ k, Option.Rel Same (lastMember k ms) (lastMember k ns)) : Same (.obj ms) (.obj ns)

variable {sameNumber}

/-- What is the same as an object is an object. -/
lemma exists_of_same_obj {v : Json} {ns : List (String × Json)} (h : Same sameNumber v (.obj ns)) :
    ∃ ms, v = .obj ms ∧ ∀ k, Option.Rel (Same sameNumber) (lastMember k ms) (lastMember k ns) := by
  cases h with
  | obj h => exact ⟨_, rfl, h⟩

lemma same_obj_iff {ms ns : List (String × Json)} : Same sameNumber (.obj ms) (.obj ns) ↔
    ∀ k, Option.Rel (Same sameNumber) (lastMember k ms) (lastMember k ns) := by
  constructor
  · intro h
    cases h with
    | obj h => exact h
  · exact .obj

end Same

/-! ## Members

The last member of a name is the one that counts. -/

/-- A document without the members of a name. -/
def without (name : String) : Json → Json
  | obj ms => .obj (ms.filter fun m => m.1 ≠ name)
  | v => v

/-- A document with the members of a name rewritten. -/
def mapMember (name : String) (f : Json → Json) : Json → Json
  | obj ms => .obj (ms.map fun m => if m.1 = name then (m.1, f m.2) else m)
  | v => v

lemma lastMember_filter_of_ne {k name : String} (h : k ≠ name) (ms : List (String × Json)) :
    lastMember k (ms.filter fun m => m.1 ≠ name) = lastMember k ms := by
  induction ms with
  | nil => rfl
  | cons m ms ih =>
    by_cases hm : m.1 = name
    · have hk : m.1 ≠ k := fun hk => h (hk.symm.trans hm)
      rw [List.filter_cons_of_neg (by simpa using hm), ih, lastMember_cons, if_neg hk,
        Option.or_none]
    · rw [List.filter_cons_of_pos (by simpa using hm), lastMember_cons, lastMember_cons, ih]

lemma lastMember_map_self (name : String) (f : Json → Json) (ms : List (String × Json)) :
    lastMember name (ms.map fun m => if m.1 = name then (m.1, f m.2) else m) =
      (lastMember name ms).map f := by
  induction ms with
  | nil => rfl
  | cons m ms ih =>
    rw [List.map_cons, lastMember_cons, lastMember_cons, ih]
    by_cases hm : m.1 = name
    · rw [if_pos hm, if_pos hm, if_pos hm]
      cases lastMember name ms <;> rfl
    · rw [if_neg hm, if_neg hm, Option.or_none, Option.or_none]

lemma lastMember_map_of_ne {k name : String} (h : k ≠ name) (f : Json → Json)
    (ms : List (String × Json)) :
    lastMember k (ms.map fun m => if m.1 = name then (m.1, f m.2) else m) = lastMember k ms := by
  induction ms with
  | nil => rfl
  | cons m ms ih =>
    rw [List.map_cons, lastMember_cons, lastMember_cons, ih]
    by_cases hm : m.1 = name
    · have hk : m.1 ≠ k := fun hk => h (hk.symm.trans hm)
      rw [if_pos hm, if_neg hk, if_neg hk]
    · rw [if_neg hm]

/-! ## Canonical forms

Documents with one canonical form say the same. -/

mutual
/-- No object has a name twice. -/
def distinct : Json → Bool
  | arr vs => distinctElems vs
  | obj ms => decide (ms.map Prod.fst).Nodup && distinctMembers ms
  | _ => true

/-- No object in the elements has a name twice. -/
def distinctElems : List Json → Bool
  | [] => true
  | v :: vs => distinct v && distinctElems vs

/-- No object in the members has a name twice. -/
def distinctMembers : List (String × Json) → Bool
  | [] => true
  | (_, v) :: ms => distinct v && distinctMembers ms
end

lemma insertSorted_perm (m : String × Json) (ms : List (String × Json)) :
    (insertSorted m ms).Perm (m :: ms) := by
  induction ms with
  | nil => exact .refl _
  | cons m' ms ih =>
    rw [insertSorted]
    split
    · exact .refl _
    · exact (ih.cons m').trans (.swap m m' ms)

lemma canonicalMembers_perm (ms : List (String × Json)) :
    (canonicalMembers ms).Perm (ms.map fun m => (m.1, canonical m.2)) := by
  induction ms with
  | nil => exact .refl _
  | cons m ms ih =>
    obtain ⟨k, v⟩ := m
    rw [canonicalMembers]
    exact (insertSorted_perm _ _).trans (ih.cons _)

lemma mem_of_lastMember {k : String} {v : Json} {ms : List (String × Json)}
    (h : lastMember k ms = some v) : (k, v) ∈ ms := by
  induction ms with
  | nil => cases h
  | cons m ms ih =>
    rw [lastMember_cons, Option.or_eq_some_iff] at h
    rcases h with h | ⟨-, h⟩
    · exact List.mem_cons_of_mem _ (ih h)
    · split at h
      · rename_i hm
        rw [← hm, ← Option.some.inj h]
        exact List.mem_cons_self
      · cases h

lemma lastMember_of_mem {k : String} {v : Json} {ms : List (String × Json)}
    (hnodup : (ms.map Prod.fst).Nodup) (h : (k, v) ∈ ms) : lastMember k ms = some v := by
  induction ms with
  | nil => cases h
  | cons m ms ih =>
    rw [List.map_cons, List.nodup_cons] at hnodup
    rw [lastMember_cons]
    rcases List.mem_cons.mp h with rfl | h
    · cases hlast : lastMember k ms with
      | none => rw [Option.none_or, if_pos rfl]
      | some w => exact absurd (List.mem_map_of_mem (mem_of_lastMember hlast)) hnodup.1
    · rw [ih hnodup.2 h, Option.some_or]

lemma lastMember_eq_some_iff {k : String} {v : Json} {ms : List (String × Json)}
    (hnodup : (ms.map Prod.fst).Nodup) : lastMember k ms = some v ↔ (k, v) ∈ ms :=
  ⟨mem_of_lastMember, lastMember_of_mem hnodup⟩

/-- Sorting keeps the members. -/
lemma lastMember_canonicalMembers {ms : List (String × Json)} (hnodup : (ms.map Prod.fst).Nodup)
    (k : String) : lastMember k (canonicalMembers ms) = (lastMember k ms).map canonical := by
  have hperm := canonicalMembers_perm ms
  have hnames : ((canonicalMembers ms).map Prod.fst).Perm (ms.map Prod.fst) := by
    have h := hperm.map Prod.fst
    rwa [List.map_map] at h
  ext w
  rw [lastMember_eq_some_iff (hnames.nodup_iff.mpr hnodup), hperm.mem_iff, Option.map_eq_some_iff,
    List.mem_map]
  constructor
  · rintro ⟨⟨k', v⟩, hmem, heq⟩
    obtain ⟨rfl, rfl⟩ := Prod.mk.inj heq
    exact ⟨v, lastMember_of_mem hnodup hmem, rfl⟩
  · rintro ⟨v, hlast, rfl⟩
    exact ⟨(k, v), mem_of_lastMember hlast, rfl⟩

lemma distinct_of_lastMember {k : String} {v : Json} {ms : List (String × Json)}
    (hms : distinctMembers ms = true) (h : lastMember k ms = some v) : distinct v = true := by
  induction ms with
  | nil => cases h
  | cons m ms ih =>
    obtain ⟨k', v'⟩ := m
    rw [distinctMembers, Bool.and_eq_true] at hms
    rw [lastMember_cons, Option.or_eq_some_iff] at h
    rcases h with h | ⟨-, h⟩
    · exact ih hms.2 h
    · split at h
      · rw [← Option.some.inj h]
        exact hms.1
      · cases h

mutual
/-- **The canonical form tells all values apart.** -/
theorem same_of_canonical_eq : ∀ v w : Json, distinct v = true → distinct w = true →
    canonical v = canonical w → Same (· = ·) v w
  | null, w, _, _, h => by cases w <;> cases h; exact .null
  | bool b, w, _, _, h => by cases w <;> cases h; exact .bool b
  | num n, w, _, _, h => by cases w <;> cases h; exact .num rfl
  | str s, w, _, _, h => by cases w <;> cases h; exact .str s
  | arr vs, w, hv, hw, h => by
    cases w with
    | arr ws => exact .arr (sameElems_of_canonical_eq vs ws hv hw (Json.arr.inj h))
    | _ => cases h
  | obj ms, w, hv, hw, h => by
    cases w with
    | obj ns =>
      rw [distinct, Bool.and_eq_true, decide_eq_true_iff] at hv hw
      refine .obj fun k => ?_
      have hlast := congrArg (lastMember k) (Json.obj.inj h)
      rw [lastMember_canonicalMembers hv.1, lastMember_canonicalMembers hw.1] at hlast
      cases hms : lastMember k ms with
      | none =>
        rw [hms, Option.map_none, eq_comm, Option.map_eq_none_iff] at hlast
        rw [hlast]
        exact .none
      | some v =>
        rw [hms, Option.map_some, eq_comm, Option.map_eq_some_iff] at hlast
        obtain ⟨w, hns, heq⟩ := hlast
        rw [hns]
        exact .some (sameMember_of_canonical_eq ms hv.2 k v w hms
          (distinct_of_lastMember hw.2 hns) heq.symm)
    | _ => cases h

/-- The same for the elements of arrays. -/
theorem sameElems_of_canonical_eq : ∀ vs ws : List Json, distinctElems vs = true →
    distinctElems ws = true → canonicalElems vs = canonicalElems ws →
    List.Forall₂ (Same (· = ·)) vs ws
  | [], ws, _, _, h => by
    cases ws with
    | nil => exact .nil
    | cons w ws => cases h
  | v :: vs, ws, hv, hw, h => by
    cases ws with
    | nil => cases h
    | cons w ws =>
      rw [distinctElems, Bool.and_eq_true] at hv hw
      obtain ⟨hhead, htail⟩ := List.cons.inj h
      exact .cons (same_of_canonical_eq v w hv.1 hw.1 hhead)
        (sameElems_of_canonical_eq vs ws hv.2 hw.2 htail)

/-- The same for a member of an object, by its name. -/
theorem sameMember_of_canonical_eq : ∀ ms : List (String × Json), distinctMembers ms = true →
    ∀ k v w, lastMember k ms = some v → distinct w = true → canonical v = canonical w →
    Same (· = ·) v w
  | [], _, _, _, _, h, _, _ => by cases h
  | (k', v') :: ms, hms, k, v, w, h, hw, heq => by
    rw [distinctMembers, Bool.and_eq_true] at hms
    rw [lastMember_cons, Option.or_eq_some_iff] at h
    rcases h with h | ⟨-, h⟩
    · exact sameMember_of_canonical_eq ms hms.2 k v w h hw heq
    · split at h
      · obtain rfl := Option.some.inj h
        exact same_of_canonical_eq v' w hms.1 hw heq
      · cases h
end

/-- A canonicalizer that refuses repeated names. -/
def canonicalize (v : Json) : Except String Bytes :=
  if v.distinct then .ok (Bytes.utf8 (SerdeJson.toString (canonical v)))
  else .error "duplicate name"

lemma canonicalize_of_distinct {v : Json} (h : v.distinct = true) :
    canonicalize v = .ok (Bytes.utf8 (SerdeJson.toString (canonical v))) := if_pos h

lemma toString_injective {v w : Json} (h : SerdeJson.toString v = SerdeJson.toString w) :
    v = w := by
  have hread := congrArg (Json.read none) (String.ofList_inj.mp h)
  rw [Json.read_print, Json.read_print] at hread
  exact Option.some.inj hread

/-- **It is injective on values.** -/
theorem same_of_canonicalize_eq {v w : Json} {bytes : Bytes} (hv : canonicalize v = .ok bytes)
    (hw : canonicalize w = .ok bytes) : Same (· = ·) v w := by
  rw [canonicalize] at hv hw
  split at hv
  · split at hw
    · rename_i hdistinct hdistinct'
      refine same_of_canonical_eq v w hdistinct hdistinct' (toString_injective ?_)
      exact Bytes.utf8_injective ((Except.ok.inj hv).trans (Except.ok.inj hw).symm)
    · cases hw
  · cases hv

/-! ## Plain objects

What holds of the parts of a document that can be printed and read. -/

lemma plain_of_lastMember {k : String} {v : Json} {ms : List (String × Json)}
    (hms : PlainMembers ms) (h : lastMember k ms = some v) : v.Plain := by
  induction ms with
  | nil => cases h
  | cons m ms ih =>
    obtain ⟨k', v'⟩ := m
    rw [PlainMembers] at hms
    rw [lastMember_cons, Option.or_eq_some_iff] at h
    rcases h with h | ⟨-, h⟩
    · exact ih hms.2 h
    · split at h
      · rw [← Option.some.inj h]
        exact hms.1
      · cases h

/-- The one member that has a name. -/
lemma filter_of_lastMember {k : String} {v : Json} {ms : List (String × Json)}
    (hnodup : (ms.map Prod.fst).Nodup) (h : lastMember k ms = some v) :
    (ms.filter fun m => m.1 = k) = [(k, v)] := by
  induction ms with
  | nil => cases h
  | cons m ms ih =>
    rw [List.map_cons, List.nodup_cons] at hnodup
    by_cases hm : m.1 = k
    · have hlast : lastMember k ms = none := by
        cases hlast : lastMember k ms with
        | none => rfl
        | some w =>
          rw [hm] at hnodup
          exact absurd (List.mem_map_of_mem (mem_of_lastMember hlast)) hnodup.1
      have hnone : (ms.filter fun m => m.1 = k) = [] := by
        rw [List.filter_eq_nil_iff]
        intro m' hm' hname
        refine hnodup.1 (List.mem_map.mpr ⟨m', hm', ?_⟩)
        rw [hm]
        exact of_decide_eq_true hname
      rw [lastMember_cons, hlast, Option.none_or, if_pos hm] at h
      rw [List.filter_cons_of_pos (by simpa using hm), hnone, ← hm, ← Option.some.inj h]
    · rw [lastMember_cons, if_neg hm, Option.or_none] at h
      rw [List.filter_cons_of_neg (by simpa using hm), ih hnodup.2 h]

lemma requiredField_of_lastMember {k : String} {v : Json} {ms : List (String × Json)}
    (hnodup : (ms.map Prod.fst).Nodup) (h : lastMember k ms = some v) :
    requiredField k ms = some v := by
  rw [requiredField, filter_of_lastMember hnodup h]

lemma defaultField_of_lastMember {α : Type} {k : String} {v : Json} {ms : List (String × Json)}
    (default : α) (read : Json → Option α) (hnodup : (ms.map Prod.fst).Nodup)
    (h : lastMember k ms = some v) : defaultField k default read ms = read v := by
  rw [defaultField, filter_of_lastMember hnodup h]

end Json

/-- A text is a plain document. -/
structure SerdeJson.IsText (body : String) (v : Json) : Prop where
  read : Json.read none body.toList = some v
  plain : v.Plain
  depth : v.depth ≤ 127

lemma SerdeJson.fromSlice_of_isText {α : Type} (serde : SerdeJson) {visit : Json → Option α}
    {body : String} {v : Json} (h : SerdeJson.IsText body v) {a : α} :
    serde.fromSlice visit (Bytes.utf8 body) = .ok a ↔ visit v = some a := by
  have hslice := serde.fromSlice_text visit body.toList v a h.read h.plain h.depth
  rwa [String.ofList_toList] at hslice

lemma SerdeJson.isText_toString {v : Json} (hplain : v.Plain) (hdepth : v.depth ≤ 127) :
    SerdeJson.IsText (SerdeJson.toString v) v :=
  ⟨by rw [SerdeJson.toString, String.toList_ofList, Json.read_print], hplain, hdepth⟩
