import Dzta.Issuer.Issuance

/-!
# What a schema accepts

The language of the schema validation.  A value is of a type as a string, as an integer that a
machine type holds, or as a time, which is a positive Unix time or the text of a date
(`SchemaEngine.OfType`).  A subject is accepted if it is an object that has
every attribute with a value of its type (**`SchemaEngine.validateFields_eq_ok_iff`**), so the order
of the attributes, and how often one is listed, are of no account.
-/

namespace DZTA

open Json

namespace SchemaEngine

variable (chrono : Chrono)

/-- The values of a type. -/
def OfType (attrType : String) (fieldValue : Json) : Prop :=
  (attrType = "string" ∧ ∃ text, fieldValue = .str text) ∨
  (attrType = "integer" ∧ ∃ i : ℤ, -2 ^ 63 ≤ i ∧ i < 2 ^ 64 ∧ fieldValue = .num (.ofInt i)) ∨
  (attrType = "timestamp" ∧
    ((∃ ts : ℤ, 1 ≤ ts ∧ ts ≤ 2 ^ 63 - 1 ∧ fieldValue = .num (.ofInt ts)) ∨
      ∃ text, chrono.isRfc3339 text = true ∧ fieldValue = .str text))

/-- A subject has an attribute with a value of its type. -/
def HasAttribute (credentialSubject : Json) (attr : Shared.SchemaAttribute) : Prop :=
  ∃ members fieldValue, credentialSubject = .obj members ∧
    lastMember attr.name members = some fieldValue ∧ OfType chrono attr.attrType fieldValue

/-! ## One attribute

When a member of the subject has the type of the schema. -/

lemma isSome_asString?_iff {v : Json} : v.asString?.isSome ↔ ∃ text, v = .str text := by
  cases v <;> simp [asString?]

/-- The integers that one of the machine types holds. -/
lemma isSome_integer_iff {v : Json} : (v.asI64?.isSome ∨ v.asU64?.isSome) ↔
    ∃ i : ℤ, -2 ^ 63 ≤ i ∧ i < 2 ^ 64 ∧ v = .num (.ofInt i) := by
  rw [Option.isSome_iff_exists, Option.isSome_iff_exists]
  constructor
  · rintro (⟨i, h⟩ | ⟨n, h⟩)
    · have hlow : -2 ^ 63 ≤ i.toInt := i.le_toInt
      have hhigh : i.toInt < 2 ^ 63 := i.toInt_lt
      exact ⟨i.toInt, hlow, by omega, asI64?_eq_some_iff.mp h⟩
    · have hhigh := n.toNat_lt
      refine ⟨n.toNat, by omega, by omega, ?_⟩
      rw [JsonNumber.ofInt_natCast]
      exact asU64?_eq_some_iff.mp h
  · rintro ⟨i, hlow, hhigh, rfl⟩
    rcases lt_or_ge i (2 ^ 63) with h | h
    · refine .inl ⟨Int64.ofInt i, asI64?_eq_some_iff.mpr ?_⟩
      rw [ofI64, Int64.toInt_ofInt_of_le (by omega) (by omega)]
    · refine .inr ⟨UInt64.ofNat i.toNat, asU64?_eq_some_iff.mpr ?_⟩
      have hcast : ((i.toNat : ℕ) : ℤ) = i := Int.toNat_of_nonneg (by omega)
      have hsize : i.toNat < UInt64.size := by
        rw [UInt64.size]
        omega
      rw [ofU64, UInt64.toNat_ofNat_of_lt' hsize, ← JsonNumber.ofInt_natCast, hcast]

/-- The integers that are a time. -/
lemma asI64?_pos_iff {v : Json} : (∃ ts : Int64, v.asI64? = some ts ∧ ¬ ts ≤ 0) ↔
    ∃ ts : ℤ, 1 ≤ ts ∧ ts ≤ 2 ^ 63 - 1 ∧ v = .num (.ofInt ts) := by
  constructor
  · rintro ⟨ts, h, hpos⟩
    have hlow : (0 : Int64).toInt < ts.toInt := Int64.lt_iff_toInt_lt.mp (Int64.not_le.mp hpos)
    have hhigh : ts.toInt < 2 ^ 63 := ts.toInt_lt
    rw [Int64.toInt_zero] at hlow
    exact ⟨ts.toInt, by omega, by omega, asI64?_eq_some_iff.mp h⟩
  · rintro ⟨ts, hlow, hhigh, rfl⟩
    have hvalue : (Int64.ofInt ts).toInt = ts := Int64.toInt_ofInt_of_le (by omega) (by omega)
    refine ⟨Int64.ofInt ts, asI64?_eq_some_iff.mpr (by rw [ofI64, hvalue]), ?_⟩
    rw [Int64.not_le, Int64.lt_iff_toInt_lt, hvalue, Int64.toInt_zero]
    omega

lemma validateType_string {name : String} {predicate : Bool} {v : Json} :
    validateType chrono ⟨name, "string", predicate⟩ v = .ok () ↔ ∃ text, v = .str text := by
  rw [← isSome_asString?_iff, validateType, if_pos rfl]
  split <;> simp_all

lemma validateType_integer {name : String} {predicate : Bool} {v : Json} :
    validateType chrono ⟨name, "integer", predicate⟩ v = .ok () ↔
      ∃ i : ℤ, -2 ^ 63 ≤ i ∧ i < 2 ^ 64 ∧ v = .num (.ofInt i) := by
  have hstring : "integer" ≠ "string" := by decide
  rw [← isSome_integer_iff, validateType, if_neg hstring, if_pos rfl]
  split
  · rename_i h
    exact iff_of_true rfl h
  · rename_i h
    exact iff_of_false (by simp) h

lemma validateType_timestamp {name : String} {predicate : Bool} {v : Json} :
    validateType chrono ⟨name, "timestamp", predicate⟩ v = .ok () ↔
      (∃ ts : ℤ, 1 ≤ ts ∧ ts ≤ 2 ^ 63 - 1 ∧ v = .num (.ofInt ts)) ∨
        ∃ text, chrono.isRfc3339 text = true ∧ v = .str text := by
  have hstring : "timestamp" ≠ "string" := by decide
  have hinteger : "timestamp" ≠ "integer" := by decide
  rw [← asI64?_pos_iff, validateType, if_neg hstring, if_neg hinteger, if_pos rfl]
  cases v with
  | num n =>
    have htext : (Json.num n).asString? = none := rfl
    rw [htext]
    cases hts : (Json.num n).asI64? with
    | none => simp
    | some ts =>
      by_cases hpos : ts ≤ 0
      · simp [hpos]
      · simp [hpos, Int64.not_le.mp hpos]
  | str text =>
    have hnumber : (Json.str text).asI64? = none := rfl
    rw [hnumber, asString?_str]
    by_cases h : chrono.isRfc3339 text = true <;> simp [h]
  | _ => simp [asI64?, asString?]

/-- **What passes the check of a type** is a value of the type. -/
lemma validateType_eq_ok_iff {attr : Shared.SchemaAttribute} {fieldValue : Json} :
    validateType chrono attr fieldValue = .ok () ↔ OfType chrono attr.attrType fieldValue := by
  obtain ⟨name, attrType, predicate⟩ := attr
  by_cases hstring : attrType = "string"
  · subst hstring
    simp [validateType_string, OfType]
  by_cases hinteger : attrType = "integer"
  · subst hinteger
    simp [validateType_integer, OfType]
  by_cases htimestamp : attrType = "timestamp"
  · subst htimestamp
    simp [validateType_timestamp, OfType]
  -- no other type is known
  simp [validateType, OfType, hstring, hinteger, htimestamp]

lemma validateField_eq_ok_iff {credentialSubject : Json} {attr : Shared.SchemaAttribute} :
    validateField chrono credentialSubject attr = .ok () ↔
      HasAttribute chrono credentialSubject attr := by
  rw [validateField, HasAttribute]
  cases credentialSubject with
  | obj members =>
    rw [member?_obj]
    cases hlast : lastMember attr.name members with
    | none => simp [hlast]
    | some fieldValue => simp [hlast, validateType_eq_ok_iff]
  | _ => simp [member?]

/-! ## All attributes

A subject passes exactly if each attribute does, in whatever order they come. -/

/-- **What a schema accepts**: the objects with a value of the right type for each attribute.  Two
schemas that list the same attributes, in whatever order and however often, accept the same. -/
theorem validateFields_eq_ok_iff (schema : Shared.CredentialSchema) (credentialSubject : Json) :
    (validateFields chrono schema credentialSubject = .ok () ↔
      ∀ attr ∈ schema.attributes, HasAttribute chrono credentialSubject attr) ∧
    ∀ schema' : Shared.CredentialSchema,
      (∀ attr, attr ∈ schema'.attributes ↔ attr ∈ schema.attributes) →
      (validateFields chrono schema' credentialSubject = .ok () ↔
        validateFields chrono schema credentialSubject = .ok ()) := by
  have hlanguage : ∀ schema : Shared.CredentialSchema,
      validateFields chrono schema credentialSubject = .ok () ↔
        ∀ attr ∈ schema.attributes, HasAttribute chrono credentialSubject attr := by
    intro schema
    rw [validateFields, Except.forM_eq_ok_iff]
    exact forall₂_congr fun attr _ => validateField_eq_ok_iff chrono
  refine ⟨hlanguage schema, fun schema' hsame => ?_⟩
  rw [hlanguage, hlanguage]
  exact forall_congr' fun attr => imp_congr_left (hsame attr)

end SchemaEngine

end DZTA
