import Dzta.Library.Bytes
import Dzta.Library.JsonRoundTrip
import Mathlib.Data.List.Nodup

/-!
# serde_json

What Rust code may rely on when it reads and writes JSON with serde_json.  The parser is a
parameter (`SerdeJson`): `fromSlice` reads a byte string as a value of a type, whose `Deserialize`
implementation is given by what it does with a document (`visit`).  Its law is about **plain**
documents only, those that every type sees in the same way: integers in the range of the machine
types, no name twice in an object, and a nesting below the recursion limit.  For every other byte
string nothing is assumed, so a parser that accepts more, or that hands floats and repeated names to
one type and not to another, is covered.

Values print compactly and escape nothing that JSON does not ask for, so **what is printed from a
plain value is read back** (`fromSlice_toString`).
-/

namespace JsonNumber

/-- An integer literal that fits `u64` or `i64`.  (The literal `-0` is a float.) -/
def Plain (n : JsonNumber) : Prop :=
  n.frac = [] ∧ n.exp = none ∧ if n.neg then 0 < n.int ∧ n.int ≤ 2 ^ 63 else n.int < 2 ^ 64

/-- `Value::as_u64` of a number. -/
def asU64? (n : JsonNumber) : Option UInt64 :=
  if n.frac = [] ∧ n.exp = none ∧ n.neg = false ∧ n.int < 2 ^ 64 then
    some (UInt64.ofNat n.int)
  else none

/-- `Value::as_i64` of a number. -/
def asI64? (n : JsonNumber) : Option Int64 :=
  if n.frac = [] ∧ n.exp = none then
    if n.neg then if 0 < n.int ∧ n.int ≤ 2 ^ 63 then some (Int64.ofInt (-n.int)) else none
    else if n.int < 2 ^ 63 then some (Int64.ofInt n.int) else none
  else none

end JsonNumber

namespace Json

/-! ## Values

The documents that are read back as they were written, and views of values. -/

mutual
/-- A document that every type sees in the same way. -/
def Plain : Json → Prop
  | num n => n.Plain
  | arr vs => PlainElems vs
  | obj ms => (ms.map Prod.fst).Nodup ∧ PlainMembers ms
  | _ => True

/-- All elements are plain. -/
def PlainElems : List Json → Prop
  | [] => True
  | v :: vs => v.Plain ∧ PlainElems vs

/-- The values of all members are plain. -/
def PlainMembers : List (String × Json) → Prop
  | [] => True
  | (_, v) :: ms => v.Plain ∧ PlainMembers ms
end

attribute [simp] Plain PlainElems PlainMembers

/-- `Value::as_u64`: a number without sign that fits 64 bits. -/
def asU64? : Json → Option UInt64
  | num n => n.asU64?
  | _ => none

/-- `Value::as_i64`: a number that fits 64 bits with its sign. -/
def asI64? : Json → Option Int64
  | num n => n.asI64?
  | _ => none

/-- `Value::as_bool`: a truth value. -/
def asBool? : Json → Option Bool
  | bool b => some b
  | _ => none

/-- `Value::as_array`: the elements of an array. -/
def asArray? : Json → Option (List Json)
  | arr vs => some vs
  | _ => none

/-- The value of a `u64`. -/
def ofU64 (n : UInt64) : Json := num (.ofNat n.toNat)

/-- The value of an `i64`. -/
def ofI64 (i : Int64) : Json := num (.ofInt i.toInt)

@[simp] lemma asU64?_ofU64 (n : UInt64) : (ofU64 n).asU64? = some n := by
  rw [ofU64, asU64?, JsonNumber.asU64?, if_pos ⟨rfl, rfl, rfl, n.toNat_lt⟩]
  exact congrArg some UInt64.ofNat_toNat

@[simp] lemma asI64?_ofI64 (i : Int64) : (ofI64 i).asI64? = some i := by
  have hlow : -2 ^ 63 ≤ i.toInt := i.le_toInt
  have hhigh : i.toInt < 2 ^ 63 := i.toInt_lt
  rw [ofI64, asI64?, JsonNumber.asI64?, JsonNumber.ofInt, if_pos ⟨rfl, rfl⟩]
  rcases lt_or_ge i.toInt 0 with h | h
  · have habs : -(i.toInt.natAbs : ℤ) = i.toInt := by omega
    rw [if_pos (decide_eq_true h), if_pos (by dsimp only; omega), habs, Int64.ofInt_toInt]
  · have habs : (i.toInt.natAbs : ℤ) = i.toInt := by omega
    rw [if_neg (by simpa using h), if_pos (by dsimp only; omega), habs, Int64.ofInt_toInt]

/-- **The `u64` values** are the natural numbers in their range. -/
lemma asU64?_eq_some_iff {v : Json} {n : UInt64} : v.asU64? = some n ↔ v = ofU64 n := by
  constructor
  · intro h
    cases v with
    | num m =>
      obtain ⟨neg, int, frac, exp⟩ := m
      rw [asU64?, JsonNumber.asU64?] at h
      split at h
      · rename_i hnat
        obtain ⟨rfl, rfl, rfl, hrange⟩ := hnat
        obtain rfl := Option.some.inj h
        rw [ofU64, UInt64.toNat_ofNat_of_lt' hrange, JsonNumber.ofNat]
      · cases h
    | _ => cases h
  · rintro rfl
    exact asU64?_ofU64 n

/-- **The `i64` values** are the integers in their range. -/
lemma asI64?_eq_some_iff {v : Json} {i : Int64} : v.asI64? = some i ↔ v = ofI64 i := by
  constructor
  · intro h
    cases v with
    | num m =>
      obtain ⟨neg, int, frac, exp⟩ := m
      rw [asI64?, JsonNumber.asI64?] at h
      dsimp only at h
      split at h
      · rename_i hint
        obtain ⟨rfl, rfl⟩ := hint
        rw [ofI64, JsonNumber.ofInt]
        cases neg with
        | true =>
          rw [if_pos rfl] at h
          split at h
          · obtain rfl := Option.some.inj h
            rw [Int64.toInt_ofInt_of_le (by omega) (by omega), decide_eq_true (by omega),
              Int.natAbs_neg, Int.natAbs_natCast]
          · cases h
        | false =>
          rw [if_neg Bool.false_ne_true] at h
          split at h
          · obtain rfl := Option.some.inj h
            rw [Int64.toInt_ofInt_of_le (by omega) (by omega), decide_eq_false (by omega),
              Int.natAbs_natCast]
          · cases h
      · cases h
    | _ => cases h
  · rintro rfl
    exact asI64?_ofI64 i

@[simp] lemma plain_ofU64 (n : UInt64) : (ofU64 n).Plain := by
  simpa [ofU64, JsonNumber.Plain, JsonNumber.ofNat] using n.toNat_lt

@[simp] lemma plain_ofI64 (i : Int64) : (ofI64 i).Plain := by
  have hlow : -2 ^ 63 ≤ i.toInt := i.le_toInt
  have hhigh : i.toInt < 2 ^ 63 := i.toInt_lt
  rcases lt_or_ge i.toInt 0 with h | h
  · simp [ofI64, JsonNumber.Plain, JsonNumber.ofInt, h]
    omega
  · simp [ofI64, JsonNumber.Plain, JsonNumber.ofInt, not_lt.mpr h]
    omega

@[simp] lemma depth_ofU64 (n : UInt64) : (ofU64 n).depth = 0 := rfl

@[simp] lemma depth_ofI64 (i : Int64) : (ofI64 i).depth = 0 := rfl

/-- Assignment to a member of an object: in its place if there is one with the name, at the end
otherwise. -/
def insertMember (name : String) (v : Json) : List (String × Json) → List (String × Json)
  | [] => [(name, v)]
  | m :: ms => if m.1 = name then (name, v) :: ms else m :: insertMember name v ms

/-! ## Canonical form

Members sorted by their names in UTF-16, at all levels. -/

/-- The UTF-16 code units of a string. -/
def utf16 (s : String) : List ℕ :=
  s.toList.flatMap fun c =>
    if c.toNat < 0x10000 then [c.toNat]
    else [0xD800 + (c.toNat - 0x10000) / 0x400, 0xDC00 + (c.toNat - 0x10000) % 0x400]

/-- Inserts a member before the first one with a greater name. -/
def insertSorted (m : String × Json) : List (String × Json) → List (String × Json)
  | [] => [m]
  | m' :: ms =>
    if utf16 m.1 < utf16 m'.1 then m :: m' :: ms else m' :: insertSorted m ms

mutual
/-- A document with the members of every object sorted by name.  (Numbers are left as they are,
which is canonical for integers up to `2 ^ 53`.) -/
def canonical : Json → Json
  | arr vs => arr (canonicalElems vs)
  | obj ms => obj (canonicalMembers ms)
  | v => v

/-- Elements in canonical form. -/
def canonicalElems : List Json → List Json
  | [] => []
  | v :: vs => canonical v :: canonicalElems vs

/-- Members in canonical form, sorted by name. -/
def canonicalMembers : List (String × Json) → List (String × Json)
  | [] => []
  | (k, v) :: ms => insertSorted (k, canonical v) (canonicalMembers ms)
end

/-! ## Derived implementations

What the derived readers of structs do with members. -/

/-- The value of a required field of a struct: the one member with its name.  A missing member is
an error and so is a second one; members with other names are ignored. -/
def requiredField (name : String) (ms : List (String × Json)) : Option Json :=
  match ms.filter fun m => m.1 = name with
  | [m] => some m.2
  | _ => none

/-- The value of a required field with aliases: the one member with one of its names. -/
def aliasedField (names : List String) (ms : List (String × Json)) : Option Json :=
  match ms.filter fun m => m.1 ∈ names with
  | [m] => some m.2
  | _ => none

/-- A field with a default, read by `read`: the default if no member has its name. -/
def defaultField {α : Type} (name : String) (default : α) (read : Json → Option α)
    (ms : List (String × Json)) : Option α :=
  match ms.filter fun m => m.1 = name with
  | [] => some default
  | [m] => read m.2
  | _ => none

/-- A field with a default in a struct that is written as an array. -/
def defaultElement {α : Type} (i : ℕ) (default : α) (read : Json → Option α) (vs : List Json) :
    Option α :=
  match vs[i]? with
  | none => some default
  | some v => read v

/-- An optional value: `null` stands for none. -/
def optional {α : Type} (read : Json → Option α) : Json → Option (Option α)
  | null => some none
  | v => (read v).map some

/-- A list of strings. -/
def strings (v : Json) : Option (List String) := v.asArray?.bind fun vs => vs.mapM asString?

/-- `Index` of a value: `Null` where there is no such member. -/
def index (v : Json) (name : String) : Json := (v.member? name).getD null

/-- The last member with a name is the last of those that have it. -/
lemma lastMember_eq_filter (name : String) (ms : List (String × Json)) :
    lastMember name ms = (ms.filter fun m => m.1 = name).getLast?.map Prod.snd := by
  induction ms with
  | nil => rfl
  | cons m ms ih =>
    rw [lastMember_cons, ih]
    by_cases hm : m.1 = name
    · rw [List.filter_cons_of_pos (by simpa using hm), List.getLast?_cons, if_pos hm]
      cases (ms.filter fun m => m.1 = name).getLast? <;> rfl
    · rw [List.filter_cons_of_neg (by simpa using hm), if_neg hm, Option.or_none]

end Json

/-! ## The parser

Printing is defined, and parsing is a parameter that reads back what is printed. -/

/-- The parser: `fromSlice visit` is `serde_json::from_slice` at the type whose `Deserialize`
implementation takes a document to `visit` of it.  An error carries its text. -/
structure SerdeJson where
  fromSlice : {α : Type} → (Json → Option α) → Bytes → Except String α
  fromSlice_text : ∀ {α : Type} (visit : Json → Option α) (text : List Char) (v : Json) (a : α),
    Json.read none text = some v → v.Plain → v.depth ≤ 127 →
    (fromSlice visit (Bytes.utf8 (String.ofList text)) = .ok a ↔ visit v = some a)

namespace SerdeJson

/-- `Value::to_string`, with the members of an object in the order in which they stand: a `Value`
keeps them sorted by name, so what `json!` builds has the text of the sorted object.  A number is
written with all its digits, where Rust writes one that is no integer of 64 bits as a float. -/
def toString (v : Json) : String := String.ofList (Json.print (fun _ => false) v)

lemma exists_printMembers_eq (force : Char → Bool) (ms : List (String × Json)) :
    ∃ init, Json.printMembers force ms = init ++ ['}'] := by
  induction ms with
  | nil => exact ⟨[], by rw [Json.printMembers]; rfl⟩
  | cons m ms ih =>
    obtain ⟨init, h⟩ := ih
    obtain ⟨k, v⟩ := m
    refine ⟨',' :: '"' :: (Json.printString force k ++ ':' :: (Json.print force v ++ init)), ?_⟩
    rw [Json.printMembers, h]
    simp

/-- The text of an object stands between braces. -/
lemma toString_obj_ends (m : String × Json) (ms : List (String × Json)) :
    (toString (.obj (m :: ms))).toList.head? = some '{' ∧
      (toString (.obj (m :: ms))).toList.getLast? = some '}' := by
  obtain ⟨init, h⟩ := exists_printMembers_eq (fun _ => false) ms
  rw [toString, String.toList_ofList, Json.print, h]
  refine ⟨rfl, List.getLast?_eq_some_iff.mpr ⟨'{' :: '"' :: (Json.printString (fun _ => false) m.1
    ++ ':' :: (Json.print (fun _ => false) m.2 ++ init)), ?_⟩⟩
  simp

variable (serde : SerdeJson)

/-- `from_slice::<Value>`: a text is read as a document. -/
def value (bytes : Bytes) : Except String Json := serde.fromSlice some bytes

/-- **What is printed from a plain value is read back**, at every type. -/
theorem fromSlice_toString {α : Type} (visit : Json → Option α) {v : Json} (hplain : v.Plain)
    (hdepth : v.depth ≤ 127) (a : α) :
    serde.fromSlice visit (Bytes.utf8 (toString v)) = .ok a ↔ visit v = some a :=
  serde.fromSlice_text visit _ v a (Json.read_print _ _ v) hplain hdepth

/-- What a type rejects as a document, it rejects as a text. -/
lemma fromSlice_toString_error {α : Type} {visit : Json → Option α} {v : Json} (hplain : v.Plain)
    (hdepth : v.depth ≤ 127) (h : visit v = none) :
    ∃ e, serde.fromSlice visit (Bytes.utf8 (toString v)) = .error e := by
  cases hread : serde.fromSlice visit (Bytes.utf8 (toString v)) with
  | error e => exact ⟨e, rfl⟩
  | ok a =>
    rw [serde.fromSlice_toString visit hplain hdepth, h] at hread
    cases hread

lemma value_toString {v : Json} (hplain : v.Plain) (hdepth : v.depth ≤ 127) :
    serde.value (Bytes.utf8 (toString v)) = .ok v :=
  (serde.fromSlice_toString some hplain hdepth v).mpr rfl

/-- A parser that reads a text as a document first and rejects surrogates that stand alone. -/
def strict : SerdeJson where
  fromSlice visit bytes :=
    match ((Bytes.utf8Decode? bytes).bind fun s => Json.read none s.toList).bind visit with
    | some a => .ok a
    | none => .error "invalid JSON"
  fromSlice_text visit text v a hread _ _ := by
    rw [Bytes.utf8Decode?_utf8, Option.bind_some, String.toList_ofList, hread, Option.bind_some]
    cases visit v <;> simp

/-- A parser that gives up where `serde_json` does: below the 127th level. -/
def limited : SerdeJson where
  fromSlice visit bytes :=
    match (((Bytes.utf8Decode? bytes).bind fun s => Json.read none s.toList).filter
      fun v => v.depth ≤ 127).bind visit with
    | some a => .ok a
    | none => .error "recursion limit exceeded"
  fromSlice_text visit text v a hread _ hdepth := by
    rw [Bytes.utf8Decode?_utf8, Option.bind_some, String.toList_ofList, hread, Option.filter_some,
      if_pos (decide_eq_true hdepth), Option.bind_some]
    cases visit v <;> simp

/-- It does not read back a value that nests deeper. -/
lemma value_limited {v : Json} (hdepth : 127 < v.depth) :
    limited.value (Bytes.utf8 (toString v)) = .error "recursion limit exceeded" := by
  have hnot : ¬ decide (v.depth ≤ 127) = true := by simpa using hdepth
  simp only [value, limited, toString, Bytes.utf8Decode?_utf8, Option.bind_some,
    String.toList_ofList, Json.read_print, Option.filter_some, if_neg hnot, Option.bind_none]

end SerdeJson
