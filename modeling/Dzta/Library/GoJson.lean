import Dzta.Library.Bytes
import Dzta.Library.JsonRoundTrip
import Mathlib.Tactic.Ring

/-!
# Go's `encoding/json`

How Go values become JSON texts and come back.  A Go string is any byte string; `Marshal` writes
one that is not UTF-8 with U+FFFD in place of every stray byte, so a round trip returns
`GoString.coerce` of it, and returns exactly the string that is UTF-8 (`coerce_of_valid`).

`Unmarshal` decodes **into a value that is already there**: `null` leaves it alone, an object sets
the fields it names and ignores the members that name none.  A member names the field whose tag is
its name, or else one whose tag is its name up to case.  A `Decoder` is therefore a function of the
document and of the value before it, and a struct decoder is a list of `StructField`s.
-/

/-- A Go string: any bytes. -/
abbrev GoString := Bytes

namespace GoString

/-- A string literal of a Go source. -/
def ofString (s : String) : GoString := Bytes.utf8 s

/-- What is left of a string after a round trip through JSON. -/
def coerce (b : GoString) : GoString := Bytes.utf8 (Bytes.utf8Lossy b)

/-- The strings that are UTF-8. -/
def Valid (b : GoString) : Prop := ∃ s, Bytes.utf8 s = b

lemma valid_utf8 (s : String) : Valid (Bytes.utf8 s) := ⟨s, rfl⟩

lemma Valid.append {b c : GoString} (hb : Valid b) (hc : Valid c) : Valid (b ++ c) := by
  obtain ⟨s, rfl⟩ := hb
  obtain ⟨t, rfl⟩ := hc
  exact ⟨s ++ t, Bytes.utf8_append s t⟩

lemma coerce_of_valid {b : GoString} (h : Valid b) : coerce b = b := by
  obtain ⟨s, rfl⟩ := h
  rw [coerce, Bytes.utf8Lossy_utf8]

@[simp] lemma coerce_utf8 (s : String) : coerce (Bytes.utf8 s) = Bytes.utf8 s :=
  coerce_of_valid (valid_utf8 s)

@[simp] lemma coerce_eq_nil {b : GoString} : coerce b = [] ↔ b = [] := by
  refine ⟨fun h => ?_, fun h => by subst h; rfl⟩
  have hlossy : Bytes.utf8Lossy b = "" := Bytes.utf8_injective h
  cases b with
  | nil => rfl
  | cons x xs =>
    rw [Bytes.utf8Lossy, Bytes.runes] at hlossy
    cases hr : Bytes.rune? (x :: xs) with
    | none => simp [hr] at hlossy
    | some c => simp [hr] at hlossy

end GoString

namespace GoJson

/-! ## Texts

What `json.Marshal` prints and `json.Unmarshal` accepts. -/

/-- The characters `Marshal` escapes although JSON does not ask for it. -/
def forceEscape (c : Char) : Bool :=
  c = '<' || c = '>' || c = '&' || c = '\u2028' || c = '\u2029'

/-- The nesting at which `Unmarshal` gives up. -/
def maxNestingDepth : ℕ := 10000

/-- `json.Marshal` of a value that is encoded as `j`. -/
def marshal (j : Json) : String := String.ofList (Json.print forceEscape j)

/-- The document of a text, as `json.Unmarshal` sees it. -/
def parse (text : String) : Option Json :=
  (Json.read (some '\uFFFD') text.toList).filter fun j => Json.depth j ≤ maxNestingDepth

/-- **`Unmarshal` reads back what `Marshal` wrote.** -/
theorem parse_marshal {j : Json} (h : Json.depth j ≤ maxNestingDepth) :
    parse (marshal j) = some j := by
  rw [parse, marshal, String.toList_ofList, Json.read_print, Option.filter_some, if_pos]
  exact decide_eq_true h

/-! ## Encoders

A Go value as a document. -/

/-- A string.  (`Marshal` writes a byte that is no UTF-8 as the escape of U+FFFD, here it is that
character: the two texts denote the same document.) -/
def encodeString (s : GoString) : Json := .str (Bytes.utf8Lossy s)

/-- An `int64`. -/
def encodeInt64 (i : Int64) : Json := .num (JsonNumber.ofInt i.toInt)

/-- A slice; `nil` is `null`. -/
def encodeSlice {α : Type} (encode : α → Json) : Option (List α) → Json
  | none => .null
  | some xs => .arr (xs.map encode)

/-! ## Decoders

A document is read into an old value, which keeps what the document does not have. -/

/-- Decodes a document into a value that is already there. -/
abbrev Decoder (α : Type) := Json → α → Option α

/-- Into a string. -/
def decodeString : Decoder GoString
  | .null, old => some old
  | .str s, _ => some (Bytes.utf8 s)
  | _, _ => none

/-- Into a `bool`. -/
def decodeBool : Decoder Bool
  | .null, old => some old
  | .bool b, _ => some b
  | _, _ => none

/-- Into an `int64`: the literal is an integer in range. -/
def decodeInt64 : Decoder Int64
  | .null, old => some old
  | .num n, _ => do
    let i ← n.toInt?
    if Int64.minValue.toInt ≤ i ∧ i ≤ Int64.maxValue.toInt then some (Int64.ofInt i) else none
  | _, _ => none

/-- Into a slice that is `nil` before: every element is decoded into a zero value. -/
def decodeSlice {α : Type} (zero : α) (decode : Decoder α) : Decoder (Option (List α))
  | .null, _ => some none
  | .arr vs, _ => (vs.mapM fun v => decode v zero).map some
  | _, _ => none

/-- A field of a struct: its tag and how a document is decoded into it. -/
structure StructField (α : Type) where
  tag : String
  decode : Decoder α

/-- The field with a given getter and setter. -/
def StructField.of {α β : Type} (tag : String) (get : α → β) (set : β → α → α)
    (decode : Decoder β) : StructField α :=
  ⟨tag, fun j a => (decode j (get a)).map fun b => set b a⟩

/-- The representative of a character among those that equal it up to case, as far as tags in
ASCII can tell: two characters beyond ASCII fold to a letter. -/
def foldRune (c : Char) : Char :=
  if 'A' ≤ c ∧ c ≤ 'Z' then c.toLower
  else if c = '\u212A' then 'k'
  else if c = '\u017F' then 's'
  else c

/-- A name up to case. -/
def foldName (s : String) : List Char := s.toList.map foldRune

/-- The field a member names: exactly if there is one, else up to case. -/
def findField {α : Type} (fields : List (StructField α)) (name : String) : Option (StructField α) :=
  (fields.find? fun f => f.tag = name).or
    (fields.find? fun f => foldName f.tag = foldName name)

/-- Decodes one member into a struct. -/
def setMember {α : Type} (fields : List (StructField α)) (a : α) (m : String × Json) : Option α :=
  match findField fields m.1 with
  | some f => f.decode m.2 a
  | none => some a

/-- Into a struct. -/
def decodeStruct {α : Type} (fields : List (StructField α)) : Decoder α
  | .null, old => some old
  | .obj ms, old => ms.foldlM (setMember fields) old
  | _, _ => none

/-- `json.Unmarshal` into a value. -/
def unmarshal {α : Type} (decode : Decoder α) (text : String) (old : α) : Option α := do
  let j ← parse text
  decode j old

/-! ## What decoders do with what encoders write

They read it back, up to texts that are no UTF-8. -/

@[simp] lemma decodeString_encodeString (s old : GoString) :
    decodeString (encodeString s) old = some (GoString.coerce s) := rfl

@[simp] lemma encodeString_coerce (s : GoString) : encodeString s.coerce = encodeString s := by
  rw [encodeString, encodeString, GoString.coerce, Bytes.utf8Lossy_utf8]

@[simp] lemma decodeBool_bool (b old : Bool) : decodeBool (.bool b) old = some b := rfl

@[simp] lemma decodeInt64_encodeInt64 (i old : Int64) :
    decodeInt64 (encodeInt64 i) old = some i := by
  have hmin : -9223372036854775808 ≤ i.toInt := by simpa using Int64.minValue_le_toInt i
  have hmax : i.toInt ≤ Int64.maxValue.toInt := Int64.toInt_le i
  simp [decodeInt64, encodeInt64, hmin, hmax]

lemma decodeSlice_encodeSlice {α : Type} {zero : α} {decode : Decoder α} {encode : α → Json}
    {norm : α → α} (h : ∀ a, decode (encode a) zero = some (norm a)) (xs old : Option (List α)) :
    decodeSlice zero decode (encodeSlice encode xs) old = some (xs.map (List.map norm)) := by
  cases xs with
  | none => rfl
  | some xs =>
    have hmap : ((xs.map encode).mapM fun v => decode v zero) = some (xs.map norm) := by
      induction xs with
      | nil => rfl
      | cons x xs ih => simp [List.mapM_cons, h, ih]
    rw [encodeSlice, decodeSlice, hmap, Option.map_some, Option.map_some]

/-! ## What decoders keep

A property of the old value that each decoder of a field keeps. -/

/-- A property that decoding into any field keeps is kept by decoding the struct. -/
theorem decodeStruct_invariant {α : Type} {fields : List (StructField α)} {P : α → Prop}
    (h : ∀ f ∈ fields, ∀ j a b, P a → f.decode j a = some b → P b) {j : Json} {a b : α}
    (ha : P a) (hdecode : decodeStruct fields j a = some b) : P b := by
  have hmember : ∀ (m : String × Json) (a b : α), P a → setMember fields a m = some b → P b := by
    intro m a b ha hset
    rw [setMember] at hset
    cases hf : findField fields m.1 with
    | none =>
      rw [hf] at hset
      exact Option.some.inj hset ▸ ha
    | some f =>
      rw [hf] at hset
      rw [findField, Option.or_eq_some_iff] at hf
      rcases hf with hf | ⟨-, hf⟩
      · exact h f (List.mem_of_find?_eq_some hf) m.2 a b ha hset
      · exact h f (List.mem_of_find?_eq_some hf) m.2 a b ha hset
  cases j with
  | null => exact Option.some.inj hdecode ▸ ha
  | obj ms =>
    rw [decodeStruct] at hdecode
    induction ms generalizing a with
    | nil => exact Option.some.inj hdecode ▸ ha
    | cons m ms ih =>
      rw [List.foldlM_cons] at hdecode
      obtain ⟨a', hset, hrest⟩ := Option.bind_eq_some_iff.mp hdecode
      exact ih (hmember m a a' ha hset) hrest
  | _ => cases hdecode

/-- What every decoded element has, every element of a decoded slice has. -/
theorem decodeSlice_invariant {α : Type} {zero : α} {decode : Decoder α} {P : α → Prop}
    (h : ∀ j b, decode j zero = some b → P b) {j : Json} {old : Option (List α)} {xs : List α}
    (hdecode : decodeSlice zero decode j old = some (some xs)) : ∀ x ∈ xs, P x := by
  cases j with
  | arr vs =>
    obtain ⟨ys, hmap, hys⟩ := Option.map_eq_some_iff.mp hdecode
    obtain rfl := Option.some.inj hys
    clear hdecode hys
    induction vs generalizing ys with
    | nil =>
      obtain rfl := Option.some.inj hmap
      simp
    | cons v vs ih =>
      rw [List.mapM_cons] at hmap
      obtain ⟨y, hy, hrest⟩ := Option.bind_eq_some_iff.mp hmap
      obtain ⟨zs, hzs, hcons⟩ := Option.bind_eq_some_iff.mp hrest
      obtain rfl := Option.some.inj hcons
      intro x hx
      rcases List.mem_cons.mp hx with rfl | hx
      · exact h v _ hy
      · exact ih zs hzs x hx
  | _ => cases hdecode

lemma decodeString_valid {j : Json} {old s : GoString} (hold : old.Valid)
    (h : decodeString j old = some s) : s.Valid := by
  cases j with
  | null => exact Option.some.inj h ▸ hold
  | str t => exact Option.some.inj h ▸ GoString.valid_utf8 t
  | _ => cases h

/-! ## Nesting

How deep the encoders nest. -/

@[simp] lemma depth_encodeString (s : GoString) : Json.depth (encodeString s) = 0 := rfl

@[simp] lemma depth_encodeInt64 (i : Int64) : Json.depth (encodeInt64 i) = 0 := rfl

/-- A slice of documents of bounded nesting nests one level deeper. -/
lemma depth_encodeSlice {α : Type} (encode : α → Json) {n : ℕ}
    (h : ∀ a, Json.depth (encode a) ≤ n) (xs : Option (List α)) :
    Json.depth (encodeSlice encode xs) ≤ n + 1 := by
  cases xs with
  | none => simp [encodeSlice]
  | some xs =>
    have hmax : Json.depthElems (xs.map encode) ≤ n := by
      induction xs with
      | nil => simp
      | cons x xs ih => simpa using ⟨h x, ih⟩
    simpa [encodeSlice] using hmax

end GoJson
