import Dzta.Issuer.Issuance
import Dzta.Library.SerdeVisitor

/-!
# Credentials on delivery

How an issued and a stored credential are written and read.  Dates are written as seconds since the
epoch.  Reading them back, `datetime_utc` and `option_datetime_utc` take any `i64` from the text and
unwrap the date that chrono makes of it, so **an `i64` that is no date panics**
(`datetimeUtc_eq_panic_iff`, `optionDatetimeUtc_eq_panic_iff`).

**`credentials_decodeSafely_iff`** says when a text is read safely: it does not get the reader to
such a date, and if it is a credential as a whole, serde_json reads its data back.  What an issuer
returns arrives as it was, but for the nanoseconds of its date (`createCredential_delivered`).
-/

namespace DZTA

open Json

/-! ## Dates

Seconds, which not every calendar has. -/

section Dates

variable (chrono : Chrono)

/-- `datetime_utc::serialize`: a point in time as its seconds. -/
def datetimeUtcSerialize (dt : DateTime) : Json := ofI64 dt.seconds

/-- `datetime_utc::deserialize`: seconds as a point in time, which the calendar must have. -/
def datetimeUtcDeserialize (value : Pending) : Outcome DateTime := do
  let ts ← Outcome.ofExcept (value.read asI64?)
  Outcome.unwrap "No such local time" (chrono.fromTimestamp ts 0)

/-- `option_datetime_utc::serialize`: null, or the seconds. -/
def optionDatetimeUtcSerialize : Option DateTime → Json
  | some dt => ofI64 dt.seconds
  | none => null

/-- `option_datetime_utc::deserialize`: null is no point in time. -/
def optionDatetimeUtcDeserialize (value : Pending) : Outcome (Option DateTime) := do
  let opt ← Outcome.ofExcept (value.read (optional asI64?))
  match opt with
  | some ts => do
    let dt ← Outcome.unwrap "called `Option::unwrap()` on a `None` value"
      (chrono.fromTimestamp ts 0)
    pure (some dt)
  | none => pure none

/-- A date that is read from its seconds. -/
def WholeSecond (dt : DateTime) : Prop :=
  chrono.supported dt.seconds = true ∧ dt.nanoseconds = 0

variable {chrono} {value : Pending}

lemma fromTimestamp_eq_some_iff {ts : Int64} {dt : DateTime} :
    chrono.fromTimestamp ts 0 = some dt ↔ chrono.supported ts = true ∧ dt = ⟨ts, 0⟩ := by
  rw [Chrono.fromTimestamp]
  split
  · rename_i h
    simp [h, eq_comm]
  · rename_i h
    simp [h]

lemma fromTimestamp_eq_none_iff {ts : Int64} :
    chrono.fromTimestamp ts 0 = none ↔ chrono.supported ts = false := by
  simp [Chrono.fromTimestamp]

lemma datetimeUtc_eq_ok_iff {dt : DateTime} :
    datetimeUtcDeserialize chrono value = .ok dt ↔
      value.read asI64? = .ok dt.seconds ∧ WholeSecond chrono dt := by
  simp only [datetimeUtcDeserialize, Outcome.bind_eq_ok_iff, Outcome.ofExcept_eq_ok_iff,
    Outcome.unwrap_eq_ok_iff, fromTimestamp_eq_some_iff]
  constructor
  · rintro ⟨ts, hread, hsupported, rfl⟩
    exact ⟨hread, hsupported, rfl⟩
  · rintro ⟨hread, hsupported, hnano⟩
    exact ⟨_, hread, hsupported, by rw [← hnano]⟩

/-- A date is read from an `i64` that chrono supports. -/
lemma exists_datetimeUtc_iff :
    (∃ dt, datetimeUtcDeserialize chrono value = .ok dt) ↔
      ∃ ts, value.read asI64? = .ok ts ∧ chrono.supported ts = true := by
  simp only [datetimeUtc_eq_ok_iff]
  constructor
  · rintro ⟨dt, hread, hsupported, -⟩
    exact ⟨dt.seconds, hread, hsupported⟩
  · rintro ⟨ts, hread, hsupported⟩
    exact ⟨⟨ts, 0⟩, hread, hsupported, rfl⟩

/-- **A date panics** at an `i64` that chrono does not support. -/
lemma datetimeUtc_eq_panic_iff :
    (∃ message, datetimeUtcDeserialize chrono value = .panic message) ↔
      ∃ ts, value.read asI64? = .ok ts ∧ chrono.supported ts = false := by
  simp [datetimeUtcDeserialize, Outcome.bind_eq_panic_iff, fromTimestamp_eq_none_iff]

lemma optionDatetimeUtc_eq_ok_iff {opt : Option DateTime} :
    optionDatetimeUtcDeserialize chrono value = .ok opt ↔
      value.read (optional asI64?) = .ok (opt.map DateTime.seconds) ∧
        ∀ dt ∈ opt, WholeSecond chrono dt := by
  rw [optionDatetimeUtcDeserialize, Outcome.bind_eq_ok_iff]
  constructor
  · rintro ⟨read, hread, h⟩
    rw [Outcome.ofExcept_eq_ok_iff] at hread
    cases read with
    | none =>
      obtain rfl := Outcome.ok.inj h
      exact ⟨hread, by simp⟩
    | some ts =>
      obtain ⟨dt, hdt, h⟩ := Outcome.bind_eq_ok_iff.mp h
      obtain rfl := Outcome.ok.inj h
      obtain ⟨hsupported, rfl⟩ := fromTimestamp_eq_some_iff.mp (Outcome.unwrap_eq_ok_iff.mp hdt)
      refine ⟨hread, fun dt hdt => ?_⟩
      obtain rfl := Option.some.inj hdt
      exact ⟨hsupported, rfl⟩
  · rintro ⟨hread, hdate⟩
    refine ⟨_, Outcome.ofExcept_eq_ok_iff.mpr hread, ?_⟩
    cases opt with
    | none => rfl
    | some dt =>
      obtain ⟨hsupported, hnano⟩ := hdate dt rfl
      have hdt : chrono.fromTimestamp dt.seconds 0 = some dt :=
        fromTimestamp_eq_some_iff.mpr ⟨hsupported, by rw [← hnano]⟩
      rw [Option.map_some]
      dsimp only
      rw [hdt]
      rfl

/-- An optional date is read from `null` and from an `i64` that chrono supports. -/
lemma exists_optionDatetimeUtc_iff :
    (∃ opt, optionDatetimeUtcDeserialize chrono value = .ok opt) ↔
      ∃ opt, value.read (optional asI64?) = .ok opt ∧ ∀ ts ∈ opt, chrono.supported ts = true := by
  simp only [optionDatetimeUtc_eq_ok_iff]
  constructor
  · rintro ⟨opt, hread, hdate⟩
    refine ⟨_, hread, fun ts hts => ?_⟩
    obtain ⟨dt, hdt, rfl⟩ := Option.mem_map.mp hts
    exact (hdate dt hdt).1
  · rintro ⟨opt, hread, hsupported⟩
    refine ⟨opt.map fun ts => ⟨ts, 0⟩, ?_, fun dt hdt => ?_⟩
    · simpa [Function.comp_def] using hread
    · obtain ⟨ts, hts, rfl⟩ := Option.mem_map.mp hdt
      exact ⟨hsupported ts hts, rfl⟩

/-- **A written optional date** reads as its seconds. -/
lemma optional_optionDatetimeUtcSerialize (opt : Option DateTime) :
    optional asI64? (optionDatetimeUtcSerialize opt) = some (opt.map DateTime.seconds) := by
  cases opt with
  | none => rfl
  | some dt =>
    change (asI64? (ofI64 dt.seconds)).map some = _
    rw [asI64?_ofI64]
    rfl

lemma plain_optionDatetimeUtcSerialize (opt : Option DateTime) :
    (optionDatetimeUtcSerialize opt).Plain := by
  cases opt with
  | none => exact trivial
  | some dt => exact plain_ofI64 _

lemma depth_optionDatetimeUtcSerialize (opt : Option DateTime) :
    (optionDatetimeUtcSerialize opt).depth ≤ 126 := by
  cases opt with
  | none => exact Nat.zero_le _
  | some dt => exact Nat.zero_le _

/-- **An optional date panics** at an `i64` that chrono does not support. -/
lemma optionDatetimeUtc_eq_panic_iff :
    (∃ message, optionDatetimeUtcDeserialize chrono value = .panic message) ↔
      ∃ ts, value.read (optional asI64?) = .ok (some ts) ∧ chrono.supported ts = false := by
  simp only [optionDatetimeUtcDeserialize, Outcome.bind_eq_panic_iff, Outcome.ofExcept_eq_ok_iff,
    Outcome.ofExcept_ne_panic, false_or]
  constructor
  · rintro ⟨message, opt, hread, h⟩
    cases opt with
    | none => cases h
    | some ts =>
      rcases Outcome.bind_eq_panic_iff.mp h with hunwrap | ⟨_, -, h⟩
      · exact ⟨ts, hread, fromTimestamp_eq_none_iff.mp (Outcome.unwrap_eq_panic_iff.mp hunwrap).1⟩
      · cases h
  · rintro ⟨ts, hread, hsupported⟩
    have hnone := fromTimestamp_eq_none_iff.mpr hsupported
    exact ⟨_, some ts, hread, Outcome.bind_eq_panic_iff.mpr
      (.inl (Outcome.unwrap_eq_panic_iff.mpr ⟨hnone, rfl⟩))⟩

end Dates

/-! ## Issued credentials

The fields of the struct, each with its type and its reader. -/

/-- The fields of an `IssuedCredential`. -/
inductive IssuedCredential.Field where
  | credentialId
  | schemaId
  | issuerDid
  | subjectDid
  | credentialData
  | issuedAt
  | expiresAt
deriving DecidableEq

namespace IssuedCredential

/-- The type of a field. -/
def Field.Value : Field → Type
  | .credentialData => Json
  | .issuedAt => DateTime
  | .expiresAt => Option DateTime
  | _ => String

/-- How the value of a field is written. -/
def Field.serialize : (i : Field) → i.Value → Json
  | .credentialId, id => .str id
  | .schemaId, id => .str id
  | .issuerDid, did => .str did
  | .subjectDid, did => .str did
  | .credentialData, data => data
  | .issuedAt, dt => datetimeUtcSerialize dt
  | .expiresAt, opt => optionDatetimeUtcSerialize opt

variable (chrono : Chrono)

/-- How the value of a field is read. -/
def Field.deserialize : (i : Field) → Pending → Outcome i.Value
  | .credentialId, value => .ofExcept (value.read asString?)
  | .schemaId, value => .ofExcept (value.read asString?)
  | .issuerDid, value => .ofExcept (value.read asString?)
  | .subjectDid, value => .ofExcept (value.read asString?)
  | .credentialData, value => .ofExcept (value.read some)
  | .issuedAt, value => datetimeUtcDeserialize chrono value
  | .expiresAt, value => optionDatetimeUtcDeserialize chrono value

/-- The name of a field. -/
def Field.name : Field → String
  | .credentialId => "credential_id"
  | .schemaId => "schema_id"
  | .issuerDid => "issuer_did"
  | .subjectDid => "subject_did"
  | .credentialData => "credential_data"
  | .issuedAt => "issued_at"
  | .expiresAt => "expires_at"

/-- The visitor of `IssuedCredential`. -/
def visitor : StructVisitor Field Field.Value where
  name := "IssuedCredential"
  fields := [.credentialId, .schemaId, .issuerDid, .subjectDid, .credentialData, .issuedAt,
    .expiresAt]
  fieldName := Field.name
  read := Field.deserialize chrono
  mem_fields i := by cases i <;> simp
  nodup_names := by decide

/-- A credential and its fields. -/
def ofFields : ((i : Field) → i.Value) ≃ IssuedCredential where
  toFun s := ⟨s .credentialId, s .schemaId, s .issuerDid, s .subjectDid, s .credentialData,
    s .issuedAt, s .expiresAt⟩
  invFun issued
    | .credentialId => issued.credentialId
    | .schemaId => issued.schemaId
    | .issuerDid => issued.issuerDid
    | .subjectDid => issued.subjectDid
    | .credentialData => issued.credentialData
    | .issuedAt => issued.issuedAt
    | .expiresAt => issued.expiresAt
  left_inv s := by
    funext i
    cases i <;> rfl
  right_inv _ := rfl

/-- `to_vec` of an `IssuedCredential`. -/
def toVec (issued : IssuedCredential) : Bytes :=
  Bytes.utf8 (SerdeJson.toString (.obj
    [("credential_id", .str issued.credentialId), ("schema_id", .str issued.schemaId),
      ("issuer_did", .str issued.issuerDid), ("subject_did", .str issued.subjectDid),
      ("credential_data", issued.credentialData),
      ("issued_at", datetimeUtcSerialize issued.issuedAt),
      ("expires_at", optionDatetimeUtcSerialize issued.expiresAt)]))

lemma toVec_eq_document :
    toVec = fun issued => (visitor chrono).document fun i => i.serialize (ofFields.symm issued i) :=
  rfl

/-- `from_slice` of an `IssuedCredential`. -/
def fromSlice (reader : JsonReader) (bytes : Bytes) : Outcome IssuedCredential := do
  let s ← (visitor chrono).visit (reader.deliver bytes)
  pure (ofFields s)

/-- A value that the field can be read from. -/
def Field.Readable : Field → Pending → Prop
  | .credentialData, value => ∃ data, value.read some = .ok data
  | .issuedAt, value => ∃ ts, value.read asI64? = .ok ts ∧ chrono.supported ts = true
  | .expiresAt, value => ∃ opt, value.read (optional asI64?) = .ok opt ∧
      ∀ ts ∈ opt, chrono.supported ts = true
  | _, value => ∃ text, value.read asString? = .ok text

/-- An `i64` in a date that chrono does not support. -/
def Field.Unsupported : Field → Pending → Prop
  | .issuedAt, value => ∃ ts, value.read asI64? = .ok ts ∧ chrono.supported ts = false
  | .expiresAt, value => ∃ ts, value.read (optional asI64?) = .ok (some ts) ∧
      chrono.supported ts = false
  | _, _ => False

/-- A value that keeps when it is written: a date loses what is below the second. -/
def Field.Keeps (reader : JsonReader) : (i : Field) → i.Value → Prop
  | .credentialData, data => reader.ReadsBack data
  | .issuedAt, dt => WholeSecond chrono dt
  | .expiresAt, (opt : Option DateTime) => ∀ dt ∈ opt, WholeSecond chrono dt
  | _, _ => True

variable {chrono} {reader : JsonReader}

lemma Field.readable_iff (i : Field) (value : Pending) :
    i.Readable chrono value ↔ ∃ a, i.deserialize chrono value = .ok a := by
  cases i with
  | issuedAt => exact exists_datetimeUtc_iff.symm
  | expiresAt => exact exists_optionDatetimeUtc_iff.symm
  | _ => exact Outcome.exists_ofExcept_iff.symm

lemma Field.unsupported_iff (i : Field) (value : Pending) :
    i.Unsupported chrono value ↔ ∃ message, i.deserialize chrono value = .panic message := by
  cases i with
  | issuedAt => exact datetimeUtc_eq_panic_iff.symm
  | expiresAt => exact optionDatetimeUtc_eq_panic_iff.symm
  | _ => exact iff_of_false id fun ⟨_, h⟩ => Outcome.ofExcept_ne_panic h

/-- A text that was read keeps. -/
lemma ofExcept_asString_of_stands {text : String} {value : Pending}
    (h : reader.Stands (.str text) value) :
    Outcome.ofExcept (value.read asString?) = .ok text :=
  Outcome.ofExcept_eq_ok_iff.mpr
    ((h.read_eq_ok_iff trivial (Nat.zero_le _) asString? text).mpr rfl)

/-- **A written value is read again** exactly if it keeps. -/
lemma Field.keeps_iff (i : Field) (a : i.Value) (value : Pending)
    (hstands : reader.Stands (i.serialize a) value) :
    i.deserialize chrono value = .ok a ↔ i.Keeps chrono reader a := by
  cases i with
  | credentialData => exact Outcome.ofExcept_eq_ok_iff.trans (hstands some a)
  | issuedAt =>
    refine datetimeUtc_eq_ok_iff.trans (and_iff_right ?_)
    exact (hstands.read_eq_ok_iff (plain_ofI64 _) (Nat.zero_le _) asI64? _).mpr (asI64?_ofI64 _)
  | expiresAt =>
    refine optionDatetimeUtc_eq_ok_iff.trans (and_iff_right ?_)
    exact (hstands.read_eq_ok_iff (plain_optionDatetimeUtcSerialize a)
      (depth_optionDatetimeUtcSerialize a) (optional asI64?) _).mpr
      (optional_optionDatetimeUtcSerialize a)
  | _ => exact iff_of_true (ofExcept_asString_of_stands hstands) trivial

/-- A value that was read keeps, if it is not the data or the data does. -/
lemma Field.keeps_of_deserialize {i : Field} {value : Pending} {a : i.Value}
    (hread : i.deserialize chrono value = .ok a)
    (hdata : i = .credentialData → ∀ data, value.read some = .ok data → reader.ReadsBack data) :
    i.Keeps chrono reader a := by
  cases i with
  | credentialData => exact hdata rfl a (Outcome.ofExcept_eq_ok_iff.mp hread)
  | issuedAt => exact (datetimeUtc_eq_ok_iff.mp hread).2
  | expiresAt => exact (optionDatetimeUtc_eq_ok_iff.mp hread).2
  | _ => exact trivial

/-- **What gets lost on delivery**: a credential is read back exactly if its dates are supported and
have no nanoseconds, and its data is read back. -/
theorem fromSlice_toVec_eq_ok_iff (issued : IssuedCredential) :
    fromSlice chrono reader issued.toVec = .ok issued ↔
      WholeSecond chrono issued.issuedAt ∧ (∀ dt ∈ issued.expiresAt, WholeSecond chrono dt) ∧
        reader.ReadsBack issued.credentialData := by
  have hfields : fromSlice chrono reader issued.toVec = .ok issued ↔
      ∀ i : Field, i.Keeps chrono reader (ofFields.symm issued i) := by
    rw [← (visitor chrono).visit_document_eq_ok_iff reader Field.keeps_iff,
      toVec_eq_document chrono, fromSlice, Outcome.bind_eq_ok_iff]
    simp [← ofFields.eq_symm_apply]
  rw [hfields]
  constructor
  · intro hall
    exact ⟨hall .issuedAt, hall .expiresAt, hall .credentialData⟩
  · rintro ⟨hissued, hexpires, hdata⟩ i
    cases i with
    | issuedAt => exact hissued
    | expiresAt => exact hexpires
    | credentialData => exact hdata
    | _ => exact trivial

/-- **A text from which an issued credential is read safely**: no date that chrono does not support
is reached, and if it is a credential as a whole, its data is read back. -/
structure Benign (chrono : Chrono) (reader : JsonReader) (bytes : Bytes) : Prop where
  dates : ¬ StructVisitor.Reaches (Field.Readable chrono) (Field.Unsupported chrono)
    ((visitor chrono).members (reader.deliver bytes))
  data : (visitor chrono).Whole (Field.Readable chrono) (reader.deliver bytes) → ∀ value data,
    (some .credentialData, value) ∈ (visitor chrono).members (reader.deliver bytes) →
    value.read some = .ok data → reader.ReadsBack data

lemma decodesSafely_iff (bytes : Bytes) :
    DecodesSafely (fromSlice chrono reader) toVec bytes ↔ Benign chrono reader bytes := by
  have hvisitor := (visitor chrono).decodesSafely_iff reader Field.readable_iff
    Field.unsupported_iff Field.keeps_iff bytes
  have hequiv := decodesSafely_equiv ofFields
    (fun bytes => (visitor chrono).visit (reader.deliver bytes))
    (fun s => (visitor chrono).document fun i => i.serialize (s i)) bytes
  rw [toVec_eq_document chrono]
  refine hequiv.trans (hvisitor.trans ?_)
  constructor
  · rintro ⟨hdates, hdata⟩
    refine ⟨hdates, fun hwhole value data hmem hread => ?_⟩
    exact hdata hwhole .credentialData value data hmem (Outcome.ofExcept_eq_ok_iff.mpr hread)
  · rintro ⟨hdates, hdata⟩
    refine ⟨hdates, fun hwhole i value a hmem hread => ?_⟩
    refine Field.keeps_of_deserialize hread ?_
    rintro rfl data hvalue
    exact hdata hwhole value data hmem hvalue

end IssuedCredential

/-! ## Stored credentials

The same for the struct of the wallet. -/

/-- `StoredCredential`: a credential, as the wallet keeps it. -/
structure StoredCredential where
  credentialId : String
  schemaId : String
  issuerDid : String
  subjectDid : String
  credentialData : Json
  issuedAt : DateTime
  expiresAt : Option DateTime
  storedInAskar : Bool

/-- The fields of a `StoredCredential`: those of an issued credential, and one more. -/
inductive StoredCredential.Field where
  | issued (i : IssuedCredential.Field)
  | storedInAskar
deriving DecidableEq

namespace StoredCredential

/-- The type of a field. -/
def Field.Value : Field → Type
  | .issued i => i.Value
  | .storedInAskar => Bool

/-- How the value of a field is written. -/
def Field.serialize : (i : Field) → i.Value → Json
  | .issued i, a => i.serialize a
  | .storedInAskar, stored => .bool stored

variable (chrono : Chrono)

/-- How the value of a field is read. -/
def Field.deserialize : (i : Field) → Pending → Outcome i.Value
  | .issued i, value => i.deserialize chrono value
  | .storedInAskar, value => .ofExcept (value.read asBool?)

/-- The name of a field. -/
def Field.name : Field → String
  | .issued i => i.name
  | .storedInAskar => "stored_in_askar"

/-- The visitor of `StoredCredential`. -/
def visitor : StructVisitor Field Field.Value where
  name := "StoredCredential"
  fields := [.issued .credentialId, .issued .schemaId, .issued .issuerDid, .issued .subjectDid,
    .issued .credentialData, .issued .issuedAt, .issued .expiresAt, .storedInAskar]
  fieldName := Field.name
  read := Field.deserialize chrono
  mem_fields i := by
    cases i with
    | issued i => cases i <;> simp
    | storedInAskar => simp
  nodup_names := by decide

/-- A credential and its fields. -/
def ofFields : ((i : Field) → i.Value) ≃ StoredCredential where
  toFun s := ⟨s (.issued .credentialId), s (.issued .schemaId), s (.issued .issuerDid),
    s (.issued .subjectDid), s (.issued .credentialData), s (.issued .issuedAt),
    s (.issued .expiresAt), s .storedInAskar⟩
  invFun stored
    | .issued .credentialId => stored.credentialId
    | .issued .schemaId => stored.schemaId
    | .issued .issuerDid => stored.issuerDid
    | .issued .subjectDid => stored.subjectDid
    | .issued .credentialData => stored.credentialData
    | .issued .issuedAt => stored.issuedAt
    | .issued .expiresAt => stored.expiresAt
    | .storedInAskar => stored.storedInAskar
  left_inv s := by
    funext i
    cases i with
    | issued i => cases i <;> rfl
    | storedInAskar => rfl
  right_inv _ := rfl

/-- `to_vec` of a `StoredCredential`. -/
def toVec (stored : StoredCredential) : Bytes :=
  Bytes.utf8 (SerdeJson.toString (.obj
    [("credential_id", .str stored.credentialId), ("schema_id", .str stored.schemaId),
      ("issuer_did", .str stored.issuerDid), ("subject_did", .str stored.subjectDid),
      ("credential_data", stored.credentialData),
      ("issued_at", datetimeUtcSerialize stored.issuedAt),
      ("expires_at", optionDatetimeUtcSerialize stored.expiresAt),
      ("stored_in_askar", .bool stored.storedInAskar)]))

lemma toVec_eq_document :
    toVec = fun stored => (visitor chrono).document fun i => i.serialize (ofFields.symm stored i) :=
  rfl

/-- `from_slice` of a `StoredCredential`. -/
def fromSlice (reader : JsonReader) (bytes : Bytes) : Outcome StoredCredential := do
  let s ← (visitor chrono).visit (reader.deliver bytes)
  pure (ofFields s)

/-- A value that the field can be read from. -/
def Field.Readable : Field → Pending → Prop
  | .issued i, value => i.Readable chrono value
  | .storedInAskar, value => ∃ stored, value.read asBool? = .ok stored

/-- An `i64` in a date that chrono does not support. -/
def Field.Unsupported : Field → Pending → Prop
  | .issued i, value => i.Unsupported chrono value
  | .storedInAskar, _ => False

/-- A value that keeps when it is written. -/
def Field.Keeps (reader : JsonReader) : (i : Field) → i.Value → Prop
  | .issued i, a => i.Keeps chrono reader a
  | .storedInAskar, _ => True

variable {chrono} {reader : JsonReader}

lemma Field.readable_iff (i : Field) (value : Pending) :
    i.Readable chrono value ↔ ∃ a, i.deserialize chrono value = .ok a := by
  cases i with
  | issued i => exact i.readable_iff value
  | storedInAskar => exact Outcome.exists_ofExcept_iff.symm

lemma Field.unsupported_iff (i : Field) (value : Pending) :
    i.Unsupported chrono value ↔ ∃ message, i.deserialize chrono value = .panic message := by
  cases i with
  | issued i => exact i.unsupported_iff value
  | storedInAskar => exact iff_of_false id fun ⟨_, h⟩ => Outcome.ofExcept_ne_panic h

lemma Field.keeps_iff (i : Field) (a : i.Value) (value : Pending)
    (hstands : reader.Stands (i.serialize a) value) :
    i.deserialize chrono value = .ok a ↔ i.Keeps chrono reader a := by
  cases i with
  | issued i => exact i.keeps_iff a value hstands
  | storedInAskar =>
    refine iff_of_true (Outcome.ofExcept_eq_ok_iff.mpr ?_) trivial
    exact (hstands.read_eq_ok_iff trivial (Nat.zero_le _) asBool? a).mpr rfl

/-- **A text from which a stored credential is read safely.** -/
structure Benign (chrono : Chrono) (reader : JsonReader) (bytes : Bytes) : Prop where
  dates : ¬ StructVisitor.Reaches (Field.Readable chrono) (Field.Unsupported chrono)
    ((visitor chrono).members (reader.deliver bytes))
  data : (visitor chrono).Whole (Field.Readable chrono) (reader.deliver bytes) → ∀ value data,
    (some (.issued .credentialData), value) ∈ (visitor chrono).members (reader.deliver bytes) →
    value.read some = .ok data → reader.ReadsBack data

lemma decodesSafely_iff (bytes : Bytes) :
    DecodesSafely (fromSlice chrono reader) toVec bytes ↔ Benign chrono reader bytes := by
  have hvisitor := (visitor chrono).decodesSafely_iff reader Field.readable_iff
    Field.unsupported_iff Field.keeps_iff bytes
  have hequiv := decodesSafely_equiv ofFields
    (fun bytes => (visitor chrono).visit (reader.deliver bytes))
    (fun s => (visitor chrono).document fun i => i.serialize (s i)) bytes
  rw [toVec_eq_document chrono]
  refine hequiv.trans (hvisitor.trans ?_)
  constructor
  · rintro ⟨hdates, hdata⟩
    refine ⟨hdates, fun hwhole value data hmem hread => ?_⟩
    exact hdata hwhole (.issued .credentialData) value data hmem
      (Outcome.ofExcept_eq_ok_iff.mpr hread)
  · rintro ⟨hdates, hdata⟩
    refine ⟨hdates, fun hwhole i value a hmem hread => ?_⟩
    cases i with
    | issued i =>
      refine IssuedCredential.Field.keeps_of_deserialize hread ?_
      rintro rfl data hvalue
      exact hdata hwhole value data hmem hvalue
    | storedInAskar => exact trivial

end StoredCredential

/-! ## Delivery

When the texts of both structs are read back, and when they make the reader panic. -/

/-- **When credentials are read safely**: exactly from the texts in which no date that chrono does
not support is reached, and whose data is read back if they are a credential as a whole. -/
theorem credentials_decodeSafely_iff (chrono : Chrono) (reader : JsonReader) (bytes : Bytes) :
    (DecodesSafely (IssuedCredential.fromSlice chrono reader) IssuedCredential.toVec bytes ↔
      IssuedCredential.Benign chrono reader bytes) ∧
    (DecodesSafely (StoredCredential.fromSlice chrono reader) StoredCredential.toVec bytes ↔
      StoredCredential.Benign chrono reader bytes) :=
  ⟨IssuedCredential.decodesSafely_iff bytes, StoredCredential.decodesSafely_iff bytes⟩

/-- **From the issuer to the holder**: the credential that a call returns is read back by whom it is
delivered to, exactly if the clock showed a whole second. -/
theorem createCredential_delivered {σ : Type} {issuer : Issuer σ} {call : Issuance}
    {schemaId issuerDid subjectDid : String} {attributes : CredentialAttributes}
    {expiresAtUnix : Int64} {ledger ledger' : σ} {issued : IssuedCredential}
    (h : createCredential issuer call schemaId issuerDid subjectDid attributes expiresAtUnix
      ledger = (.ok issued, ledger')) (reader : JsonReader) :
    IssuedCredential.fromSlice issuer.chrono reader issued.toVec = .ok issued ↔
      WholeSecond issuer.chrono call.issuedAt := by
  obtain ⟨_, expiresAt, _, signature, _, _, -, -, -, hdate, -, -, -, rfl⟩ :=
    createCredential_eq_ok h
  obtain ⟨hsupported, rfl⟩ := fromTimestamp_eq_some_iff.mp hdate
  have hexpires : ∀ dt ∈ some (DateTime.mk expiresAtUnix 0), WholeSecond issuer.chrono dt := by
    intro dt hdt
    obtain rfl := Option.some.inj hdt
    exact ⟨hsupported, rfl⟩
  have hdepth : (credentialOf issuerDid (issuer.chrono.toRfc3339 call.issuedAt)
      (issuer.chrono.toRfc3339 ⟨expiresAtUnix, 0⟩) (issuer.chrono.toRfc3339 call.issuedAt)
      signature subjectDid attributes).depth ≤ 126 := by
    simp [credentialOf_eq, credentialSubject]
  rw [IssuedCredential.fromSlice_toVec_eq_ok_iff]
  constructor
  · rintro ⟨hissued, -⟩
    exact hissued
  · intro hissued
    exact ⟨hissued, hexpires, reader.readsBack_of_plain (plain_credentialOf ..) hdepth⟩

/-- The seconds that chrono supports, from the first day of the year -262143 to the last of the year
262142.  (The texts play no part here.) -/
def utcChrono : Chrono where
  supported seconds := -8334601228800 ≤ seconds ∧ seconds ≤ 8210266876799
  toRfc3339 _ := ""
  isRfc3339 _ := false

/-- A credential whose date is the last second of an `i64`. -/
def farDocument : List (String × Json) :=
  [("credential_id", .str "vc-1"), ("schema_id", .str "schema-1"),
    ("issuer_did", .str "did:dzta:issuer"), ("subject_did", .str "did:dzta:alice"),
    ("credential_data", .obj []), ("issued_at", ofI64 Int64.maxValue), ("expires_at", .null)]

/-- **A date far ahead panics.** -/
theorem credentials_not_decodeSafely :
    ¬ ∀ bytes : Bytes,
      DecodesSafely (IssuedCredential.fromSlice utcChrono .strict) IssuedCredential.toVec bytes ∧
      DecodesSafely (StoredCredential.fromSlice utcChrono .strict) StoredCredential.toVec
        bytes := by
  intro hsafe
  refine (hsafe (Bytes.utf8 (SerdeJson.toString (.obj farDocument)))).1.1
    "No such local time" ?_
  rw [IssuedCredential.fromSlice, JsonReader.deliver_strict]
  rfl

end DZTA
