import Dzta.Library.GoJson

/-!
# The records of the chaincode

The three kinds of record that the chaincode keeps, with the JSON that `json.Marshal` writes for
them under their field tags and the decoders that `json.Unmarshal` uses.  The default of every
field is Go's zero value, so `{}` is the value a variable has before it is decoded into.

Every record comes back from its own JSON with its strings coerced
(`decode_encode` of each type), hence unchanged when its strings are UTF-8.  A record decoded as a
record of *another* kind is what the fields they share make of it: **every kind of record decodes
as a DID document** (`DIDDocument.decode_schema`, `DIDDocument.decode_metadata`), since they all
have the tag `issuer_did` and ignore the tags they do not know.
-/

namespace DZTA

open GoJson

/-! ## Schemas

With the attributes as a slice, which may be nil. -/

/-- An attribute of a schema. -/
structure SchemaAttribute where
  name : GoString := []
  attrType : GoString := []
  predicate : Bool := false
deriving DecidableEq

/-- A credential schema; its attributes are a slice that may be `nil`. -/
structure CredentialSchema where
  schemaId : GoString := []
  issuerDid : GoString := []
  name : GoString := []
  version : GoString := []
  attributes : Option (List SchemaAttribute) := none
  created : Int64 := 0
deriving DecidableEq

namespace SchemaAttribute

def fields : List (StructField SchemaAttribute) :=
  [.of "name" name (fun x a => { a with name := x }) decodeString,
   .of "type" attrType (fun x a => { a with attrType := x }) decodeString,
   .of "predicate" predicate (fun x a => { a with predicate := x }) decodeBool]

def decode : Decoder SchemaAttribute := decodeStruct fields

def encode (a : SchemaAttribute) : Json :=
  .obj [("name", encodeString a.name), ("type", encodeString a.attrType),
    ("predicate", .bool a.predicate)]

def coerce (a : SchemaAttribute) : SchemaAttribute :=
  { a with name := a.name.coerce, attrType := a.attrType.coerce }

/-- What was written is read back, up to the repair of strings that are not UTF-8. -/
theorem decode_encode (a : SchemaAttribute) : decode a.encode {} = some a.coerce := by
  simp [decode, encode, decodeStruct, setMember, findField, fields, StructField.of, coerce]

/-- A decoded attribute has UTF-8 strings, so coercing changes nothing. -/
theorem coerce_of_decode {j : Json} {a : SchemaAttribute} (h : decode j {} = some a) :
    a.coerce = a := by
  have hvalid : a.name.Valid ∧ a.attrType.Valid := by
    refine decodeStruct_invariant (P := fun a => a.name.Valid ∧ a.attrType.Valid) ?_
      ⟨GoString.valid_utf8 "", GoString.valid_utf8 ""⟩ h
    intro f hf j a b ha hb
    simp only [fields, List.mem_cons, List.not_mem_nil, or_false] at hf
    rcases hf with rfl | rfl | rfl
    all_goals obtain ⟨x, hx, rfl⟩ := Option.map_eq_some_iff.mp hb
    · exact ⟨decodeString_valid ha.1 hx, ha.2⟩
    · exact ⟨ha.1, decodeString_valid ha.2 hx⟩
    · exact ha
  rw [coerce, GoString.coerce_of_valid hvalid.1, GoString.coerce_of_valid hvalid.2]

end SchemaAttribute

namespace CredentialSchema

def fields : List (StructField CredentialSchema) :=
  [.of "schema_id" schemaId (fun x a => { a with schemaId := x }) decodeString,
   .of "issuer_did" issuerDid (fun x a => { a with issuerDid := x }) decodeString,
   .of "name" name (fun x a => { a with name := x }) decodeString,
   .of "version" version (fun x a => { a with version := x }) decodeString,
   .of "attributes" attributes (fun x a => { a with attributes := x })
    (decodeSlice {} SchemaAttribute.decode),
   .of "created" created (fun x a => { a with created := x }) decodeInt64]

def decode : Decoder CredentialSchema := decodeStruct fields

def encode (s : CredentialSchema) : Json :=
  .obj [("schema_id", encodeString s.schemaId), ("issuer_did", encodeString s.issuerDid),
    ("name", encodeString s.name), ("version", encodeString s.version),
    ("attributes", encodeSlice SchemaAttribute.encode s.attributes),
    ("created", encodeInt64 s.created)]

def coerce (s : CredentialSchema) : CredentialSchema :=
  { s with
    schemaId := s.schemaId.coerce
    issuerDid := s.issuerDid.coerce
    name := s.name.coerce
    version := s.version.coerce
    attributes := s.attributes.map (List.map SchemaAttribute.coerce) }

/-- What was written is read back, up to the repair of strings that are not UTF-8. -/
theorem decode_encode (s : CredentialSchema) : decode s.encode {} = some s.coerce := by
  simp [decode, encode, decodeStruct, setMember, findField, fields, StructField.of, coerce,
    decodeSlice_encodeSlice SchemaAttribute.decode_encode]

end CredentialSchema

/-! ## Credential metadata

The record of a credential on the ledger. -/

/-- What the ledger knows of a credential. -/
structure CredentialMetadata where
  credentialId : GoString := []
  schemaId : GoString := []
  issuerDid : GoString := []
  subjectDid : GoString := []
  issuedAt : Int64 := 0
  expiresAt : Int64 := 0
  revoked : Bool := false
deriving DecidableEq

namespace CredentialMetadata

def fields : List (StructField CredentialMetadata) :=
  [.of "credential_id" credentialId (fun x a => { a with credentialId := x }) decodeString,
   .of "schema_id" schemaId (fun x a => { a with schemaId := x }) decodeString,
   .of "issuer_did" issuerDid (fun x a => { a with issuerDid := x }) decodeString,
   .of "subject_did" subjectDid (fun x a => { a with subjectDid := x }) decodeString,
   .of "issued_at" issuedAt (fun x a => { a with issuedAt := x }) decodeInt64,
   .of "expires_at" expiresAt (fun x a => { a with expiresAt := x }) decodeInt64,
   .of "revoked" revoked (fun x a => { a with revoked := x }) decodeBool]

def decode : Decoder CredentialMetadata := decodeStruct fields

def encode (m : CredentialMetadata) : Json :=
  .obj [("credential_id", encodeString m.credentialId), ("schema_id", encodeString m.schemaId),
    ("issuer_did", encodeString m.issuerDid), ("subject_did", encodeString m.subjectDid),
    ("issued_at", encodeInt64 m.issuedAt), ("expires_at", encodeInt64 m.expiresAt),
    ("revoked", .bool m.revoked)]

def coerce (m : CredentialMetadata) : CredentialMetadata :=
  { m with
    credentialId := m.credentialId.coerce
    schemaId := m.schemaId.coerce
    issuerDid := m.issuerDid.coerce
    subjectDid := m.subjectDid.coerce }

/-- What was written is read back, up to the repair of strings that are not UTF-8. -/
theorem decode_encode (m : CredentialMetadata) : decode m.encode {} = some m.coerce := by
  simp [decode, encode, decodeStruct, setMember, findField, fields, StructField.of, coerce]

end CredentialMetadata

/-! ## DID documents

With the key twice, on its own and in the verification method. -/

/-- A key of a DID document. -/
structure VerificationMethod where
  id : GoString := []
  type : GoString := []
  controller : GoString := []
  publicKeyMultibase : GoString := []
deriving DecidableEq

/-- A DID document. -/
structure DIDDocument where
  context : Option (List GoString) := none
  id : GoString := []
  publicKey : GoString := []
  verificationMethod : Option (List VerificationMethod) := none
  authentication : Option (List GoString) := none
  assertionMethod : Option (List GoString) := none
  issuerDid : GoString := []
deriving DecidableEq

namespace VerificationMethod

def fields : List (StructField VerificationMethod) :=
  [.of "id" id (fun x a => { a with id := x }) decodeString,
   .of "type" type (fun x a => { a with type := x }) decodeString,
   .of "controller" controller (fun x a => { a with controller := x }) decodeString,
   .of "publicKeyMultibase" publicKeyMultibase (fun x a => { a with publicKeyMultibase := x })
    decodeString]

def decode : Decoder VerificationMethod := decodeStruct fields

def encode (v : VerificationMethod) : Json :=
  .obj [("id", encodeString v.id), ("type", encodeString v.type),
    ("controller", encodeString v.controller),
    ("publicKeyMultibase", encodeString v.publicKeyMultibase)]

def coerce (v : VerificationMethod) : VerificationMethod :=
  { id := v.id.coerce
    type := v.type.coerce
    controller := v.controller.coerce
    publicKeyMultibase := v.publicKeyMultibase.coerce }

/-- What was written is read back, up to the repair of strings that are not UTF-8. -/
theorem decode_encode (v : VerificationMethod) : decode v.encode {} = some v.coerce := by
  simp [decode, encode, decodeStruct, setMember, findField, fields, StructField.of, coerce]

end VerificationMethod

namespace DIDDocument

def fields : List (StructField DIDDocument) :=
  [.of "@context" context (fun x a => { a with context := x }) (decodeSlice [] decodeString),
   .of "id" id (fun x a => { a with id := x }) decodeString,
   .of "public_key" publicKey (fun x a => { a with publicKey := x }) decodeString,
   .of "verificationMethod" verificationMethod (fun x a => { a with verificationMethod := x })
    (decodeSlice {} VerificationMethod.decode),
   .of "authentication" authentication (fun x a => { a with authentication := x })
    (decodeSlice [] decodeString),
   .of "assertionMethod" assertionMethod (fun x a => { a with assertionMethod := x })
    (decodeSlice [] decodeString),
   .of "issuer_did" issuerDid (fun x a => { a with issuerDid := x }) decodeString]

def decode : Decoder DIDDocument := decodeStruct fields

/-- The context is the one field that is left out when it is empty. -/
def encodeContext : Option (List GoString) → List (String × Json)
  | some (c :: cs) => [("@context", encodeSlice encodeString (some (c :: cs)))]
  | _ => []

def encode (d : DIDDocument) : Json :=
  .obj (encodeContext d.context ++
    [("id", encodeString d.id), ("public_key", encodeString d.publicKey),
      ("verificationMethod", encodeSlice VerificationMethod.encode d.verificationMethod),
      ("authentication", encodeSlice encodeString d.authentication),
      ("assertionMethod", encodeSlice encodeString d.assertionMethod),
      ("issuer_did", encodeString d.issuerDid)])

/-- An empty context comes back as `nil`. -/
def coerceContext : Option (List GoString) → Option (List GoString)
  | some (c :: cs) => some ((c :: cs).map GoString.coerce)
  | _ => none

def coerce (d : DIDDocument) : DIDDocument :=
  { context := coerceContext d.context
    id := d.id.coerce
    publicKey := d.publicKey.coerce
    verificationMethod := d.verificationMethod.map (List.map VerificationMethod.coerce)
    authentication := d.authentication.map (List.map GoString.coerce)
    assertionMethod := d.assertionMethod.map (List.map GoString.coerce)
    issuerDid := d.issuerDid.coerce }

lemma decodeSlice_strings (xs old : Option (List GoString)) :
    decodeSlice [] decodeString (encodeSlice encodeString xs) old =
      some (xs.map (List.map GoString.coerce)) :=
  decodeSlice_encodeSlice (fun s => decodeString_encodeString s []) xs old

/-- What was written is read back, up to the repair of strings that are not UTF-8. -/
theorem decode_encode (d : DIDDocument) : decode d.encode {} = some d.coerce := by
  have hcontext : (encodeContext d.context).foldlM (setMember fields) {} =
      some { context := coerceContext d.context } := by
    rcases h : d.context with _ | ⟨_ | ⟨c, cs⟩⟩
    · rfl
    · rfl
    · simp [encodeContext, coerceContext, setMember, findField, fields, StructField.of,
        decodeSlice_strings]
  rw [decode, encode, decodeStruct, List.foldlM_append, hcontext]
  simp [setMember, findField, fields, StructField.of, coerce, decodeSlice_strings,
    decodeSlice_encodeSlice VerificationMethod.decode_encode]

/-- **A schema decodes as a DID document** that has its issuer and nothing else. -/
theorem decode_schema (s : CredentialSchema) :
    decode s.encode {} = some { issuerDid := s.issuerDid.coerce } := by
  simp [decode, CredentialSchema.encode, decodeStruct, setMember, findField, fields,
    StructField.of, foldName, foldRune]

/-- **So does the metadata of a credential.** -/
theorem decode_metadata (m : CredentialMetadata) :
    decode m.encode {} = some { issuerDid := m.issuerDid.coerce } := by
  simp [decode, CredentialMetadata.encode, decodeStruct, setMember, findField, fields,
    StructField.of, foldName, foldRune]

end DIDDocument

/-! ## Nesting

No record nests deeper than the decoders go. -/

/-- Records nest three levels deep at most, so `json.Unmarshal` never gives up on one. -/
lemma depth_schema (s : CredentialSchema) : Json.depth s.encode ≤ maxNestingDepth := by
  have hattr := depth_encodeSlice SchemaAttribute.encode (n := 1)
    (fun a => by simp [SchemaAttribute.encode])
    s.attributes
  simp [CredentialSchema.encode, maxNestingDepth]
  omega

lemma depth_metadata (m : CredentialMetadata) : Json.depth m.encode ≤ maxNestingDepth := by
  simp [CredentialMetadata.encode, maxNestingDepth]

lemma depth_didDocument (d : DIDDocument) : Json.depth d.encode ≤ maxNestingDepth := by
  have hmethod := depth_encodeSlice VerificationMethod.encode (n := 1)
    (fun v => by simp [VerificationMethod.encode])
    d.verificationMethod
  have hstrings : ∀ xs, Json.depth (encodeSlice encodeString xs) ≤ 1 :=
    depth_encodeSlice encodeString fun s => (depth_encodeString s).le
  have hauth := hstrings d.authentication
  have hassert := hstrings d.assertionMethod
  rcases h : d.context with _ | ⟨_ | ⟨c, cs⟩⟩
  all_goals
    have hcontext := hstrings d.context
    rw [h] at hcontext
    simp [DIDDocument.encode, DIDDocument.encodeContext, h,
      maxNestingDepth]
    omega

end DZTA
