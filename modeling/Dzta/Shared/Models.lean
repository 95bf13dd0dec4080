import Dzta.Library.Rust
import Dzta.Library.SerdeJson

/-!
# Shared types

What the crates share: the errors of the wallet and of everything that works for it, the attributes
of a credential, and the records of the ledger as Rust code decodes them.  The chaincode has its own
types for these records, so those of this module are in the namespace `Shared`.  Members that no
field asks for are ignored and most fields have defaults: a name on which the two sides differ is
no error.
-/

namespace DZTA

/-! ## Errors

The texts of the errors, as they are shown. -/

/-- `WalletError`: what can fail, with the text that says why. -/
inductive WalletError where
  | fabricError (message : String)
  | vcxError (message : String)
  | askarError (message : String)
  | storageError (message : String)
  | chaincodeFailed (message : String)
  | invalidResponse
  | serializationError (message : String)
  | networkError (message : String)
  | configError (message : String)
  | credentialNotFound (message : String)
  | didNotFound (message : String)
  | invalidWitness (message : String)
  | signingError (message : String)
  | transactionFailed (message : String)
  | grpcError (message : String)
  | revocationError (message : String)
  | transactionTimeout
  | executionFailed (message : String)
  | request (message : String)
  | unknown (message : String)
deriving DecidableEq, Repr

/-- The text of an error. -/
def WalletError.text : WalletError → String
  | fabricError message => "Fabric client error: " ++ message
  | vcxError message => "VCX error: " ++ message
  | askarError message => "Askar error: " ++ message
  | storageError message => "Storage error: " ++ message
  | chaincodeFailed message => "Chaincode invocation failed: " ++ message
  | invalidResponse => "Invalid response from peer"
  | serializationError message => "Serialization error: " ++ message
  | networkError message => "Network error: " ++ message
  | configError message => "Configuration error: " ++ message
  | credentialNotFound message => "Credential not found: " ++ message
  | didNotFound message => "DID not found: " ++ message
  | invalidWitness message => "Invalid witness: " ++ message
  | signingError message => "Signing error: " ++ message
  | transactionFailed message => "Transaction failed: " ++ message
  | grpcError message => "gRPC error: " ++ message
  | revocationError message => "Revocation check failed: " ++ message
  | transactionTimeout => "Timeout waiting for transaction confirmation"
  | executionFailed message => "Tee Execution failed: " ++ message
  | request message => "provider request failed: " ++ message
  | unknown message => "Unknown error: " ++ message

/-- `WalletResult`: a value or an error of the wallet. -/
abbrev WalletResult := Except WalletError

/-! ## Credentials and schemas

What is certified, and what a schema asks for. -/

/-- `CredentialAttributes`: what is certified of a subject. -/
structure CredentialAttributes where
  userRoleId : String
  orgId : String
  clearanceLevel : UInt64
  timestamp : Int64
deriving DecidableEq

namespace Shared

open Json

/-- `SchemaAttribute`: a field of a schema, with its type. -/
structure SchemaAttribute where
  name : String
  attrType : String
  predicate : Bool
deriving DecidableEq

/-- The derived `Deserialize`. -/
def SchemaAttribute.deserialize : Json → Option SchemaAttribute
  | .obj ms => do
    some ⟨← (← requiredField "name" ms).asString?, ← (← requiredField "type" ms).asString?,
      ← (← requiredField "predicate" ms).asBool?⟩
  | .arr [name, attrType, predicate] => do
    some ⟨← name.asString?, ← attrType.asString?, ← predicate.asBool?⟩
  | _ => none

/-- The derived `Serialize`. -/
def SchemaAttribute.serialize (a : SchemaAttribute) : Json :=
  .obj [("name", .str a.name), ("type", .str a.attrType), ("predicate", .bool a.predicate)]

/-- `CredentialSchema`: the fields that a credential of this kind has. -/
structure CredentialSchema where
  schemaId : String
  issuerDid : String
  name : String
  version : String
  attributes : List SchemaAttribute
  created : Int64
deriving DecidableEq

/-- The derived `Deserialize`. -/
def CredentialSchema.deserialize : Json → Option CredentialSchema
  | .obj ms => do
    some ⟨← (← requiredField "schema_id" ms).asString?,
      ← (← requiredField "issuer_did" ms).asString?, ← (← requiredField "name" ms).asString?,
      ← (← requiredField "version" ms).asString?,
      ← (← (← requiredField "attributes" ms).asArray?).mapM SchemaAttribute.deserialize,
      ← (← requiredField "created" ms).asI64?⟩
  | .arr [schemaId, issuerDid, name, version, attributes, created] => do
    some ⟨← schemaId.asString?, ← issuerDid.asString?, ← name.asString?, ← version.asString?,
      ← (← attributes.asArray?).mapM SchemaAttribute.deserialize, ← created.asI64?⟩
  | _ => none

/-! ### DID documents

As the client reads them. -/

/-- `VerificationMethod`: a key of a document, with the one who controls it. -/
structure VerificationMethod where
  id : String
  methodType : String
  controller : String
  publicKeyMultibase : String
deriving DecidableEq

/-- The derived `Deserialize`.  The key keeps the name that it has in Rust. -/
def VerificationMethod.deserialize : Json → Option VerificationMethod
  | .obj ms => do
    some ⟨← (← requiredField "id" ms).asString?, ← (← requiredField "type" ms).asString?,
      ← (← requiredField "controller" ms).asString?,
      ← defaultField "public_key_multibase" "" asString? ms⟩
  | .arr vs => do
    guard (vs.length ≤ 4)
    some ⟨← (← vs[0]?).asString?, ← (← vs[1]?).asString?, ← (← vs[2]?).asString?,
      ← defaultElement 3 "" asString? vs⟩
  | _ => none

/-- `DIDDocument`: the keys of a DID, and what they are for. -/
structure DIDDocument where
  context : List String
  did : String
  issuerDid : String
  publicKey : String
  verificationMethod : List VerificationMethod
  authentication : List String
  assertionMethod : List String
  created : Int64
  updated : Int64
  active : Bool
deriving DecidableEq

/-- `deserialize_bool_or_default`: null is taken for true. -/
def deserializeBoolOrDefault (v : Json) : Option Bool :=
  (Json.optional asBool? v).map fun opt => opt.getD true

/-- A list of verification methods. -/
def verificationMethods (v : Json) : Option (List VerificationMethod) :=
  v.asArray?.bind fun vs => vs.mapM VerificationMethod.deserialize

/-- The derived `Deserialize`. -/
def DIDDocument.deserialize : Json → Option DIDDocument
  | .obj ms => do
    some ⟨← defaultField "@context" [] strings ms, ← (← aliasedField ["did", "id"] ms).asString?,
      ← defaultField "issuer_did" "" asString? ms, ← defaultField "public_key" "" asString? ms,
      ← defaultField "verificationMethod" [] verificationMethods ms,
      ← defaultField "authentication" [] strings ms,
      ← defaultField "assertionMethod" [] strings ms, ← defaultField "created" 0 asI64? ms,
      ← defaultField "updated" 0 asI64? ms,
      ← defaultField "active" false deserializeBoolOrDefault ms⟩
  | .arr vs => do
    guard (vs.length ≤ 10)
    some ⟨← defaultElement 0 [] strings vs, ← (← vs[1]?).asString?,
      ← defaultElement 2 "" asString? vs, ← defaultElement 3 "" asString? vs,
      ← defaultElement 4 [] verificationMethods vs, ← defaultElement 5 [] strings vs,
      ← defaultElement 6 [] strings vs, ← defaultElement 7 0 asI64? vs,
      ← defaultElement 8 0 asI64? vs, ← defaultElement 9 false deserializeBoolOrDefault vs⟩
  | _ => none

/-- The field `active` of a document, as its decoder reads it from an object. -/
lemma DIDDocument.defaultField_active {ms : List (String × Json)} {doc : DIDDocument}
    (h : DIDDocument.deserialize (.obj ms) = some doc) :
    defaultField "active" false deserializeBoolOrDefault ms = some doc.active := by
  simp only [DIDDocument.deserialize, Option.bind_eq_bind, Option.bind_eq_some_iff] at h
  grind

/-- The same field, as it is read from an array. -/
lemma DIDDocument.defaultElement_active {vs : List Json} {doc : DIDDocument}
    (h : DIDDocument.deserialize (.arr vs) = some doc) :
    defaultElement 9 false deserializeBoolOrDefault vs = some doc.active := by
  simp only [DIDDocument.deserialize, Option.bind_eq_bind, Option.bind_eq_some_iff] at h
  grind

/-! ### Credential metadata

As the client reads it. -/

/-- `CredentialMetadata`: what the ledger tells of a credential. -/
structure CredentialMetadata where
  credentialId : String
  schemaId : String
  issuerDid : String
  subjectDid : String
  issuedAt : Int64
  expiresAt : Int64
  revoked : Bool
  revokedAt : Option Int64
  zkpSupported : Bool
  proofableFields : List String
deriving DecidableEq

/-- The derived `Deserialize`. -/
def CredentialMetadata.deserialize : Json → Option CredentialMetadata
  | .obj ms => do
    some ⟨← (← requiredField "credential_id" ms).asString?,
      ← (← requiredField "schema_id" ms).asString?, ← (← requiredField "issuer_did" ms).asString?,
      ← (← requiredField "subject_did" ms).asString?, ← (← requiredField "issued_at" ms).asI64?,
      ← (← requiredField "expires_at" ms).asI64?, ← (← requiredField "revoked" ms).asBool?,
      ← defaultField "revoked_at" none (Json.optional asI64?) ms,
      ← defaultField "zkp_supported" false asBool? ms,
      ← defaultField "proofable_fields" [] strings ms⟩
  | .arr vs => do
    guard (vs.length ≤ 10)
    some ⟨← (← vs[0]?).asString?, ← (← vs[1]?).asString?, ← (← vs[2]?).asString?,
      ← (← vs[3]?).asString?, ← (← vs[4]?).asI64?, ← (← vs[5]?).asI64?, ← (← vs[6]?).asBool?,
      ← (← vs[7]?.map (Json.optional asI64?)), ← defaultElement 8 false asBool? vs,
      ← defaultElement 9 [] strings vs⟩
  | _ => none

end Shared

end DZTA
