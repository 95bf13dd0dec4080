import Dzta.Library.Effects
import Dzta.Shared.Models

/-!
# The ledger as the issuer sees it

The client through which the issuer reads and writes the ledger.  Every method of it invokes or
queries one function of the chaincode by name; what the gateway and the peers make of that is a
parameter (`Gateway`), over a state of the ledger that an invocation may change.  An operation
returns the state it leaves the ledger in also where it fails (`FabricM`), and what a sequence of
operations did is read off step by step (`EffectM.bind_eq_ok_iff`).
-/

namespace DZTA

/-! ## Operations on a ledger

A client works on a state that stands for the network. -/

/-- An operation that may fail, with the state it leaves the ledger in. -/
abbrev FabricM (σ α : Type) := EffectM WalletError σ α

namespace FabricM

variable {σ α β : Type}

/-- A computation that does not touch the ledger. -/
def ofResult (result : WalletResult α) : FabricM σ α := fun s => (result, s)

lemma ofResult_eq_ok {result : WalletResult α} {s s' : σ} {a : α}
    (h : (ofResult result : FabricM σ α) s = (.ok a, s')) : result = .ok a ∧ s = s' :=
  Prod.mk.inj h

lemma ofResult_of_ok {result : WalletResult α} {a : α} (h : result = .ok a) (s : σ) :
    (ofResult result : FabricM σ α) s = (.ok a, s) := by
  rw [ofResult, h]

end FabricM

/-- What answers to the name of a chaincode function and its arguments. -/
structure Gateway (σ : Type) where
  invokeChaincode : String → List String → FabricM σ String
  queryChaincode : String → List String → FabricM σ Bytes

/-! ## The client

Each method is one call of the chaincode; a query is read as a type of its own. -/

namespace FabricClient

variable {σ : Type} (fabric : Gateway σ) (serde : SerdeJson)

/-- The reply to a query as a value. -/
def queryAs {α : Type} (deserialize : Json → Option α) (function : String) (args : List String) :
    FabricM σ α := do
  let response ← fabric.queryChaincode function args
  .ofResult ((serde.fromSlice deserialize response).mapError .serializationError)

/-- `get_schema`: the schema that is registered under an id. -/
def getSchema (schemaId : String) : FabricM σ Shared.CredentialSchema :=
  queryAs fabric serde Shared.CredentialSchema.deserialize "GetSchema" [schemaId]

/-- `resolve_did`: the document that is registered for a DID. -/
def resolveDid (did : String) : FabricM σ Shared.DIDDocument :=
  queryAs fabric serde Shared.DIDDocument.deserialize "ResolveDID" [did]

/-- `get_credential_metadata`: what the ledger has recorded of a credential. -/
def getCredentialMetadata (credentialId : String) : FabricM σ Shared.CredentialMetadata :=
  queryAs fabric serde Shared.CredentialMetadata.deserialize "GetCredentialMetadata"
    [credentialId]

/-- `is_credential_revoked`: the answer of the ledger for an id. -/
def isCredentialRevoked (credentialId : String) : FabricM σ Bool :=
  queryAs fabric serde Json.asBool? "IsCredentialRevoked" [credentialId]

/-- `verify_credential_active`; the time is the one that the expiry is compared with. -/
def verifyCredentialActive (now : DateTime) (credentialId : String) : FabricM σ Bool := do
  let revoked ← isCredentialRevoked fabric serde credentialId
  if revoked then
    .ofResult (.error (.revocationError ("Credential revoked: " ++ credentialId)))
  else do
    let metadata ← getCredentialMetadata fabric serde credentialId
    if metadata.expiresAt < now.seconds then
      .ofResult (.error (.revocationError ("Credential expired: " ++ credentialId)))
    else
      return true

/-- `query_dids_by_issuer`: what the query of the ledger finds for an issuer, read as documents. -/
def queryDidsByIssuer (issuerDid : String) : FabricM σ (List Shared.DIDDocument) :=
  queryAs fabric serde (fun v => v.asArray?.bind fun vs => vs.mapM Shared.DIDDocument.deserialize)
    "QueryDIDsByIssuer" [issuerDid]

/-- `register_did`; the contract takes a blank key that is not empty, the client takes none. -/
def registerDid (did issuerDid publicKey : String) : FabricM σ String :=
  if Rust.trim did = "" ∨ Rust.trim issuerDid = "" ∨ Rust.trim publicKey = "" then
    .ofResult (.error (.configError "DID, issuer DID, and public key are required"))
  else fabric.invokeChaincode "RegisterDID" [did, issuerDid, publicKey]

/-- The text of the attributes of a schema. -/
def attributesJson (attributes : List Shared.SchemaAttribute) : String :=
  SerdeJson.toString (.arr (attributes.map Shared.SchemaAttribute.serialize))

/-- `register_schema`: a schema is handed in, its attributes as a JSON text. -/
def registerSchema (schemaId issuerDid name version : String)
    (attributes : List Shared.SchemaAttribute) : FabricM σ String :=
  fabric.invokeChaincode "RegisterSchema"
    [schemaId, issuerDid, name, version, attributesJson attributes]

/-- `record_credential_metadata`: the record of a credential is handed in. -/
def recordCredentialMetadata (credentialId schemaId issuerDid subjectDid : String)
    (expiresAt : Int64) : FabricM σ String :=
  fabric.invokeChaincode "RecordCredentialMetadata"
    [credentialId, schemaId, issuerDid, subjectDid, toString expiresAt]

/-- `revoke_credential`: the revocation of a credential is handed in. -/
def revokeCredential (credentialId : String) : FabricM σ String :=
  fabric.invokeChaincode "RevokeCredential" [credentialId]

end FabricClient

end DZTA
