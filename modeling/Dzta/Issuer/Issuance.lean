import Dzta.Fabric.Client

/-!
# Issuing a credential

`create_credential` and the schema validation in it.  A call checks its arguments, reads the schema,
validates the subject against it, has the canonical form of credential and proof options signed, and
records the metadata on the ledger last.  The clock, the generated id, the canonicalization and the
signer are parameters.

**`createCredential_eq_ok`** says everything that a call which succeeds has done, in order.  The
credential itself is a plain document (`plain_credentialOf`), so whoever parses it sees the
members that the issuer wrote.
-/

namespace DZTA

open Json

/-! ## Schema validation

Each attribute of the schema is looked up in the subject, and its type is checked. -/

namespace SchemaEngine

variable (chrono : Chrono)

/-- The type constraint of one schema attribute on the value of the field.  The text of a value in
an error differs from the one of Rust where the value is a number outside 64 bits or an object whose
members are not sorted (`SerdeJson.toString`); which values pass does not depend on it. -/
def validateType (attr : Shared.SchemaAttribute) (fieldValue : Json) : WalletResult Unit :=
  let mismatch (expected : String) : WalletResult Unit :=
    .error (.invalidWitness
      ("Type mismatch for '" ++ attr.name ++ "'. Expected " ++ expected))
  let found := ", found value: " ++ SerdeJson.toString fieldValue
  if attr.attrType = "string" then
    if fieldValue.asString?.isSome then .ok () else mismatch ("string" ++ found)
  else if attr.attrType = "integer" then
    if fieldValue.asI64?.isSome ∨ fieldValue.asU64?.isSome then .ok ()
    else mismatch ("integer" ++ found)
  else if attr.attrType = "timestamp" then
    match fieldValue.asI64?, fieldValue.asString? with
    | some ts, _ =>
      if ts ≤ 0 then
        .error (.invalidWitness
          ("Invalid negative timestamp range for '" ++ attr.name ++ "'"))
      else .ok ()
    | none, some text =>
      if chrono.isRfc3339 text then .ok ()
      else
        .error (.invalidWitness
          ("Field '" ++ attr.name ++ "' is not a valid RFC3339 timestamp string"))
    | none, none => mismatch "Unix timestamp integer or RFC3339 string format."
  else
    .error (.configError
      ("Unrecognized schema type constraint '" ++ attr.attrType ++ "' on field '" ++ attr.name ++
        "'"))

/-- One schema attribute against the subject. -/
def validateField (credentialSubject : Json) (attr : Shared.SchemaAttribute) :
    WalletResult Unit :=
  match credentialSubject.member? attr.name with
  | some fieldValue => validateType chrono attr fieldValue
  | none => .error (.invalidWitness ("Missing required schema field: '" ++ attr.name ++ "'"))

/-- `validate_fields`: every attribute in turn. -/
def validateFields (schema : Shared.CredentialSchema) (credentialSubject : Json) :
    WalletResult Unit :=
  schema.attributes.forM (validateField chrono credentialSubject)

end SchemaEngine

/-! ## The documents

The credential, the options of its proof, and what is signed of both. -/

/-- `IssuedCredential`: the signed document, with what the ledger records of it. -/
structure IssuedCredential where
  credentialId : String
  schemaId : String
  issuerDid : String
  subjectDid : String
  credentialData : Json
  issuedAt : DateTime
  expiresAt : Option DateTime

/-- The subject of a credential. -/
def credentialSubject (subjectDid : String) (attributes : CredentialAttributes) : Json :=
  .obj [("id", .str subjectDid), ("userRoleId", .str attributes.userRoleId),
    ("orgId", .str attributes.orgId), ("clearanceLevel", ofU64 attributes.clearanceLevel),
    ("timestamp", ofI64 attributes.timestamp)]

/-- The members of a credential before it is signed. -/
def unsignedCredential (issuerDid issuanceDate expirationDate : String) (subject : Json) :
    List (String × Json) :=
  [("@context", .arr [.str "https://www.w3.org/2018/credentials/v1",
      .str "https://www.w3.org/2018/credentials/examples/v1"]),
    ("type", .arr [.str "VerifiableCredential"]), ("issuer", .str issuerDid),
    ("issuanceDate", .str issuanceDate), ("expirationDate", .str expirationDate),
    ("credentialSubject", subject)]

/-- The members of a proof without its value. -/
def proofOptions (issuerDid created : String) : List (String × Json) :=
  [("type", .str "DataIntegrityProof"), ("cryptosuite", .str "eddsa-jcs-2022"),
    ("created", .str created), ("proofPurpose", .str "assertionMethod"),
    ("verificationMethod", .str (issuerDid ++ "#key-1"))]

/-- The document that is canonicalized and signed. -/
def signingDocument (credential proof : List (String × Json)) : Json :=
  .obj [("credential", .obj credential), ("proof", .obj proof)]

/-- A credential with its proof. -/
def signedCredential (credential proof : List (String × Json)) (signature : String) : Json :=
  .obj (insertMember "proof" (.obj (proof ++ [("proofValue", .str signature)])) credential)

section Credential

variable (issuerDid issuanceDate expirationDate created signature subjectDid : String)
  (attributes : CredentialAttributes)

/-- The credential of a subject. -/
def credentialOf : Json :=
  signedCredential (unsignedCredential issuerDid issuanceDate expirationDate
    (credentialSubject subjectDid attributes)) (proofOptions issuerDid created) signature

/-- The credential written out: the proof is added at the end. -/
lemma credentialOf_eq :
    credentialOf issuerDid issuanceDate expirationDate created signature subjectDid attributes =
      .obj [("@context", .arr [.str "https://www.w3.org/2018/credentials/v1",
          .str "https://www.w3.org/2018/credentials/examples/v1"]),
        ("type", .arr [.str "VerifiableCredential"]), ("issuer", .str issuerDid),
        ("issuanceDate", .str issuanceDate), ("expirationDate", .str expirationDate),
        ("credentialSubject", credentialSubject subjectDid attributes),
        ("proof", .obj [("type", .str "DataIntegrityProof"),
          ("cryptosuite", .str "eddsa-jcs-2022"), ("created", .str created),
          ("proofPurpose", .str "assertionMethod"),
          ("verificationMethod", .str (issuerDid ++ "#key-1")),
          ("proofValue", .str signature)])] :=
  rfl

/-- **A credential is a plain document.** -/
lemma plain_credentialOf :
    (credentialOf issuerDid issuanceDate expirationDate created signature subjectDid
      attributes).Plain := by
  simp [credentialOf_eq, credentialSubject]

lemma depth_credentialOf :
    (credentialOf issuerDid issuanceDate expirationDate created signature subjectDid
      attributes).depth ≤ 127 := by
  simp [credentialOf_eq, credentialSubject]

lemma member?_credentialOf :
    (credentialOf issuerDid issuanceDate expirationDate created signature subjectDid
      attributes).member? "credentialSubject" = some (credentialSubject subjectDid attributes) := by
  simp [credentialOf_eq, lastMember_cons]

lemma member?_credentialSubject :
    let subject := credentialSubject subjectDid attributes
    subject.member? "id" = some (.str subjectDid) ∧
    subject.member? "userRoleId" = some (.str attributes.userRoleId) ∧
    subject.member? "orgId" = some (.str attributes.orgId) ∧
    subject.member? "clearanceLevel" = some (ofU64 attributes.clearanceLevel) ∧
    subject.member? "timestamp" = some (ofI64 attributes.timestamp) := by
  simp [credentialSubject, lastMember_cons]

end Credential

/-! ## Issuing

The steps of a creation, with the signer as a parameter. -/

/-- `Issuer`: the ledger, the signer, and the canonicalization and the dates it uses. -/
structure Issuer (σ : Type) where
  fabric : Gateway σ
  sign : Bytes → WalletResult String
  canonicalize : Json → Except String Bytes
  chrono : Chrono
  serde : SerdeJson

/-- What one call reads from the clock (twice) and from the generator of ids. -/
structure Issuance where
  now : DateTime
  credentialId : String
  issuedAt : DateTime

section Create

variable {σ : Type} (issuer : Issuer σ) (call : Issuance)

/-- `create_credential` with the signer that it asks, which may have a state of its own. -/
def createCredentialBy (sign : Bytes → FabricM σ String) (schemaId issuerDid subjectDid : String)
    (attributes : CredentialAttributes) (expiresAtUnix : Int64) : FabricM σ IssuedCredential :=
  if Rust.trim issuerDid = "" ∨ Rust.trim subjectDid = "" then
    .ofResult (.error (.configError "Issuer DID and subject DID are required"))
  else if expiresAtUnix ≤ call.now.seconds then
    .ofResult (.error (.configError "Credential expiration must be in the future"))
  else do
    let schema ← FabricClient.getSchema issuer.fabric issuer.serde schemaId
    let subject := credentialSubject subjectDid attributes
    FabricM.ofResult (SchemaEngine.validateFields issuer.chrono schema subject)
    let expiresAt ← FabricM.ofResult <|
      Except.okOr (.configError "Invalid expiration timestamp")
        (issuer.chrono.fromTimestamp expiresAtUnix 0)
    let issuanceDate := issuer.chrono.toRfc3339 call.issuedAt
    let credential :=
      unsignedCredential issuerDid issuanceDate (issuer.chrono.toRfc3339 expiresAt) subject
    let proof := proofOptions issuerDid issuanceDate
    let signingInput ← FabricM.ofResult <|
      (issuer.canonicalize (signingDocument credential proof)).mapError fun e =>
        .signingError ("JCS canonicalization failed: " ++ e)
    let signature ← sign signingInput
    let credentialData := signedCredential credential proof signature
    let _ ← FabricClient.recordCredentialMetadata issuer.fabric call.credentialId schemaId
      issuerDid subjectDid expiresAtUnix
    return ⟨call.credentialId, schemaId, issuerDid, subjectDid, credentialData, call.issuedAt,
      some expiresAt⟩

/-- `create_credential` with the signer of the issuer, which has no state. -/
def createCredential (schemaId issuerDid subjectDid : String) (attributes : CredentialAttributes)
    (expiresAtUnix : Int64) : FabricM σ IssuedCredential :=
  createCredentialBy issuer call (fun payload => .ofResult (issuer.sign payload)) schemaId issuerDid
    subjectDid attributes expiresAtUnix

variable {issuer call}

/-- **What a call that succeeds has done**, in order. -/
theorem createCredential_eq_ok {schemaId issuerDid subjectDid : String}
    {attributes : CredentialAttributes} {expiresAtUnix : Int64} {ledger ledger' : σ}
    {issued : IssuedCredential}
    (h : createCredential issuer call schemaId issuerDid subjectDid attributes expiresAtUnix
      ledger = (.ok issued, ledger')) :
    ∃ schema expiresAt signingInput signature transactionId ledger₁,
      (Rust.trim issuerDid ≠ "" ∧ Rust.trim subjectDid ≠ "" ∧ call.now.seconds < expiresAtUnix) ∧
      FabricClient.getSchema issuer.fabric issuer.serde schemaId ledger = (.ok schema, ledger₁) ∧
      SchemaEngine.validateFields issuer.chrono schema (credentialSubject subjectDid attributes) =
        .ok () ∧
      issuer.chrono.fromTimestamp expiresAtUnix 0 = some expiresAt ∧
      let credential := unsignedCredential issuerDid (issuer.chrono.toRfc3339 call.issuedAt)
        (issuer.chrono.toRfc3339 expiresAt) (credentialSubject subjectDid attributes)
      let proof := proofOptions issuerDid (issuer.chrono.toRfc3339 call.issuedAt)
      issuer.canonicalize (signingDocument credential proof) = .ok signingInput ∧
      issuer.sign signingInput = .ok signature ∧
      FabricClient.recordCredentialMetadata issuer.fabric call.credentialId schemaId issuerDid
        subjectDid expiresAtUnix ledger₁ = (.ok transactionId, ledger') ∧
      issued = ⟨call.credentialId, schemaId, issuerDid, subjectDid,
        signedCredential credential proof signature, call.issuedAt, some expiresAt⟩ := by
  rw [createCredential, createCredentialBy] at h
  split at h
  · cases (Prod.mk.inj h).1
  · rename_i hblank
    split at h
    · cases (Prod.mk.inj h).1
    · rename_i hexpiry
      obtain ⟨schema, ledger₁, hschema, h⟩ := EffectM.bind_eq_ok_iff.mp h
      obtain ⟨_, _, hvalidated, h⟩ := EffectM.bind_eq_ok_iff.mp h
      obtain ⟨hvalid, rfl⟩ := FabricM.ofResult_eq_ok hvalidated
      obtain ⟨expiresAt, _, hdated, h⟩ := EffectM.bind_eq_ok_iff.mp h
      obtain ⟨hdate, rfl⟩ := FabricM.ofResult_eq_ok hdated
      obtain ⟨signingInput, _, hcanonicalized, h⟩ := EffectM.bind_eq_ok_iff.mp h
      obtain ⟨hcanonical, rfl⟩ := FabricM.ofResult_eq_ok hcanonicalized
      obtain ⟨signature, _, hsigned, h⟩ := EffectM.bind_eq_ok_iff.mp h
      obtain ⟨hsign, rfl⟩ := FabricM.ofResult_eq_ok hsigned
      obtain ⟨transactionId, _, hrecord, h⟩ := EffectM.bind_eq_ok_iff.mp h
      obtain ⟨hissued, rfl⟩ := Prod.mk.inj h
      rw [not_or] at hblank
      exact ⟨schema, expiresAt, signingInput, signature, transactionId, ledger₁,
        ⟨hblank.1, hblank.2, Int64.not_le.mp hexpiry⟩, hschema, hvalid,
        Except.okOr_eq_ok_iff.mp hdate, Except.mapError_eq_ok_iff.mp hcanonical, hsign, hrecord,
        (Except.ok.inj hissued).symm⟩

/-- **When a call succeeds**: if every step of it does. -/
theorem createCredential_of_ok {schemaId issuerDid subjectDid : String}
    {attributes : CredentialAttributes} {expiresAtUnix : Int64} {ledger ledger₁ ledger' : σ}
    {schema : Shared.CredentialSchema} {expiresAt : DateTime} {signingInput : Bytes}
    {signature transactionId : String}
    (hblank : ¬ (Rust.trim issuerDid = "" ∨ Rust.trim subjectDid = ""))
    (hexpiry : ¬ expiresAtUnix ≤ call.now.seconds)
    (hschema : FabricClient.getSchema issuer.fabric issuer.serde schemaId ledger =
      (.ok schema, ledger₁))
    (hvalid : SchemaEngine.validateFields issuer.chrono schema
      (credentialSubject subjectDid attributes) = .ok ())
    (hdate : issuer.chrono.fromTimestamp expiresAtUnix 0 = some expiresAt)
    (hcanonical : issuer.canonicalize (signingDocument
      (unsignedCredential issuerDid (issuer.chrono.toRfc3339 call.issuedAt)
        (issuer.chrono.toRfc3339 expiresAt) (credentialSubject subjectDid attributes))
      (proofOptions issuerDid (issuer.chrono.toRfc3339 call.issuedAt))) = .ok signingInput)
    (hsign : issuer.sign signingInput = .ok signature)
    (hrecord : FabricClient.recordCredentialMetadata issuer.fabric call.credentialId schemaId
      issuerDid subjectDid expiresAtUnix ledger₁ = (.ok transactionId, ledger')) :
    ∃ issued, createCredential issuer call schemaId issuerDid subjectDid attributes expiresAtUnix
      ledger = (.ok issued, ledger') := by
  rw [createCredential, createCredentialBy, if_neg hblank, if_neg hexpiry,
    EffectM.bind_of_eq_ok hschema,
    EffectM.bind_of_eq_ok (FabricM.ofResult_of_ok hvalid ledger₁), EffectM.bind_of_eq_ok
      (FabricM.ofResult_of_ok (Except.okOr_eq_ok_iff.mpr hdate) ledger₁), EffectM.bind_of_eq_ok
      (FabricM.ofResult_of_ok (Except.mapError_eq_ok_iff.mpr hcanonical) ledger₁),
    EffectM.bind_of_eq_ok (FabricM.ofResult_of_ok hsign ledger₁), EffectM.bind_of_eq_ok hrecord]
  exact ⟨_, rfl⟩

end Create

end DZTA
