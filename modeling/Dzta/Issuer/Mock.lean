import Dzta.Issuer.Issuance

/-!
# Mock mode

The replies that the client makes up when it is told to do without a network.  They are written by
hand, function by function, and decoded like those of the chaincode, so each of them has to have the
members that its type requires.

Three of the five do (**`isOk_mock_iff`**).  The reply to `GetSchema` lacks the time of creation;
`QueryDIDsByIssuer` is not among the functions that are known, so the reply to it is `false`, which
is no list.  As a creation starts with the schema, no credential is created in mock mode.
-/

namespace DZTA

open Json

/-- The reply to a query; `now` is what the clock shows. -/
def mockReply (now : Int64) (function : String) (args : List String) : Json :=
  let name := Rust.trim function
  let first := args.headD ""
  if name = "GetCredentialMetadata" then
    .obj [("credential_id", .str first), ("schema_id", .str "mock-schema-id"),
      ("issuer_did", .str "did:example:issuer"), ("subject_did", .str "did:example:subject"),
      ("issued_at", ofI64 (now - 3600)), ("expires_at", ofI64 (now + 31536000)),
      ("revoked", .bool false), ("revoked_at", .null), ("zkp_supported", .bool true),
      ("proofable_fields", .arr [.str "user_role_id", .str "org_id", .str "clearance_level",
        .str "timestamp"])]
  else if name = "IsCredentialRevoked" then .bool false
  else if name = "GetSchema" then
    .obj [("schema_id", .str first), ("issuer_did", .str "did:example:issuer"),
      ("name", .str "TestSchema"), ("version", .str "1.0.0"), ("attributes", .arr [])]
  else if name = "ResolveDID" then
    .obj [("id", .str first), ("public_key", .str "placeholder_pubkey"),
      ("authentication", .arr [.str "key-1"])]
  else .bool false

/-- `invoke_chaincode` and `query_chaincode` with `is_mock` set. -/
def Gateway.mock {σ : Type} (now : Int64) : Gateway σ where
  invokeChaincode function _ := .ofResult (.ok ("Mock transaction submitted: " ++ function))
  queryChaincode function args :=
    .ofResult (.ok (Bytes.utf8 (SerdeJson.toString (mockReply now function args))))

lemma plain_mockReply (now : Int64) (function : String) (args : List String) :
    (mockReply now function args).Plain := by
  rw [mockReply]
  generalize Rust.trim function = name
  split_ifs <;> simp

lemma depth_mockReply (now : Int64) (function : String) (args : List String) :
    (mockReply now function args).depth ≤ 127 := by
  rw [mockReply]
  generalize Rust.trim function = name
  split_ifs <;> simp

/-! ## Queries

The replies that a mock client makes up, read as the types of the queries. -/

/-- The queries whose reply is decoded to a type. -/
inductive TypedQuery where
  | resolveDid
  | getCredentialMetadata
  | isCredentialRevoked
  | getSchema
  | queryDidsByIssuer
deriving DecidableEq

/-- Whether a query succeeds. -/
def TypedQuery.isOk {σ : Type} (fabric : Gateway σ) (serde : SerdeJson) (arg : String)
    (ledger : σ) : TypedQuery → Bool
  | resolveDid => (FabricClient.resolveDid fabric serde arg ledger).1.isOk
  | getCredentialMetadata => (FabricClient.getCredentialMetadata fabric serde arg ledger).1.isOk
  | isCredentialRevoked => (FabricClient.isCredentialRevoked fabric serde arg ledger).1.isOk
  | getSchema => (FabricClient.getSchema fabric serde arg ledger).1.isOk
  | queryDidsByIssuer => (FabricClient.queryDidsByIssuer fabric serde arg ledger).1.isOk

section Query

variable {σ : Type} (serde : SerdeJson) (now : Int64) (ledger : σ)

/-- A query sends nothing. -/
lemma queryChaincode_mock (function : String) (args : List String) :
    (Gateway.mock now).queryChaincode function args ledger =
      (.ok (Bytes.utf8 (SerdeJson.toString (mockReply now function args))), ledger) := rfl

/-- A query succeeds if the reply is one of its type. -/
lemma queryAs_mock_of_some {α : Type} {deserialize : Json → Option α} {function : String}
    {args : List String} {a : α} (h : deserialize (mockReply now function args) = some a) :
    FabricClient.queryAs (.mock now) serde deserialize function args ledger = (.ok a, ledger) := by
  have hread := (serde.fromSlice_toString deserialize (plain_mockReply now function args)
    (depth_mockReply now function args) a).mpr h
  rw [FabricClient.queryAs,
    EffectM.bind_of_eq_ok (queryChaincode_mock now ledger function args), hread]
  rfl

/-- A query fails if it is not. -/
lemma queryAs_mock_of_none {α : Type} {deserialize : Json → Option α} {function : String}
    {args : List String} (h : deserialize (mockReply now function args) = none) :
    ∃ e, FabricClient.queryAs (.mock now) serde deserialize function args ledger =
      (.error (.serializationError e), ledger) := by
  obtain ⟨e, hread⟩ := serde.fromSlice_toString_error (plain_mockReply now function args)
    (depth_mockReply now function args) h
  refine ⟨e, ?_⟩
  rw [FabricClient.queryAs,
    EffectM.bind_of_eq_ok (queryChaincode_mock now ledger function args), hread]
  rfl

lemma getSchema_mock (schemaId : String) :
    ∃ e, FabricClient.getSchema (.mock now) serde schemaId ledger =
      (.error (.serializationError e), ledger) := by
  refine queryAs_mock_of_none serde now ledger ?_
  have hreply : mockReply now "GetSchema" [schemaId] =
    .obj [("schema_id", .str schemaId), ("issuer_did", .str "did:example:issuer"),
      ("name", .str "TestSchema"), ("version", .str "1.0.0"), ("attributes", .arr [])] := rfl
  rw [hreply]
  simp [Shared.CredentialSchema.deserialize, requiredField, asArray?]

lemma queryDidsByIssuer_mock (issuerDid : String) :
    ∃ e, FabricClient.queryDidsByIssuer (.mock now) serde issuerDid ledger =
      (.error (.serializationError e), ledger) := by
  refine queryAs_mock_of_none serde now ledger ?_
  have hreply : mockReply now "QueryDIDsByIssuer" [issuerDid] = .bool false := rfl
  rw [hreply]
  rfl

lemma resolveDid_mock (did : String) :
    ∃ doc, FabricClient.resolveDid (.mock now) serde did ledger = (.ok doc, ledger) := by
  have hreply : mockReply now "ResolveDID" [did] =
    .obj [("id", .str did), ("public_key", .str "placeholder_pubkey"),
      ("authentication", .arr [.str "key-1"])] := rfl
  refine ⟨_, queryAs_mock_of_some serde now ledger
    (a := ⟨[], did, "", "placeholder_pubkey", [], ["key-1"], [], 0, 0, false⟩) ?_⟩
  rw [hreply]
  simp [Shared.DIDDocument.deserialize, defaultField, aliasedField, strings, asArray?]

/-- The times of the reply do not matter for its type. -/
lemma deserialize_mockMetadata (credentialId : String) (issuedAt expiresAt : Int64) :
    Shared.CredentialMetadata.deserialize (.obj [("credential_id", .str credentialId),
      ("schema_id", .str "mock-schema-id"), ("issuer_did", .str "did:example:issuer"),
      ("subject_did", .str "did:example:subject"), ("issued_at", ofI64 issuedAt),
      ("expires_at", ofI64 expiresAt), ("revoked", .bool false), ("revoked_at", .null),
      ("zkp_supported", .bool true), ("proofable_fields", .arr [.str "user_role_id",
        .str "org_id", .str "clearance_level", .str "timestamp"])]) =
    some ⟨credentialId, "mock-schema-id", "did:example:issuer", "did:example:subject", issuedAt,
      expiresAt, false, none, true,
      ["user_role_id", "org_id", "clearance_level", "timestamp"]⟩ := by
  simp [Shared.CredentialMetadata.deserialize, requiredField, defaultField, strings, asArray?,
    asBool?, Json.optional]

lemma getCredentialMetadata_mock (credentialId : String) :
    ∃ metadata, FabricClient.getCredentialMetadata (.mock now) serde credentialId ledger =
      (.ok metadata, ledger) := by
  have hname : Rust.trim "GetCredentialMetadata" = "GetCredentialMetadata" := by decide +kernel
  have hdeserialize : ∃ metadata, Shared.CredentialMetadata.deserialize
      (mockReply now "GetCredentialMetadata" [credentialId]) = some metadata := by
    rw [mockReply, if_pos hname]
    exact ⟨_, deserialize_mockMetadata _ _ _⟩
  obtain ⟨metadata, h⟩ := hdeserialize
  exact ⟨metadata, queryAs_mock_of_some serde now ledger h⟩

lemma isCredentialRevoked_mock (credentialId : String) :
    FabricClient.isCredentialRevoked (.mock now) serde credentialId ledger = (.ok false, ledger) :=
  queryAs_mock_of_some serde now ledger rfl

/-- A creation fails where it reads the schema, if not before. -/
lemma createCredential_mock (issuer : Issuer σ) (call : Issuance)
    (schemaId issuerDid subjectDid : String) (attributes : CredentialAttributes)
    (expiresAtUnix : Int64) :
    ∃ e, createCredential { issuer with fabric := .mock now } call schemaId issuerDid subjectDid
        attributes expiresAtUnix ledger = (.error e, ledger) ∧
      (Rust.trim issuerDid ≠ "" → Rust.trim subjectDid ≠ "" → call.now.seconds < expiresAtUnix →
        ∃ text, e = .serializationError text) := by
  obtain ⟨e, hschema⟩ := getSchema_mock issuer.serde now ledger schemaId
  rw [createCredential, createCredentialBy]
  split
  · rename_i hblank
    refine ⟨_, rfl, fun hissuer hsubject _ => ?_⟩
    exact absurd hblank (not_or.mpr ⟨hissuer, hsubject⟩)
  split
  · rename_i hexpired
    exact ⟨_, rfl, fun _ _ hexpiry => absurd hexpired (Int64.not_le.mpr hexpiry)⟩
  exact ⟨_, EffectM.bind_of_eq_error hschema, fun _ _ _ => ⟨e, rfl⟩⟩

end Query

/-- **What works in mock mode**: for every argument, three of the five queries, and no creation.  A
creation that passes its own checks fails on the schema. -/
theorem isOk_mock_iff {σ : Type} (serde : SerdeJson) (now : Int64) (ledger : σ) :
    (∀ (query : TypedQuery) (arg : String), query.isOk (.mock now) serde arg ledger = true ↔
      query = .resolveDid ∨ query = .getCredentialMetadata ∨ query = .isCredentialRevoked) ∧
    ∀ (issuer : Issuer σ) (call : Issuance) (schemaId issuerDid subjectDid : String)
      (attributes : CredentialAttributes) (expiresAtUnix : Int64),
      ∃ e, createCredential { issuer with fabric := .mock now } call schemaId issuerDid subjectDid
          attributes expiresAtUnix ledger = (.error e, ledger) ∧
        (Rust.trim issuerDid ≠ "" → Rust.trim subjectDid ≠ "" → call.now.seconds < expiresAtUnix →
          ∃ text, e = .serializationError text) := by
  refine ⟨fun query arg => ?_, fun issuer call schemaId issuerDid subjectDid attributes expires =>
    createCredential_mock now ledger issuer call schemaId issuerDid subjectDid attributes expires⟩
  cases query with
  | resolveDid =>
    obtain ⟨doc, h⟩ := resolveDid_mock serde now ledger arg
    simp [TypedQuery.isOk, h, Except.isOk, Except.toBool]
  | getCredentialMetadata =>
    obtain ⟨metadata, h⟩ := getCredentialMetadata_mock serde now ledger arg
    simp [TypedQuery.isOk, h, Except.isOk, Except.toBool]
  | isCredentialRevoked =>
    simp [TypedQuery.isOk, isCredentialRevoked_mock, Except.isOk, Except.toBool]
  | getSchema =>
    obtain ⟨e, h⟩ := getSchema_mock serde now ledger arg
    simp [TypedQuery.isOk, h, Except.isOk, Except.toBool]
  | queryDidsByIssuer =>
    obtain ⟨e, h⟩ := queryDidsByIssuer_mock serde now ledger arg
    simp [TypedQuery.isOk, h, Except.isOk, Except.toBool]

/-! ### A local issuer

With a mock client no credential is created. -/

/-- An issuer without a network, with a signer that always succeeds. -/
def mockIssuer : Issuer Unit where
  fabric := .mock 1700000000
  sign _ := .ok "uc2lnbmF0dXJl"
  canonicalize v := .ok (Bytes.utf8 (SerdeJson.toString (Json.canonical v)))
  chrono :=
    { supported := fun seconds => -8334601228800 ≤ seconds ∧ seconds ≤ 8210266876799
      toRfc3339 := fun t =>
        if t.seconds = 1700000000 then "2023-11-14T22:13:20+00:00" else "2033-05-18T03:33:20+00:00"
      isRfc3339 := fun _ => false }
  serde := .strict

/-- **Mock mode does not support the creation of credentials**, and not every query either. -/
theorem mock_not_supporting :
    (¬ ∀ (query : TypedQuery) (arg : String),
      query.isOk (.mock 1700000000) .strict arg () = true) ∧
    ¬ ∀ (issuer : Issuer Unit) (now : Int64) (call : Issuance)
        (schemaId issuerDid subjectDid : String) (attributes : CredentialAttributes)
        (expiresAtUnix : Int64),
        (∀ payload, ∃ signature, issuer.sign payload = .ok signature) →
        Rust.trim issuerDid ≠ "" → Rust.trim subjectDid ≠ "" →
        call.now.seconds < expiresAtUnix →
        (issuer.chrono.fromTimestamp expiresAtUnix 0).isSome →
        ∃ issued, (createCredential { issuer with fabric := .mock now } call schemaId issuerDid
          subjectDid attributes expiresAtUnix ()).1 = .ok issued := by
  constructor
  · intro hclaim
    obtain ⟨e, h⟩ := getSchema_mock .strict 1700000000 () "schema-1"
    have hok := hclaim .getSchema "schema-1"
    rw [TypedQuery.isOk, h] at hok
    cases hok
  · intro hclaim
    obtain ⟨issued, hok⟩ := hclaim mockIssuer 1700000000
      ⟨⟨1700000000, 0⟩, "vc-1", ⟨1700000000, 0⟩⟩ "schema-1" "did:dzta:issuer" "did:dzta:alice"
      ⟨"auditor", "org-1", 3, 1700000000⟩ 2000000000 (fun _ => ⟨_, rfl⟩) (by decide +kernel)
      (by decide +kernel) (by decide) rfl
    obtain ⟨e, h, -⟩ := createCredential_mock 1700000000 () mockIssuer
      ⟨⟨1700000000, 0⟩, "vc-1", ⟨1700000000, 0⟩⟩ "schema-1" "did:dzta:issuer" "did:dzta:alice"
      ⟨"auditor", "org-1", 3, 1700000000⟩ 2000000000
    rw [h] at hok
    cases hok

end DZTA
