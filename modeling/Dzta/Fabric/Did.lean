import Dzta.Fabric.Channel

/-!
# Resolving a DID

A DID document on its way from the chaincode to Rust code.  The two sides declare the document each
for itself, and they agree on every name but one: the chaincode writes the key of a verification
method as `publicKeyMultibase`, and Rust code looks for `public_key_multibase`, with the empty
string as a default.  So every document that `RegisterDID` has built arrives whole
**but for the key of its verification method** (`resolveDid_key_lost`), which the chaincode never
allows to be empty.

Whether a document is active is a field that the chaincode does not have.  Its decoder turns `null`
into true, but a member that is missing does not reach it: the field then has the default of its
type, which is false (**`active_iff_carried`**).
-/

namespace DZTA

open GoJson

/-- The document of a registration as Rust code decodes it. -/
def resolvedDocument (did issuerDid publicKey : String) : Shared.DIDDocument :=
  { context := ["https://www.w3.org/ns/did/v1"]
    did := did
    issuerDid := issuerDid
    publicKey := publicKey
    verificationMethod := [⟨did ++ "#key-1", "Ed25519VerificationKey2020", did, ""⟩]
    authentication := [did ++ "#key-1"]
    assertionMethod := [did ++ "#key-1"]
    created := 0
    updated := 0
    active := false }

/-- What a reader of a registered document expects: the document as it was registered, with one
verification method that carries the key. -/
structure DescribesKey (did issuerDid publicKey : String) (doc : Shared.DIDDocument) : Prop where
  context : doc.context = ["https://www.w3.org/ns/did/v1"]
  subject : doc.did = did
  issuer : doc.issuerDid = issuerDid
  key : doc.publicKey = publicKey
  authentication : doc.authentication = [did ++ "#key-1"]
  assertionMethod : doc.assertionMethod = [did ++ "#key-1"]
  verificationMethod : ∃ method, doc.verificationMethod = [method] ∧
    method.id = did ++ "#key-1" ∧ method.controller = did ∧ method.publicKeyMultibase = publicKey

section Document

variable (did issuerDid publicKey : String)

lemma encode_newDidDocument :
    (newDidDocument (.ofString did) (.ofString issuerDid) (.ofString publicKey)).encode =
      .obj [("@context", .arr [.str "https://www.w3.org/ns/did/v1"]), ("id", .str did),
        ("public_key", .str publicKey),
        ("verificationMethod", .arr [.obj [("id", .str (did ++ "#key-1")),
          ("type", .str "Ed25519VerificationKey2020"), ("controller", .str did),
          ("publicKeyMultibase", .str publicKey)]]),
        ("authentication", .arr [.str (did ++ "#key-1")]),
        ("assertionMethod", .arr [.str (did ++ "#key-1")]), ("issuer_did", .str issuerDid)] := by
  have htext : ∀ s : String, encodeString (Bytes.utf8 s) = .str s := fun s => by
    rw [encodeString, Bytes.utf8Lossy_utf8]
  simp [newDidDocument, DIDDocument.encode, DIDDocument.encodeContext, VerificationMethod.encode,
    encodeSlice, GoString.ofString, ← Bytes.utf8_append, htext]

/-- **What Rust code makes of the JSON.** -/
lemma deserialize_newDidDocument :
    Shared.DIDDocument.deserialize
        (newDidDocument (.ofString did) (.ofString issuerDid) (.ofString publicKey)).encode =
      some (resolvedDocument did issuerDid publicKey) := by
  rw [encode_newDidDocument]
  simp [Shared.DIDDocument.deserialize, resolvedDocument, Json.defaultField, Json.aliasedField,
    Json.requiredField, Json.strings, Json.asArray?, Shared.verificationMethods,
    Shared.VerificationMethod.deserialize]

lemma not_describesKey (hkey : publicKey ≠ "") :
    ¬ DescribesKey did issuerDid publicKey (resolvedDocument did issuerDid publicKey) := by
  rintro ⟨-, -, -, -, -, -, method, hmethod, -, -, hmultibase⟩
  obtain rfl := (List.cons.inj hmethod).1
  exact hkey hmultibase.symm

lemma plain_newDidDocument :
    (newDidDocument (.ofString did) (.ofString issuerDid) (.ofString publicKey)).encode.Plain := by
  simp [encode_newDidDocument]

lemma depth_newDidDocument :
    (newDidDocument (.ofString did) (.ofString issuerDid) (.ofString publicKey)).encode.depth ≤
      127 := by
  simp [encode_newDidDocument]

end Document

/-! ## Resolving

From a registration on the ledger to the document of the client. -/

/-- What the chaincode answers to `ResolveDID` since a registration. -/
lemma evaluate_resolveDid {txs pre post : List Transaction} {tx : Transaction}
    {did issuerDid publicKey : String} (hlog : committed txs = pre ++ tx :: post)
    (hop : tx.operation =
      .registerDid (.ofString did) (.ofString issuerDid) (.ofString publicKey))
    (hpost : ∀ t ∈ post, t.operation.target ≠ (.did, .ofString did)) :
    (Query.resolveDid (.ofString did)).evaluate (ledger txs).state =
      .ok (newDidDocument (.ofString did) (.ofString issuerDid) (.ofString publicKey)).encode := by
  have hvalid : Operation.ValidArguments
      (.registerDid (.ofString did) (.ofString issuerDid) (.ofString publicKey)) :=
    ⟨⟨did, rfl⟩, ⟨issuerDid, rfl⟩, ⟨publicKey, rfl⟩⟩
  rw [Query.evaluate, resolveDid_ledger, didDocument_of_registered hlog hop hpost]
  exact congrArg (fun d => Except.ok (DIDDocument.encode d)) (coerce_newDidDocument hvalid)

section Resolve

variable {fabric : Gateway (List Transaction)} {serde : SerdeJson} {txs pre post : List Transaction}
  {tx : Transaction} {did issuerDid publicKey : String}

/-- **What `resolve_did` returns since a registration.** -/
lemma resolveDid_of_committed (hanswers : fabric.Answers txs)
    (hlog : committed txs = pre ++ tx :: post)
    (hop : tx.operation =
      .registerDid (.ofString did) (.ofString issuerDid) (.ofString publicKey))
    (hpost : ∀ t ∈ post, t.operation.target ≠ (.did, .ofString did)) :
    FabricClient.resolveDid fabric serde did txs =
      (.ok (resolvedDocument did issuerDid publicKey), txs) :=
  FabricClient.queryAs_answers hanswers rfl (evaluate_resolveDid hlog hop hpost)
    (plain_newDidDocument did issuerDid publicKey) (depth_newDidDocument did issuerDid publicKey)
    (deserialize_newDidDocument did issuerDid publicKey)

lemma publicKey_ne_empty (hlog : committed txs = pre ++ tx :: post)
    (hop : tx.operation =
      .registerDid (.ofString did) (.ofString issuerDid) (.ofString publicKey)) :
    publicKey ≠ "" := by
  obtain ⟨_, text, event, -, hcommits⟩ := Ledger.exists_commits_of_committed hlog
  rw [hop] at hcommits
  rintro rfl
  cases hcommits with
  | registerDid hargs => exact hargs.2.2 rfl

/-- **The key of the verification method is lost on every document**: the rest of it arrives as it
was registered, and the key is the empty string, which it never was. -/
theorem resolveDid_key_lost (hanswers : fabric.Answers txs)
    (hlog : committed txs = pre ++ tx :: post)
    (hop : tx.operation =
      .registerDid (.ofString did) (.ofString issuerDid) (.ofString publicKey))
    (hpost : ∀ t ∈ post, t.operation.target ≠ (.did, .ofString did)) :
    ∃ doc, FabricClient.resolveDid fabric serde did txs = (.ok doc, txs) ∧
      doc.context = ["https://www.w3.org/ns/did/v1"] ∧ doc.did = did ∧
      doc.issuerDid = issuerDid ∧ doc.publicKey = publicKey ∧
      doc.authentication = [did ++ "#key-1"] ∧ doc.assertionMethod = [did ++ "#key-1"] ∧
      (∃ method, doc.verificationMethod = [method] ∧ method.id = did ++ "#key-1" ∧
        method.controller = did ∧ method.publicKeyMultibase = "") ∧
      ¬ DescribesKey did issuerDid publicKey doc :=
  ⟨_, resolveDid_of_committed hanswers hlog hop hpost, rfl, rfl, rfl, rfl, rfl, rfl,
    ⟨_, rfl, rfl, rfl, rfl⟩,
    not_describesKey did issuerDid publicKey (publicKey_ne_empty hlog hop)⟩

end Resolve

/-! ## Active documents

A document without the member is not active, though a null is. -/

/-- The member `active` of a document, or the tenth element where fields are written in order. -/
def activeMember? : Json → Option Json
  | .obj ms => Json.lastMember "active" ms
  | .arr vs => vs[9]?
  | _ => none

/-- What the field is meant to say: a document is active unless its member says `false`. -/
def HonoursActive (v : Json) (doc : Shared.DIDDocument) : Prop :=
  (doc.active = false → activeMember? v = some (.bool false)) ∧
  (activeMember? v = none ∨ activeMember? v = some .null ∨ activeMember? v = some (.bool true) →
    doc.active = true)

lemma deserializeBoolOrDefault_eq_some_iff {v : Json} {active : Bool} :
    Shared.deserializeBoolOrDefault v = some active ↔
      (v = .null ∧ active = true) ∨ v = .bool active := by
  cases v <;> simp [Shared.deserializeBoolOrDefault, Json.optional, Json.asBool?, eq_comm]

/-- **The field as it is decoded**: by its decoder from a member, and as false from none. -/
lemma active_of_deserialize {v : Json} {doc : Shared.DIDDocument}
    (h : Shared.DIDDocument.deserialize v = some doc) :
    match activeMember? v with
    | none => doc.active = false
    | some w => Shared.deserializeBoolOrDefault w = some doc.active := by
  cases v with
  | obj ms =>
    have hfield := Shared.DIDDocument.defaultField_active h
    rw [activeMember?, Json.lastMember_eq_filter]
    rw [Json.defaultField] at hfield
    split at hfield
    · rename_i hnone
      rw [hnone]
      exact (Option.some.inj hfield).symm
    · rename_i hone
      rw [hone]
      exact hfield
    · cases hfield
  | arr vs =>
    have hfield := Shared.DIDDocument.defaultElement_active h
    rw [activeMember?]
    rw [Json.defaultElement] at hfield
    cases helement : vs[9]? with
    | none =>
      rw [helement] at hfield
      exact (Option.some.inj hfield).symm
    | some w =>
      rw [helement] at hfield
      exact hfield
  | _ => cases h

/-- The chaincode does not write the member. -/
lemma activeMember?_newDidDocument (did issuerDid publicKey : String) :
    activeMember? (newDidDocument (.ofString did) (.ofString issuerDid)
      (.ofString publicKey)).encode = none := by
  rw [encode_newDidDocument]
  simp [activeMember?, Json.lastMember_cons]

/-- **The field says what it should exactly if the document carries it.**  No document that
`RegisterDID` has built does, so every registered DID is resolved as inactive. -/
theorem active_iff_carried (v : Json) :
    (∀ doc, Shared.DIDDocument.deserialize v = some doc →
      (HonoursActive v doc ↔ (activeMember? v).isSome)) ∧
    ∀ (fabric : Gateway (List Transaction)) (serde : SerdeJson) (txs pre post : List Transaction)
      (tx : Transaction) (did issuerDid publicKey : String),
      fabric.Answers txs → committed txs = pre ++ tx :: post →
      tx.operation = .registerDid (.ofString did) (.ofString issuerDid) (.ofString publicKey) →
      (∀ t ∈ post, t.operation.target ≠ (.did, .ofString did)) →
      activeMember? (newDidDocument (.ofString did) (.ofString issuerDid)
        (.ofString publicKey)).encode = none ∧
      ∃ doc, FabricClient.resolveDid fabric serde did txs = (.ok doc, txs) ∧
        doc.active = false := by
  constructor
  · intro doc h
    have hactive := active_of_deserialize h
    rw [HonoursActive]
    cases hmember : activeMember? v with
    | none =>
      rw [hmember] at hactive
      simp [hactive]
    | some w =>
      rw [hmember] at hactive
      rcases deserializeBoolOrDefault_eq_some_iff.mp hactive with ⟨rfl, htrue⟩ | rfl
      · simp [htrue]
      · cases doc.active <;> simp
  · intro fabric serde txs pre post tx did issuerDid publicKey hanswers hlog hop hpost
    exact ⟨activeMember?_newDidDocument did issuerDid publicKey, _,
      resolveDid_of_committed hanswers hlog hop hpost, rfl⟩

/-! ### One registration

The key that was registered is not in the document that is resolved. -/

/-- The registration of an issuer by itself. -/
def issuerRegistration : Transaction :=
  .faultless (.registerDid (.ofString "did:dzta:issuer") (.ofString "did:dzta:issuer")
    (.ofString "-----BEGIN PUBLIC KEY-----")) 1700000000

lemma committed_issuerRegistration :
    committed [issuerRegistration] = [] ++ issuerRegistration :: [] := by
  have hok : (Ledger.genesis.submit issuerRegistration).2.isOk = true :=
    (Ledger.submit_isOk fun _ => rfl).mpr ⟨by decide, by decide, by decide⟩
  rw [committed, Machine.accepted_cons, if_pos hok]
  rfl

/-- The document of an issuer that has registered itself: all of it is there but the key of the
verification method. -/
theorem resolveDid_key_lost_issuer :
    ∃ doc, FabricClient.resolveDid (.direct 1700000000) .strict "did:dzta:issuer"
        [issuerRegistration] = (.ok doc, [issuerRegistration]) ∧
      doc.context = ["https://www.w3.org/ns/did/v1"] ∧ doc.did = "did:dzta:issuer" ∧
      doc.issuerDid = "did:dzta:issuer" ∧ doc.publicKey = "-----BEGIN PUBLIC KEY-----" ∧
      doc.authentication = ["did:dzta:issuer" ++ "#key-1"] ∧
      doc.assertionMethod = ["did:dzta:issuer" ++ "#key-1"] ∧
      (∃ method, doc.verificationMethod = [method] ∧ method.id = "did:dzta:issuer" ++ "#key-1" ∧
        method.controller = "did:dzta:issuer" ∧ method.publicKeyMultibase = "") ∧
      ¬ DescribesKey "did:dzta:issuer" "did:dzta:issuer" "-----BEGIN PUBLIC KEY-----" doc :=
  resolveDid_key_lost (Gateway.answers_direct _ _) committed_issuerRegistration rfl
    fun _ h => absurd h List.not_mem_nil

/-- **A resolved document need not carry the key of its registration.** -/
theorem resolveDid_not_describesKey :
    ¬ ∀ (fabric : Gateway (List Transaction)) (serde : SerdeJson) (txs pre post : List Transaction)
        (tx : Transaction) (did issuerDid publicKey : String),
        did ≠ "" → issuerDid ≠ "" → publicKey ≠ "" → fabric.Answers txs →
        committed txs = pre ++ tx :: post →
        tx.operation =
          .registerDid (.ofString did) (.ofString issuerDid) (.ofString publicKey) →
        (∀ t ∈ post, t.operation.target ≠ (.did, .ofString did)) →
        ∃ doc, FabricClient.resolveDid fabric serde did txs = (.ok doc, txs) ∧
          DescribesKey did issuerDid publicKey doc := by
  intro hclaim
  obtain ⟨doc, hdoc, hkey⟩ := hclaim (.direct 1700000000) .strict [issuerRegistration] [] []
    issuerRegistration "did:dzta:issuer" "did:dzta:issuer" "-----BEGIN PUBLIC KEY-----" (by decide)
    (by decide) (by decide) (Gateway.answers_direct _ _) committed_issuerRegistration rfl
    fun _ h => absurd h List.not_mem_nil
  rw [resolveDid_of_committed (Gateway.answers_direct _ _) committed_issuerRegistration rfl
    fun _ h => absurd h List.not_mem_nil] at hdoc
  obtain rfl := Except.ok.inj (Prod.mk.inj hdoc).1
  exact not_describesKey _ _ _ (by decide) hkey

/-- **A registered DID is not active**, and neither is a document that says nothing about it. -/
theorem resolveDid_not_active :
    (¬ ∀ (fabric : Gateway (List Transaction)) (serde : SerdeJson) (txs pre post : List Transaction)
        (tx : Transaction) (did issuerDid publicKey : String),
        fabric.Answers txs → committed txs = pre ++ tx :: post →
        tx.operation =
          .registerDid (.ofString did) (.ofString issuerDid) (.ofString publicKey) →
        (∀ t ∈ post, t.operation.target ≠ (.did, .ofString did)) →
        ∃ doc, FabricClient.resolveDid fabric serde did txs = (.ok doc, txs) ∧
          doc.active = true) ∧
    ¬ ∀ v doc, Shared.DIDDocument.deserialize v = some doc → HonoursActive v doc := by
  constructor
  · intro hclaim
    obtain ⟨doc, hdoc, hactive⟩ := hclaim (.direct 1700000000) .strict [issuerRegistration] [] []
      issuerRegistration "did:dzta:issuer" "did:dzta:issuer" "-----BEGIN PUBLIC KEY-----"
      (Gateway.answers_direct _ _) committed_issuerRegistration rfl
      fun _ h => absurd h List.not_mem_nil
    rw [resolveDid_of_committed (Gateway.answers_direct _ _) committed_issuerRegistration rfl
      fun _ h => absurd h List.not_mem_nil] at hdoc
    obtain rfl := Except.ok.inj (Prod.mk.inj hdoc).1
    cases hactive
  · intro hclaim
    have hhonours := hclaim _ _ (deserialize_newDidDocument "did:dzta:issuer" "did:dzta:issuer"
      "-----BEGIN PUBLIC KEY-----")
    rw [HonoursActive, activeMember?_newDidDocument] at hhonours
    cases hhonours.2 (.inl rfl)

end DZTA
