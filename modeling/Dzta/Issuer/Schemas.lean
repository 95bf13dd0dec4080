import Dzta.Issuer.Lifecycle

/-!
# Registered schemas

The attributes of a schema cross two languages: the issuer writes them as JSON with serde, the
chaincode parses them with `encoding/json`, keeps them on the ledger, and writes the schema for a
client that reads it with serde again.

The chaincode accepts every schema that an issuer can hand in (`submit_schemaOperation`), and
**`getSchema_of_registerSchema`** closes the circle: after a registration every client gets the
schema that was registered, with the attributes in their order, whatever else happens on the ledger,
until the id is registered again.
-/

namespace DZTA

open GoJson FabricClient

/-! ## Registering

The issuer hands in its schema by the client. -/

/-- `register_schema` of an issuer.  The id is random. -/
def Issuer.registerSchema {σ : Type} (issuer : Issuer σ) (schemaId issuerDid name version : String)
    (attributes : List Shared.SchemaAttribute) : FabricM σ String := do
  let _ ← FabricClient.registerSchema issuer.fabric schemaId issuerDid name version attributes
  return schemaId

/-! ## Attributes on the ledger

What the chaincode makes of an attribute, and what it writes of it. -/

/-- An attribute as the chaincode keeps it. -/
def Shared.SchemaAttribute.onLedger (a : Shared.SchemaAttribute) : DZTA.SchemaAttribute :=
  ⟨.ofString a.name, .ofString a.attrType, a.predicate⟩

namespace Shared.SchemaAttribute

lemma encode_onLedger (a : Shared.SchemaAttribute) : a.onLedger.encode = a.serialize := by
  simp [onLedger, serialize, DZTA.SchemaAttribute.encode, encodeString, GoString.ofString]

lemma coerce_onLedger (a : Shared.SchemaAttribute) : a.onLedger.coerce = a.onLedger := by
  simp [onLedger, DZTA.SchemaAttribute.coerce, GoString.ofString]

lemma deserialize_serialize (a : Shared.SchemaAttribute) : deserialize a.serialize = some a := by
  simp [serialize, deserialize, Json.requiredField, Json.asBool?]

end Shared.SchemaAttribute

section Attributes

variable (attributes : List Shared.SchemaAttribute)

lemma encodeSlice_onLedger :
    encodeSlice SchemaAttribute.encode (some (attributes.map Shared.SchemaAttribute.onLedger)) =
      .arr (attributes.map Shared.SchemaAttribute.serialize) := by
  rw [encodeSlice, List.map_map]
  exact congrArg Json.arr
    (List.map_congr_left fun a _ => Shared.SchemaAttribute.encode_onLedger a)

lemma depth_serialize_attributes :
    Json.depth (.arr (attributes.map Shared.SchemaAttribute.serialize)) ≤ 2 := by
  rw [← encodeSlice_onLedger]
  exact depth_encodeSlice SchemaAttribute.encode (fun a => by simp [SchemaAttribute.encode]) _

lemma plain_serialize_attributes :
    Json.Plain (.arr (attributes.map Shared.SchemaAttribute.serialize)) := by
  rw [Json.Plain]
  induction attributes with
  | nil => trivial
  | cons a attributes ih => exact ⟨by simp [Shared.SchemaAttribute.serialize], ih⟩

lemma mapM_deserialize_attributes :
    (attributes.map Shared.SchemaAttribute.serialize).mapM Shared.SchemaAttribute.deserialize =
      some attributes := by
  induction attributes with
  | nil => rfl
  | cons a attributes ih =>
    simp [List.mapM_cons, Shared.SchemaAttribute.deserialize_serialize, ih]

/-- **Go parses what serde writes.** -/
lemma parseAttributes_attributesJson :
    parseAttributes (.ofString (attributesJson attributes)) =
      some (some (attributes.map Shared.SchemaAttribute.onLedger)) := by
  have hdepth : Json.depth (.arr (attributes.map Shared.SchemaAttribute.serialize)) ≤
      maxNestingDepth :=
    (depth_serialize_attributes attributes).trans (by decide)
  have hparse : parse (attributesJson attributes) =
      some (.arr (attributes.map Shared.SchemaAttribute.serialize)) := by
    rw [parse, attributesJson, SerdeJson.toString, String.toList_ofList, Json.read_print,
      Option.filter_some, if_pos (decide_eq_true hdepth)]
  rw [parseAttributes, GoString.ofString, Bytes.utf8Lossy_utf8, unmarshal, hparse,
    ← encodeSlice_onLedger, Option.bind_eq_bind, Option.bind_some,
    decodeSlice_encodeSlice SchemaAttribute.decode_encode, Option.map_some, List.map_map]
  exact congrArg (fun as => some (some as))
    (List.map_congr_left fun a _ => Shared.SchemaAttribute.coerce_onLedger a)

end Attributes

/-! ## Schemas on the ledger

The same for a schema, which is what the client reads. -/

section Schema

variable (schemaId issuerDid name version : String) (attributes : List Shared.SchemaAttribute)

/-- The transaction of a registration. -/
def schemaOperation : Operation :=
  .registerSchema (.ofString schemaId) (.ofString issuerDid) (.ofString name) (.ofString version)
    (.ofString (attributesJson attributes))

/-- A schema as the chaincode keeps it. -/
def schemaOnLedger (created : Int64) : CredentialSchema :=
  ⟨.ofString schemaId, .ofString issuerDid, .ofString name, .ofString version,
    some (attributes.map Shared.SchemaAttribute.onLedger), created⟩

variable (created : Int64)

lemma encode_schemaOnLedger :
    (schemaOnLedger schemaId issuerDid name version attributes created).encode =
      .obj [("schema_id", .str schemaId), ("issuer_did", .str issuerDid), ("name", .str name),
        ("version", .str version),
        ("attributes", .arr (attributes.map Shared.SchemaAttribute.serialize)),
        ("created", Json.ofI64 created)] := by
  rw [schemaOnLedger, CredentialSchema.encode, encodeSlice_onLedger]
  simp only [encodeString, GoString.ofString, Bytes.utf8Lossy_utf8]
  rfl

/-- **Serde reads what Go writes.** -/
lemma deserialize_schemaOnLedger :
    Shared.CredentialSchema.deserialize
        (schemaOnLedger schemaId issuerDid name version attributes created).encode =
      some ⟨schemaId, issuerDid, name, version, attributes, created⟩ := by
  have hread := mapM_deserialize_attributes attributes
  rw [encode_schemaOnLedger]
  generalize attributes.map Shared.SchemaAttribute.serialize = vs at hread ⊢
  simp [Shared.CredentialSchema.deserialize, Json.requiredField, Json.asArray?, hread]

lemma plain_schemaOnLedger :
    (schemaOnLedger schemaId issuerDid name version attributes created).encode.Plain := by
  have hplain := plain_serialize_attributes attributes
  rw [encode_schemaOnLedger]
  simpa using hplain

lemma depth_schemaOnLedger :
    (schemaOnLedger schemaId issuerDid name version attributes created).encode.depth ≤ 127 := by
  have hdepth := depth_serialize_attributes attributes
  rw [encode_schemaOnLedger]
  generalize Json.arr (attributes.map Shared.SchemaAttribute.serialize) = v at hdepth ⊢
  have hle : v.depth + 1 ≤ 127 := by omega
  simpa using hle

variable {schemaId issuerDid name version attributes}

/-- What the chaincode answers to `GetSchema` since a registration. -/
lemma evaluate_getSchema {txs pre post : List Transaction} {tx : Transaction}
    (hlog : committed txs = pre ++ tx :: post)
    (hop : tx.operation = schemaOperation schemaId issuerDid name version attributes)
    (hpost : ∀ t ∈ post, t.operation.target ≠ (.schema, .ofString schemaId)) :
    (Query.getSchema (.ofString schemaId)).evaluate (ledger txs).state =
      .ok (schemaOnLedger schemaId issuerDid name version attributes tx.seconds).encode := by
  have hregistered : registries txs .schema (.ofString schemaId) =
      some (schemaOnLedger schemaId issuerDid name version attributes tx.seconds) := by
    rw [registries_of_last hlog hpost, Registries.commit, hop, schemaOperation, Registries.perform,
      parseAttributes_attributesJson]
    exact Registries.set_self ..
  have hvalid : Operation.ValidArguments
      (schemaOperation schemaId issuerDid name version attributes) :=
    ⟨⟨schemaId, rfl⟩, ⟨issuerDid, rfl⟩, ⟨name, rfl⟩, ⟨version, rfl⟩, ⟨_, rfl⟩⟩
  rw [Query.evaluate, getSchema_ledger, hregistered]
  exact congrArg (fun s => Except.ok (CredentialSchema.encode s))
    (coerce_schema hvalid (parseAttributes_attributesJson attributes))

end Schema

/-! ## The circle

From the issuer to the ledger and back. -/

section Circle

variable {schemaId issuerDid name version : String} {attributes : List Shared.SchemaAttribute}

/-- **Every registration is accepted** by a peer whose calls do not fail. -/
theorem submit_schemaOperation (l : Ledger) (seconds : Int64) :
    (l.submit (.faultless (schemaOperation schemaId issuerDid name version attributes)
      seconds)).2.isOk = true :=
  (Ledger.submit_isOk fun _ => rfl).mpr
    (Option.isSome_iff_exists.mpr ⟨_, parseAttributes_attributesJson attributes⟩)

/-- **What is registered is what every client gets**: after a registration that succeeded and any
transactions that do not register the id again, the schema as it was registered. -/
theorem getSchema_of_registerSchema {issuer : Issuer (List Transaction)}
    (hserves : issuer.fabric.Serves) {txs txs' later : List Transaction} {id : String}
    (hregister : issuer.registerSchema schemaId issuerDid name version attributes txs =
      (.ok id, txs'))
    (hlater : ∀ t ∈ later, t.operation.target ≠ (.schema, .ofString id)) :
    ∃ created, ∀ (fabric : Gateway (List Transaction)) (serde : SerdeJson),
      fabric.Answers (txs' ++ later) →
      FabricClient.getSchema fabric serde id (txs' ++ later) =
        (.ok ⟨id, issuerDid, name, version, attributes, created⟩, txs' ++ later) := by
  have happends : Appends txs (schemaOperation schemaId issuerDid name version attributes)
      issuer.fabric.Reports (fun id => id = schemaId)
      (issuer.registerSchema schemaId issuerDid name version attributes txs) :=
    Appends.bind_pure (.of_invoke hserves rfl) fun _ _ => rfl
  rw [hregister] at happends
  obtain ⟨log, hlog, hops, hok⟩ := happends.exists_log
  obtain ⟨rfl, tx, rfl⟩ := hok id rfl
  obtain ⟨more, hmore, hfrom⟩ : ∃ more, committed (txs' ++ later) = committed txs' ++ more ∧
      ∀ t ∈ more, t ∈ later :=
    ⟨_, Machine.accepted_append .., fun t ht => Machine.mem_of_mem_accepted _ ht⟩
  have hcommitted : committed (txs' ++ later) = committed txs ++ tx :: more := by
    rw [hmore, hlog, List.append_assoc]
    rfl
  refine ⟨tx.seconds, fun fabric serde hanswers => ?_⟩
  exact FabricClient.queryAs_answers hanswers rfl
    (evaluate_getSchema hcommitted (hops tx (List.mem_singleton_self tx)).1
      fun t ht => hlater t (hfrom t ht))
    (plain_schemaOnLedger ..) (depth_schemaOnLedger ..) (deserialize_schemaOnLedger ..)

/-- The attributes of the staff. -/
def staffSchemaAttributes : List Shared.SchemaAttribute :=
  [⟨"user_role_id", "string", false⟩, ⟨"clearance_level", "integer", true⟩]

/-- A schema with two attributes is registered, a credential is recorded, and the schema is read as
it was. -/
theorem getSchema_of_registerSchema_staff :
    ∃ txs' created, staffIssuer.registerSchema "schema-2" "did:dzta:issuer" "Clearance" "1.1"
        staffSchemaAttributes [staffSchema] = (.ok "schema-2", txs') ∧
      FabricClient.getSchema (.direct 1700000000) .strict "schema-2"
          (txs' ++ [.faultless staffCreation.operation 1700000000]) =
        (.ok ⟨"schema-2", "did:dzta:issuer", "Clearance", "1.1", staffSchemaAttributes, created⟩,
          txs' ++ [.faultless staffCreation.operation 1700000000]) := by
  have hinvoke : FabricClient.registerSchema staffIssuer.fabric "schema-2" "did:dzta:issuer"
      "Clearance" "1.1" staffSchemaAttributes [staffSchema] = _ :=
    Gateway.direct_invokeChaincode rfl (submit_schemaOperation _ _)
  obtain ⟨txs', hregister⟩ : ∃ txs', staffIssuer.registerSchema "schema-2" "did:dzta:issuer"
      "Clearance" "1.1" staffSchemaAttributes [staffSchema] = (.ok "schema-2", txs') :=
    ⟨_, EffectM.bind_of_eq_ok hinvoke⟩
  have hlater : ∀ t ∈ [Transaction.faultless staffCreation.operation 1700000000],
      t.operation.target ≠ (.schema, .ofString "schema-2") := by
    intro t ht
    rw [List.mem_singleton.mp ht]
    intro h
    cases (Prod.mk.inj h).1
  obtain ⟨created, hget⟩ := getSchema_of_registerSchema (Gateway.serves_direct 1700000000) hregister
    hlater
  exact ⟨txs', created, hregister, hget _ _ (Gateway.answers_direct _ _)⟩

end Circle

end DZTA
