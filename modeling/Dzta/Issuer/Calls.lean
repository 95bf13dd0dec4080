import Dzta.Issuer.Lifecycle

/-!
# The calls of a creation

What `create_credential` asks of the ledger, call by call.  The gateway writes down every call that
reaches it (`Gateway.logged`), so the calls of a creation are part of its result, whether it
succeeds or not.

**`createCredential_calls`**: a creation invokes the chaincode at most once, as its last call and
after everything else has succeeded.  Where it fails before, the ledger is as it was.  Where it
succeeds, the ledger, the returned record and the signed document tell the same about the
credential.
-/

namespace DZTA

open Json

/-! ## A log of calls

The gateway writes down what it is asked, and does the same otherwise. -/

/-- A call that reaches a gateway. -/
inductive GatewayCall where
  | invoke (function : String) (args : List String)
  | query (function : String) (args : List String)
deriving DecidableEq

/-- Whether a call asks for a change of the ledger. -/
def GatewayCall.isInvocation : GatewayCall → Bool
  | invoke _ _ => true
  | query _ _ => false

namespace Gateway

variable {σ : Type}

/-- A gateway that writes down the calls that reach it. -/
def logged (fabric : Gateway σ) : Gateway (σ × List GatewayCall) where
  invokeChaincode function args := fun (ledger, calls) =>
    let (result, ledger') := fabric.invokeChaincode function args ledger
    (result, ledger', calls ++ [.invoke function args])
  queryChaincode function args := fun (ledger, calls) =>
    let (result, ledger') := fabric.queryChaincode function args ledger
    (result, ledger', calls ++ [.query function args])

/-- Queries leave the ledger alone. -/
def ReadsOnly (fabric : Gateway σ) : Prop :=
  ∀ function args ledger, (fabric.queryChaincode function args ledger).2 = ledger

end Gateway

namespace FabricClient

variable {σ : Type} {fabric : Gateway σ}

/-- A query through the log: the same reply, and one more call. -/
lemma queryAs_logged {α : Type} (hreads : fabric.ReadsOnly) (serde : SerdeJson)
    (deserialize : Json → Option α) (function : String) (args : List String) (ledger : σ)
    (calls : List GatewayCall) :
    queryAs fabric.logged serde deserialize function args (ledger, calls) =
      ((queryAs fabric serde deserialize function args ledger).1,
        (ledger, calls ++ [.query function args])) := by
  have hsame := hreads function args ledger
  rcases hreply : fabric.queryChaincode function args ledger with ⟨e | payload, ledger'⟩
  · obtain rfl : ledger' = ledger := by rwa [hreply] at hsame
    have hlogged : fabric.logged.queryChaincode function args (ledger', calls) =
        (.error e, ledger', calls ++ [.query function args]) := by
      simp only [Gateway.logged, hreply]
    rw [queryAs, EffectM.bind_of_eq_error hlogged, queryAs, EffectM.bind_of_eq_error hreply]
  · obtain rfl : ledger' = ledger := by rwa [hreply] at hsame
    have hlogged : fabric.logged.queryChaincode function args (ledger', calls) =
        (.ok payload, ledger', calls ++ [.query function args]) := by
      simp only [Gateway.logged, hreply]
    rw [queryAs, EffectM.bind_of_eq_ok hlogged, queryAs, EffectM.bind_of_eq_ok hreply]
    rfl

lemma getSchema_logged (hreads : fabric.ReadsOnly) (serde : SerdeJson) (schemaId : String)
    (ledger : σ) :
    getSchema fabric.logged serde schemaId (ledger, []) =
      ((getSchema fabric serde schemaId ledger).1, (ledger, [.query "GetSchema" [schemaId]])) :=
  queryAs_logged hreads serde _ "GetSchema" [schemaId] ledger []

/-- A record through the log: what the gateway returns, and one more call. -/
lemma recordCredentialMetadata_logged (fabric : Gateway σ)
    (credentialId schemaId issuerDid subjectDid : String) (expiresAt : Int64) (ledger : σ)
    (calls : List GatewayCall) :
    recordCredentialMetadata fabric.logged credentialId schemaId issuerDid subjectDid expiresAt
        (ledger, calls) =
      let r := recordCredentialMetadata fabric credentialId schemaId issuerDid subjectDid expiresAt
        ledger
      (r.1, (r.2, calls ++ [.invoke "RecordCredentialMetadata"
        [credentialId, schemaId, issuerDid, subjectDid, toString expiresAt]])) :=
  rfl

end FabricClient

/-! ## A creation, call by call

A query, and then one invocation or none: nothing is recorded before all else has succeeded. -/

section Create

variable {σ : Type} (issuer : Issuer σ) (call : Issuance) (schemaId issuerDid subjectDid : String)
  (attributes : CredentialAttributes) (expiresAtUnix : Int64) (ledger : σ)

/-- The issuer with its calls written down. -/
def Issuer.logged : Issuer (σ × List GatewayCall) :=
  { issuer with fabric := issuer.fabric.logged }

/-- The members that are signed, with the expiry as a date. -/
def Issuer.unsigned (expiresAt : DateTime) : List (String × Json) :=
  unsignedCredential issuerDid (issuer.chrono.toRfc3339 call.issuedAt)
    (issuer.chrono.toRfc3339 expiresAt) (credentialSubject subjectDid attributes)

/-- The options of the proof. -/
def Issuer.options : List (String × Json) :=
  proofOptions issuerDid (issuer.chrono.toRfc3339 call.issuedAt)

/-- The document of a credential has been signed. -/
def Issuer.Signs (expiresAt : DateTime) (signature : String) : Prop :=
  ∃ signingInput, issuer.canonicalize (signingDocument
      (issuer.unsigned call issuerDid subjectDid attributes expiresAt)
      (issuer.options call issuerDid)) = .ok signingInput ∧
    issuer.sign signingInput = .ok signature

/-- Everything before the record has succeeded: the DIDs are not blank, the expiry is later than now
and a date, the schema was read and the subject validated, and the document is signed. -/
structure Issuer.Cleared (expiresAt : DateTime) (signature : String) : Prop where
  issuerDid_not_blank : Rust.trim issuerDid ≠ ""
  subjectDid_not_blank : Rust.trim subjectDid ≠ ""
  expires_later : call.now.seconds < expiresAtUnix
  date : issuer.chrono.fromTimestamp expiresAtUnix 0 = some expiresAt
  validated : ∃ schema,
    (FabricClient.getSchema issuer.fabric issuer.serde schemaId ledger).1 = .ok schema ∧
    SchemaEngine.validateFields issuer.chrono schema (credentialSubject subjectDid attributes) =
      .ok ()
  signed : issuer.Signs call issuerDid subjectDid attributes expiresAt signature

/-- The one invocation of a creation. -/
def recordInvocation : GatewayCall :=
  .invoke "RecordCredentialMetadata"
    [call.credentialId, schemaId, issuerDid, subjectDid, toString expiresAtUnix]

/-- What can come of a creation: an error before the record, with the ledger as it was, or whatever
comes of the record. -/
inductive CreateOutcome : WalletResult IssuedCredential × σ × List GatewayCall → Prop
  | refused (e : WalletError) (calls : List GatewayCall)
      (hcalls : ∀ c ∈ calls, c.isInvocation = false) : CreateOutcome (.error e, ledger, calls)
  | recorded (expiresAt : DateTime) (signature : String) (calls : List GatewayCall)
      (result : WalletResult IssuedCredential) (reply : WalletResult String) (ledger' : σ)
      (hinvoke : FabricClient.recordCredentialMetadata issuer.fabric call.credentialId schemaId
        issuerDid subjectDid expiresAtUnix ledger = (reply, ledger'))
      (hreply : result.isOk = reply.isOk)
      (hcalls : ∀ c ∈ calls, c.isInvocation = false)
      (hcleared : issuer.Cleared call schemaId issuerDid subjectDid attributes expiresAtUnix ledger
        expiresAt signature)
      (hissued : ∀ issued, result = .ok issued →
        issued = ⟨call.credentialId, schemaId, issuerDid, subjectDid,
          signedCredential (issuer.unsigned call issuerDid subjectDid attributes expiresAt)
            (issuer.options call issuerDid) signature, call.issuedAt, some expiresAt⟩) :
      CreateOutcome (result, ledger',
        calls ++ [recordInvocation call schemaId issuerDid subjectDid expiresAtUnix])

variable {issuer}

lemma createOutcome (hreads : issuer.fabric.ReadsOnly) :
    CreateOutcome issuer call schemaId issuerDid subjectDid attributes expiresAtUnix ledger
      (createCredential issuer.logged call schemaId issuerDid subjectDid attributes expiresAtUnix
        (ledger, [])) := by
  have hquery : ∀ c ∈ [GatewayCall.query "GetSchema" [schemaId]], c.isInvocation = false := by
    intro c hc
    rw [List.mem_singleton.mp hc]
    rfl
  have hrefused : ∀ e, CreateOutcome issuer call schemaId issuerDid subjectDid attributes
      expiresAtUnix ledger (.error e, ledger, [.query "GetSchema" [schemaId]]) :=
    fun e => .refused e _ hquery
  rw [createCredential, createCredentialBy]
  split
  · exact .refused _ [] (by simp)
  rename_i hblank
  split
  · exact .refused _ [] (by simp)
  rename_i hexpiry
  rw [not_or] at hblank
  have hlogged : FabricClient.getSchema issuer.logged.fabric issuer.logged.serde schemaId
      (ledger, []) = _ := FabricClient.getSchema_logged hreads issuer.serde schemaId ledger
  cases hschema : (FabricClient.getSchema issuer.fabric issuer.serde schemaId ledger).1 with
  | error e =>
    rw [hschema] at hlogged
    rw [EffectM.bind_of_eq_error hlogged]
    exact hrefused e
  | ok schema =>
    rw [hschema] at hlogged
    rw [EffectM.bind_of_eq_ok hlogged]
    -- none of the steps up to the signature calls the ledger
    refine EffectM.bind_of_unchanged rfl hrefused ?_
    intro _ hvalid
    refine EffectM.bind_of_unchanged rfl hrefused ?_
    intro expiresAt hdate
    refine EffectM.bind_of_unchanged rfl hrefused ?_
    intro signingInput hcanonical
    refine EffectM.bind_of_unchanged rfl hrefused ?_
    intro signature hsign
    have hcleared : issuer.Cleared call schemaId issuerDid subjectDid attributes expiresAtUnix
        ledger expiresAt signature :=
      ⟨hblank.1, hblank.2, Int64.not_le.mp hexpiry, Except.okOr_eq_ok_iff.mp hdate,
        ⟨schema, hschema, hvalid⟩, signingInput, Except.mapError_eq_ok_iff.mp hcanonical, hsign⟩
    have hrecord : FabricClient.recordCredentialMetadata issuer.logged.fabric call.credentialId
        schemaId issuerDid subjectDid expiresAtUnix (ledger, [.query "GetSchema" [schemaId]]) = _ :=
      FabricClient.recordCredentialMetadata_logged ..
    rcases hinvoke : FabricClient.recordCredentialMetadata issuer.fabric call.credentialId schemaId
        issuerDid subjectDid expiresAtUnix ledger with ⟨e | transactionId, ledger'⟩
    · rw [hinvoke] at hrecord
      rw [EffectM.bind_of_eq_error hrecord]
      exact .recorded expiresAt signature _ _ _ ledger' hinvoke rfl hquery hcleared
        fun _ h => by cases h
    · rw [hinvoke] at hrecord
      rw [EffectM.bind_of_eq_ok hrecord]
      exact .recorded expiresAt signature _ _ _ ledger' hinvoke rfl hquery hcleared
        fun issued h => (Except.ok.inj h).symm

/-- The log changes nothing: a creation does what it does without. -/
lemma shadows_createCredential :
    EffectM.Shadows (createCredential issuer call schemaId issuerDid subjectDid attributes
        expiresAtUnix)
      (createCredential issuer.logged call schemaId issuerDid subjectDid attributes
        expiresAtUnix) := by
  have hquery : EffectM.Shadows (FabricClient.getSchema issuer.fabric issuer.serde schemaId)
      (FabricClient.getSchema issuer.logged.fabric issuer.logged.serde schemaId) :=
    EffectM.Shadows.bind (fun _ _ => rfl) fun _ _ _ => rfl
  rw [createCredential, createCredential, createCredentialBy, createCredentialBy]
  split
  · exact fun _ _ => rfl
  split
  · exact fun _ _ => rfl
  refine hquery.bind fun schema => ?_
  refine EffectM.Shadows.bind (fun _ _ => rfl) fun _ => ?_
  refine EffectM.Shadows.bind (fun _ _ => rfl) fun expiresAt => ?_
  refine EffectM.Shadows.bind (fun _ _ => rfl) fun signingInput => ?_
  refine EffectM.Shadows.bind (fun _ _ => rfl) fun signature => ?_
  exact EffectM.Shadows.bind (fun _ _ => rfl) fun _ _ _ => rfl

/-- The calls before the record leave only it. -/
lemma filter_invocations {calls : List GatewayCall}
    (hcalls : ∀ c ∈ calls, c.isInvocation = false) {c : GatewayCall}
    (hc : c.isInvocation = true) : (calls ++ [c]).filter GatewayCall.isInvocation = [c] := by
  rw [List.filter_append, List.filter_eq_nil_iff.mpr fun c hc => by simp [hcalls c hc],
    List.nil_append, List.filter_cons_of_pos hc, List.filter_nil]

/-- **Issuing touches the ledger last and consistently.**  With a gateway whose queries leave the
ledger alone, for any arguments, clock, schema and signer:

* the log changes nothing of the result and the ledger;
* either nothing is invoked, the creation is an error, and the ledger is as it was; or the record of
  the metadata is the only invocation and the last call, everything before it has succeeded, and the
  ledger is what the record made of it;
* if the creation succeeds, the record did, and it carries the id, the schema, the issuer, the
  subject and the expiry of the returned credential; and the document of that credential, which is
  the one that was signed, names the same issuer, subject and expiry. -/
theorem createCredential_calls (hreads : issuer.fabric.ReadsOnly) :
    let r := createCredential issuer.logged call schemaId issuerDid subjectDid attributes
      expiresAtUnix (ledger, [])
    let invocations := r.2.2.filter GatewayCall.isInvocation
    (r.1, r.2.1) = createCredential issuer call schemaId issuerDid subjectDid attributes
      expiresAtUnix ledger ∧
    (invocations = [] ∧ (∃ e, r.1 = .error e) ∧ r.2.1 = ledger ∨
      ∃ expiresAt signature reply,
        invocations = [recordInvocation call schemaId issuerDid subjectDid expiresAtUnix] ∧
        r.2.2.getLast? = some (recordInvocation call schemaId issuerDid subjectDid expiresAtUnix) ∧
        issuer.Cleared call schemaId issuerDid subjectDid attributes expiresAtUnix ledger expiresAt
          signature ∧
        FabricClient.recordCredentialMetadata issuer.fabric call.credentialId schemaId issuerDid
          subjectDid expiresAtUnix ledger = (reply, r.2.1) ∧ r.1.isOk = reply.isOk) ∧
    ∀ issued, r.1 = .ok issued → ∃ expiresAt signature args,
      invocations = [.invoke "RecordCredentialMetadata" args] ∧
      Operation.ofProposal "RecordCredentialMetadata" args =
        some (.recordCredentialMetadata (.ofString issued.credentialId)
          (.ofString issued.schemaId) (.ofString issued.issuerDid) (.ofString issued.subjectDid)
          expiresAt.seconds) ∧
      issued.expiresAt = some expiresAt ∧
      issued.credentialData.member? "issuer" = some (.str issued.issuerDid) ∧
      (issued.credentialData.member? "credentialSubject").bind (fun v => v.member? "id") =
        some (.str issued.subjectDid) ∧
      issued.credentialData.member? "expirationDate" =
        some (.str (issuer.chrono.toRfc3339 expiresAt)) ∧
      issuer.Signs call issued.issuerDid issued.subjectDid attributes expiresAt signature ∧
      issued.credentialData = signedCredential
        (issuer.unsigned call issued.issuerDid issued.subjectDid attributes expiresAt)
        (issuer.options call issued.issuerDid) signature := by
  intro r invocations
  refine ⟨shadows_createCredential call schemaId issuerDid subjectDid attributes expiresAtUnix
    ledger [], ?_⟩
  have houtcome : CreateOutcome issuer call schemaId issuerDid subjectDid attributes expiresAtUnix
      ledger r := createOutcome call schemaId issuerDid subjectDid attributes expiresAtUnix ledger
        hreads
  clear_value r
  cases houtcome with
  | refused e calls hcalls =>
    have hnone : invocations = [] := List.filter_eq_nil_iff.mpr fun c hc => by simp [hcalls c hc]
    exact ⟨.inl ⟨hnone, ⟨e, rfl⟩, rfl⟩, fun issued h => by cases h⟩
  | recorded expiresAt signature calls result reply ledger' hinvoke hreply hcalls hcleared
      hissued =>
    have hone : invocations =
        [recordInvocation call schemaId issuerDid subjectDid expiresAtUnix] :=
      filter_invocations hcalls rfl
    refine ⟨.inr ⟨expiresAt, signature, reply, hone, by simp, hcleared, hinvoke, hreply⟩, ?_⟩
    intro issued hok
    obtain rfl := hissued issued hok
    have hdate : expiresAt = ⟨expiresAtUnix, 0⟩ := Chrono.eq_of_fromTimestamp hcleared.date
    have hdocument : signedCredential
        (issuer.unsigned call issuerDid subjectDid attributes expiresAt)
        (issuer.options call issuerDid) signature =
          credentialOf issuerDid (issuer.chrono.toRfc3339 call.issuedAt)
            (issuer.chrono.toRfc3339 expiresAt) (issuer.chrono.toRfc3339 call.issuedAt) signature
            subjectDid attributes := rfl
    refine ⟨expiresAt, signature, _, hone, ?_, rfl, ?_, ?_, ?_, hcleared.signed, rfl⟩
    · rw [Operation.ofProposal, Contractapi.convertInt64_toString, hdate]
      rfl
    · rw [hdocument]
      simp [credentialOf_eq, lastMember_cons]
    · rw [hdocument, member?_credentialOf, Option.bind_some]
      exact (member?_credentialSubject subjectDid attributes).1
    · rw [hdocument]
      simp [credentialOf_eq, lastMember_cons]

/-- The creation for an employee invokes the chaincode once, to record the metadata. -/
theorem createCredential_calls_staff :
    ∃ issued args, (createCredential staffIssuer.logged staffCreation.call "schema-1"
        "did:dzta:issuer" "did:dzta:alice" staffCreation.attributes 2000000000
        ([staffSchema], [])).1 = .ok issued ∧
      (createCredential staffIssuer.logged staffCreation.call "schema-1"
        "did:dzta:issuer" "did:dzta:alice" staffCreation.attributes 2000000000
        ([staffSchema], [])).2.2.filter GatewayCall.isInvocation =
          [.invoke "RecordCredentialMetadata" args] := by
  have hreads : staffIssuer.fabric.ReadsOnly := (Gateway.serves_direct 1700000000).query
  have hschema : FabricClient.getSchema staffIssuer.logged.fabric staffIssuer.logged.serde
      "schema-1" ([staffSchema], []) = _ :=
    FabricClient.getSchema_logged hreads staffIssuer.serde "schema-1" [staffSchema]
  rw [getSchema_staffIssuer] at hschema
  have hrecord := FabricClient.recordCredentialMetadata_logged staffIssuer.fabric "vc-1" "schema-1"
    "did:dzta:issuer" "did:dzta:alice" 2000000000 [staffSchema] [.query "GetSchema" ["schema-1"]]
  rw [recordCredentialMetadata_staffIssuer] at hrecord
  obtain ⟨issued, hcreate⟩ : ∃ issued, createCredential staffIssuer.logged staffCreation.call
      "schema-1" "did:dzta:issuer" "did:dzta:alice" staffCreation.attributes 2000000000
        ([staffSchema], []) = (.ok issued, _) :=
    createCredential_of_ok (by decide +kernel) (by decide +kernel) hschema rfl rfl rfl rfl hrecord
  have hok := congrArg Prod.fst hcreate
  obtain ⟨-, -, hissued⟩ := createCredential_calls staffCreation.call "schema-1" "did:dzta:issuer"
    "did:dzta:alice" staffCreation.attributes 2000000000 [staffSchema] hreads
  obtain ⟨_, _, args, hinvocations, -⟩ := hissued issued hok
  exact ⟨issued, args, hok, hinvocations⟩

end Create

end DZTA
