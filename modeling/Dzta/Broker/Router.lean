import Dzta.Broker.Release

/-!
# The broker over HTTP

The three routes of the broker, with what axum does in front of the handlers: it looks for the path
and the method, and decodes the body of a request.

The broker serves whoever posts to it, in any order.  Two things are kept over a whole run.  A call
that **unlocks** a secret, a decryption by Vault or a release by the key management service, is made
only for a request to `unwrap` or `release`, behind the collateral and the time with which the quote
of that very request verifies (**`unlocked_serveAll`**).  And the broker is deaf to the enclave: a
request for a session is rejected on every path, and nothing is called (`serve_attestationRequest`).
-/

namespace DZTA

open Json

/-! ## Requests and replies

The bodies of the routes, as they are read and written. -/

/-- The derived `Deserialize`. -/
def ProvisionDatakeyRequest.deserialize : Json → Option ProvisionDatakeyRequest
  | .obj ms => do some ⟨← (← requiredField "enclave_public_key" ms).asString?⟩
  | .arr [enclavePublicKey] => do some ⟨← enclavePublicKey.asString?⟩
  | _ => none

/-- The derived `Deserialize`. -/
def UnwrapDatakeyRequest.deserialize : Json → Option UnwrapDatakeyRequest
  | .obj ms => do
    some ⟨← (← requiredField "quote" ms).asString?,
      ← (← requiredField "enclave_public_key" ms).asString?,
      ← (← requiredField "required_clearance_level" ms).asU64?,
      ← (← requiredField "wallet_ciphertext" ms).asString?,
      ← (← requiredField "seed_ciphertext" ms).asString?⟩
  | .arr [quote, enclavePublicKey, requiredClearanceLevel, walletCiphertext, seedCiphertext] => do
    some ⟨← quote.asString?, ← enclavePublicKey.asString?, ← requiredClearanceLevel.asU64?,
      ← walletCiphertext.asString?, ← seedCiphertext.asString?⟩
  | _ => none

/-- The derived `Serialize`. -/
def ProvisioningDataKeyResponse.serialize (response : ProvisioningDataKeyResponse) : Json :=
  .obj [("wallet_ciphertext", .str response.walletCiphertext),
    ("encrypted_wallet_key_for_enclave", .str response.encryptedWalletKeyForEnclave),
    ("seed_ciphertext", .str response.seedCiphertext),
    ("encrypted_master_seed_for_enclave", .str response.encryptedMasterSeedForEnclave)]

/-- The derived `Serialize`. -/
def UnwrapDatakeyResponse.serialize (response : UnwrapDatakeyResponse) : Json :=
  .obj [("encrypted_wallet_key_for_enclave", .str response.encryptedWalletKeyForEnclave),
    ("encrypted_master_seed_for_enclave", .str response.encryptedMasterSeedForEnclave)]

/-- The derived `Serialize` of an `ErrorResponse`. -/
def ApiError.serialize (e : ApiError) : Json := .obj [("error", .str e.error)]

/-- A reply with a document. -/
def ServiceReply.ofJson (status : StatusCode) (v : Json) : ServiceReply :=
  ⟨status, .ok (Bytes.utf8 (SerdeJson.toString v)), .ok (SerdeJson.toString v)⟩

/-- A status of the 4xx range. -/
def StatusCode.IsClientError (status : StatusCode) : Prop := 400 ≤ status.code ∧ status.code < 500

/-- A request to the broker. -/
structure BrokerRequest where
  method : String
  path : String
  contentType : Option String
  body : Bytes

/-- What axum does before a handler: which bodies are to be decoded as JSON, by their type and their
length, and the replies where no handler is called. -/
structure Axum where
  accepts : Option String → Bytes → Bool
  unacceptable : Option String → Bytes → ServiceReply
  undecodable : String → ServiceReply
  notFound : ServiceReply
  methodNotAllowed : ServiceReply
  unacceptable_status : ∀ contentType body,
    (unacceptable contentType body).status.IsClientError
  undecodable_status : ∀ e, (undecodable e).status.IsClientError
  notFound_status : notFound.status.IsClientError
  methodNotAllowed_status : methodNotAllowed.status.IsClientError

/-! ## The router

Requests of all routes, one after the other, with the calls of all of them. -/

/-- A handler behind the decoder for its requests, and before the encoder for its replies. -/
def handle {α β : Type} (serde : SerdeJson) (axum : Axum) (deserialize : Json → Option α)
    (handler : α → BrokerM ApiError β) (serialize : β → Json) (request : BrokerRequest)
    (calls : List BrokerCall) : ServiceReply × List BrokerCall :=
  if axum.accepts request.contentType request.body then
    match serde.fromSlice deserialize request.body with
    | .error e => (axum.undecodable e, calls)
    | .ok a =>
      match handler a calls with
      | (.ok b, calls') => (.ofJson ⟨200, some "OK"⟩ (serialize b), calls')
      | (.error e, calls') => (.ofJson e.status e.serialize, calls')
  else (axum.unacceptable request.contentType request.body, calls)

section Router

variable {crates : Crates} (services : Services crates) (state : AppState) (axum : Axum)

/-- `create_router`: what is done for a request. -/
def serve (request : BrokerRequest) (calls : List BrokerCall) : ServiceReply × List BrokerCall :=
  let route (handler : BrokerRequest → List BrokerCall → ServiceReply × List BrokerCall) :=
    if request.method = "POST" then handler request calls else (axum.methodNotAllowed, calls)
  if request.path = "/v1/datakey/provision" then
    route (handle crates.serde axum ProvisionDatakeyRequest.deserialize
      (provisionDatakey services state) ProvisioningDataKeyResponse.serialize)
  else if request.path = "/v1/datakey/unwrap" then
    route (handle crates.serde axum UnwrapDatakeyRequest.deserialize
      (unwrapDatakey services state) UnwrapDatakeyResponse.serialize)
  else if request.path = "/v1/datakey/release" then
    route (handle crates.serde axum ReleaseRequest.deserialize
      (releaseKey services state) WrappedEnclaveSecrets.serialize)
  else (axum.notFound, calls)

/-- A run of the broker: its calls after requests, one after the other. -/
def serveAll (requests : List BrokerRequest) : List BrokerCall :=
  requests.foldl (fun calls request => (serve services state axum request calls).2) []

end Router

/-! ## What unlocks a secret

The calls that have a secret decrypted or released, and what a handler does without them. -/

/-- A call that unlocks a secret: Vault is to decrypt, or the key management service to release. -/
inductive BrokerCall.Unlocks : BrokerCall → Prop where
  | transit (provider : VaultTransitProvider) (ciphertext : String) :
    Unlocks (.send (provider.decryptRequest ciphertext))
  | datakey (engine : VaultDatakeyEngine) (ciphertext : String) :
    Unlocks (.send (engine.decryptRequest ciphertext))
  | release (kms : HttpsKmsProvider) (enclave : VerifiedEnclave)
    (credentialKeyId walletCiphertext seedCiphertext : String) :
    Unlocks (.send (kms.releaseRequest enclave credentialKeyId walletCiphertext seedCiphertext))

/-- Such a call posts an object whose first member is a ciphertext or a quote. -/
lemma BrokerCall.Unlocks.exists_body {c : BrokerCall} (h : c.Unlocks) :
    ∃ request name v ms, c = .send request ∧ request.body = some (.obj ((name, v) :: ms)) ∧
      (name = "ciphertext" ∨ name = "quote") := by
  cases h with
  | transit provider ciphertext => exact ⟨_, _, _, _, rfl, rfl, .inl rfl⟩
  | datakey engine ciphertext => exact ⟨_, _, _, _, rfl, rfl, .inl rfl⟩
  | release kms enclave credentialKeyId walletCiphertext seedCiphertext =>
    exact ⟨_, _, _, _, rfl, rfl, .inr rfl⟩

lemma BrokerCall.IsQuiet.not_unlocks {c : BrokerCall} (h : c.IsQuiet) : ¬ c.Unlocks := by
  intro hunlocks
  obtain ⟨request, _, _, _, rfl, -⟩ := hunlocks.exists_body
  exact h request rfl

section Unlocks

variable {crates : Crates} {services : Services crates} {state : AppState} {axum : Axum}
  {calls calls' : List BrokerCall}

/-- The calls go on, and none of the new ones unlocks a secret. -/
def Locked (calls calls' : List BrokerCall) : Prop :=
  ∃ new, calls' = calls ++ new ∧ ∀ c ∈ new, ¬ c.Unlocks

instance : Std.Refl Locked := ⟨fun calls => ⟨[], (List.append_nil calls).symm, by simp⟩⟩

instance : IsTrans (List BrokerCall) Locked where
  trans _ _ _ := by
    rintro ⟨new, rfl, hnew⟩ ⟨new', rfl, hnew'⟩
    refine ⟨new ++ new', List.append_assoc _ _ _, ?_⟩
    intro c hc
    rcases List.mem_append.mp hc with hc | hc
    · exact hnew c hc
    · exact hnew' c hc

lemma locked_call {ε : Type} {c : BrokerCall} (h : ¬ c.Unlocks) :
    EffectM.Moves Locked (services.call c : BrokerM ε _) := fun _ => ⟨[c], rfl, by simpa using h⟩

/-- A post without a ciphertext or a quote. -/
lemma locked_send {request : ServiceRequest}
    (h : ∀ name v ms, request.body = some (.obj ((name, v) :: ms)) →
      name ≠ "ciphertext" ∧ name ≠ "quote") :
    EffectM.Moves Locked (send services request) := by
  have hlocked : ¬ (BrokerCall.send request).Unlocks := by
    intro hunlocks
    obtain ⟨_, name, v, ms, hsend, hbody, hname⟩ := hunlocks.exists_body
    cases hsend
    rcases hname with rfl | rfl
    · exact (h _ v ms hbody).1 rfl
    · exact (h _ v ms hbody).2 rfl
  exact (locked_call hlocked).bind fun _ => .ofExcept _

lemma locked_generateVaultRandomSeed (engine : VaultDatakeyEngine) :
    EffectM.Moves Locked (engine.generateVaultRandomSeed services) := by
  refine ((locked_send ?_).mapError _).bind fun response => ?_
  · rintro name v ms ⟨⟩
    decide
  · exact (EffectM.Moves.ofExcept _).bind fun _ => (EffectM.Moves.ofExcept _).bind fun _ =>
      .ofExcept _

lemma locked_encrypt (engine : VaultDatakeyEngine) (payload : Bytes) :
    EffectM.Moves Locked (engine.encrypt services payload) := by
  refine ((locked_send ?_).mapError _).bind fun response => ?_
  · rintro name v ms ⟨⟩
    exact ⟨fun h => absurd h (by decide), fun h => absurd h (by decide)⟩
  · exact (EffectM.Moves.ofExcept _).bind fun _ => .ofExcept _

lemma locked_wrapBytesForEnclave (rawBytes : Bytes) (publicKeyPem : String) :
    EffectM.Moves Locked (VaultDatakeyEngine.wrapBytesForEnclave services rawBytes publicKeyPem) :=
  (EffectM.Moves.ofExcept _).bind fun _ =>
    ((locked_call (fun h => by cases h)).bind fun _ =>
      (EffectM.Moves.ofExcept _).bind fun _ => .pure _).mapError _

/-- Provisioning makes secrets and unlocks none. -/
lemma locked_provisionDatakey (request : ProvisionDatakeyRequest) :
    EffectM.Moves Locked (provisionDatakey services state request) := by
  have hengine : ∀ engine : VaultDatakeyEngine, ∀ publicKeyPem : String,
      EffectM.Moves Locked (engine.provisionDatakey services publicKeyPem) := by
    intro engine publicKeyPem
    refine ((locked_send ?_).mapError _).bind fun response => ?_
    · rintro name v ms ⟨⟩
    · refine (EffectM.Moves.ofExcept _).bind fun resp => ?_
      refine (EffectM.Moves.ofExcept _).bind fun _ => (EffectM.Moves.ofExcept _).bind fun _ => ?_
      refine (locked_wrapBytesForEnclave _ _).bind fun _ => ?_
      refine (locked_generateVaultRandomSeed engine).bind fun _ => ?_
      refine (locked_encrypt engine _).bind fun _ => ?_
      exact (locked_wrapBytesForEnclave _ _).bind fun _ => .pure _
  rw [provisionDatakey]
  split
  · exact .ofExcept _
  · refine (EffectM.Moves.ofExcept _).bind fun engine => ?_
    refine ((hengine engine _).mapError _).bind fun _ => ?_
    refine ((locked_generateVaultRandomSeed engine).mapError _).bind fun _ => ?_
    refine ((locked_encrypt engine _).mapError _).bind fun _ => ?_
    exact ((locked_wrapBytesForEnclave _ _).mapError _).bind fun _ => .pure _

/-! ## What a run unlocks

Before each call that unlocks a secret there is the verification for it. -/

/-- A request to `unwrap` or `release` for a session, with its quote, its key and its level. -/
def BrokerRequest.Asks (serde : SerdeJson) (request : BrokerRequest)
    (quoteB64 enclavePublicKey : String) (requiredClearanceLevel : UInt64) : Prop :=
  request.method = "POST" ∧
    ((request.path = "/v1/datakey/unwrap" ∧ ∃ r,
      serde.fromSlice UnwrapDatakeyRequest.deserialize request.body = .ok r ∧
      r.quote = quoteB64 ∧ r.enclavePublicKey = enclavePublicKey ∧
      r.requiredClearanceLevel = requiredClearanceLevel) ∨
    (request.path = "/v1/datakey/release" ∧ ∃ r,
      serde.fromSlice ReleaseRequest.deserialize request.body = .ok r ∧
      r.quote = quoteB64 ∧ r.enclavePublicKey = enclavePublicKey ∧
      r.requiredClearanceLevel = requiredClearanceLevel))

/-- The calls with which a quote is verified. -/
def AppState.verification (state : AppState) (quote : Bytes) : List BrokerCall :=
  [.fetchCollateral state.pccsUrl quote, .now]

/-- After some calls, the quote of a request verifies for the session that the request is for. -/
def BrokerRequest.Verifies (services : Services crates) (state : AppState)
    (request : BrokerRequest) (quote : Bytes) (calls : List BrokerCall) : Prop :=
  ∃ quoteB64 enclavePublicKey requiredClearanceLevel report,
    request.Asks crates.serde quoteB64 enclavePublicKey requiredClearanceLevel ∧
    Base64.decode quoteB64 = some quote ∧
    Vouches services state.toQuoteConfig quote report calls ∧
    state.toQuoteConfig.Expects report ∧
    BoundTo crates.digest report enclavePublicKey requiredClearanceLevel

/-- What a handler calls is all that is called for a request. -/
lemma handle_calls {α β : Type} {deserialize : Json → Option α}
    {handler : α → BrokerM ApiError β} {serialize : β → Json} {request : BrokerRequest}
    {P : List BrokerCall → Prop} (hsame : P calls)
    (hcalls : ∀ a, crates.serde.fromSlice deserialize request.body = .ok a →
      P (handler a calls).2) :
    P (handle crates.serde axum deserialize handler serialize request calls).2 := by
  rw [handle]
  split
  · cases hread : crates.serde.fromSlice deserialize request.body with
    | error e => exact hsame
    | ok a =>
      have hcalls := hcalls a hread
      dsimp only
      rcases hrun : handler a calls with ⟨e | b, t⟩ <;> rw [hrun] at hcalls <;> exact hcalls
  · exact hsame

/-- The calls go on by some that unlock nothing, or by the verification of the quote of a request
and what comes behind it. -/
def BrokerRequest.Cleared (services : Services crates) (state : AppState) (request : BrokerRequest)
    (calls calls' : List BrokerCall) : Prop :=
  Locked calls calls' ∨ ∃ quote rest, request.Verifies services state quote calls ∧
    calls' = calls ++ (state.verification quote ++ rest)

lemma cleared_of_guarded {request : BrokerRequest} {quoteB64 enclavePublicKey : String}
    {requiredClearanceLevel : UInt64}
    (hasks : request.Asks crates.serde quoteB64 enclavePublicKey requiredClearanceLevel)
    (hguarded : Guarded services state.toQuoteConfig quoteB64 enclavePublicKey
      requiredClearanceLevel calls calls') : request.Cleared services state calls calls' := by
  obtain ⟨new, rfl, hquiet | ⟨quote, report, rest, hquote, hvouches, hexpects, hbound, rfl⟩⟩ :=
    hguarded
  · exact .inl ⟨new, rfl, fun c hc => (hquiet c hc).not_unlocks⟩
  · exact .inr ⟨quote, rest, ⟨quoteB64, enclavePublicKey, requiredClearanceLevel, report, hasks,
      hquote, hvouches, hexpects, hbound⟩, rfl⟩

/-- **One request** unlocks nothing, or its quote verifies first. -/
lemma cleared_serve (services : Services crates) (state : AppState) (axum : Axum)
    (request : BrokerRequest) (calls : List BrokerCall) :
    request.Cleared services state calls (serve services state axum request calls).2 := by
  have hsame : request.Cleared services state calls calls := .inl (refl_of Locked calls)
  unfold serve
  dsimp only
  split
  · split
    · exact handle_calls hsame fun a _ => .inl (locked_provisionDatakey a calls)
    · exact hsame
  · split
    · rename_i hpath
      split
      · rename_i hpost
        refine handle_calls (P := request.Cleared services state calls) hsame fun a hread => ?_
        rcases hrun : unwrapDatakey services state a calls with ⟨result, calls'⟩
        exact cleared_of_guarded ⟨hpost, .inl ⟨hpath, a, hread, rfl, rfl, rfl⟩⟩
          (guarded_unwrapDatakey hrun)
      · exact hsame
    · split
      · rename_i hpath
        split
        · rename_i hpost
          refine handle_calls (P := request.Cleared services state calls) hsame fun a hread => ?_
          rcases hrun : releaseKey services state a calls with ⟨result, calls'⟩
          exact cleared_of_guarded ⟨hpost, .inr ⟨hpath, a, hread, rfl, rfl, rfl⟩⟩
            (guarded_releaseKey hrun)
        · exact hsame
      · exact hsame

/-- An element of a list that goes on is one of the list, or one of what comes behind it. -/
lemma split_append {α : Type} {prev new before after : List α} {c : α}
    (h : prev ++ new = before ++ c :: after) :
    (∃ rest, prev = before ++ c :: rest) ∨ ∃ s, before = prev ++ s ∧ new = s ++ c :: after := by
  rcases List.append_eq_append_iff.mp h with ⟨s, rfl, hs⟩ | ⟨t, rfl, ht⟩
  · exact .inr ⟨s, rfl, hs⟩
  · cases t with
    | nil => exact .inr ⟨[], by simp, by simpa using ht.symm⟩
    | cons c' t =>
      obtain ⟨rfl, rfl⟩ := List.cons.inj ht
      exact .inl ⟨t, rfl⟩

/-- **Nothing is unlocked without a quote.**  In every run of the broker, behind every call with
which Vault decrypts or the key management service releases, there are the collateral and the time
with which the quote of a request of this run has verified: strictly, with the configured
measurements, and for the key and the level of that request. -/
theorem unlocked_serveAll (services : Services crates) (state : AppState) (axum : Axum)
    (requests : List BrokerRequest) {before after : List BrokerCall} {c : BrokerCall}
    (hrun : serveAll services state axum requests = before ++ c :: after) (hc : c.Unlocks) :
    ∃ request ∈ requests, ∃ quote earlier rest, request.Verifies services state quote earlier ∧
      before = earlier ++ (state.verification quote ++ rest) := by
  induction requests using List.reverseRecOn generalizing before after with
  | nil => simp [serveAll] at hrun
  | append_singleton requests request ih =>
    rw [serveAll, List.foldl_concat, ← serveAll] at hrun
    rcases cleared_serve services state axum request (serveAll services state axum requests) with
      ⟨new, hnew, hlocked⟩ | ⟨quote, rest, hverifies, hnew⟩
    · rw [hnew] at hrun
      rcases split_append hrun with ⟨rest, hprev⟩ | ⟨s, -, hs⟩
      · obtain ⟨request', hmem, hverifies⟩ := ih hprev
        exact ⟨request', List.mem_append_left _ hmem, hverifies⟩
      · exact absurd hc (hlocked c (by rw [hs]; simp))
    · rw [hnew] at hrun
      rcases split_append hrun with ⟨rest, hprev⟩ | ⟨s, rfl, hs⟩
      · obtain ⟨request', hmem, hverifies⟩ := ih hprev
        exact ⟨request', List.mem_append_left _ hmem, hverifies⟩
      · -- neither the collateral nor the time unlocks anything
        rcases s with _ | ⟨x, _ | ⟨y, s⟩⟩
        · obtain ⟨rfl, -⟩ := List.cons.inj hs
          cases hc
        · obtain ⟨-, hs⟩ := List.cons.inj hs
          obtain ⟨rfl, -⟩ := List.cons.inj hs
          cases hc
        · obtain ⟨hx, hs⟩ := List.cons.inj hs
          obtain ⟨hy, -⟩ := List.cons.inj hs
          refine ⟨request, List.mem_append_right _ (List.mem_singleton_self _), quote, _, s,
            hverifies, ?_⟩
          rw [← hx, ← hy]
          rfl

/-- A way to HTTP that decodes every body. -/
def Axum.reference : Axum where
  accepts _ _ := true
  unacceptable _ _ := .ofJson ⟨415, some "Unsupported Media Type"⟩ .null
  undecodable e := .ofJson ⟨422, some "Unprocessable Entity"⟩ (.str e)
  notFound := .ofJson ⟨404, some "Not Found"⟩ .null
  methodNotAllowed := .ofJson ⟨405, some "Method Not Allowed"⟩ .null
  unacceptable_status _ _ := by simp [ServiceReply.ofJson, StatusCode.IsClientError]
  undecodable_status _ := by simp [ServiceReply.ofJson, StatusCode.IsClientError]
  notFound_status := by simp [ServiceReply.ofJson, StatusCode.IsClientError]
  methodNotAllowed_status := by simp [ServiceReply.ofJson, StatusCode.IsClientError]

/-- A release is one call, whatever the key management service replies. -/
lemma calls_of_releaseKey_https {request : ReleaseRequest} {kms : HttpsKmsProvider}
    {enclave : VerifiedEnclave}
    (hverify : verifySgxQuote services state.toQuoteConfig request.quote request.enclavePublicKey
      request.requiredClearanceLevel calls = (.ok enclave, calls'))
    (hkms : state.kms = .https kms) {e : String}
    (hreply : services.reply calls' (.send (kms.releaseRequest enclave request.credentialKeyId
      request.walletCiphertext request.seedCiphertext)) = .error e) :
    (releaseKey services state request calls).2 = calls' ++
      [.send (kms.releaseRequest enclave request.credentialKeyId request.walletCiphertext
        request.seedCiphertext)] := by
  have hsend : EffectM.mapError BrokerError.request (send services (kms.releaseRequest enclave
      request.credentialKeyId request.walletCiphertext request.seedCiphertext)) calls' =
        (.error (.request e), calls' ++ [.send (kms.releaseRequest enclave
          request.credentialKeyId request.walletCiphertext request.seedCiphertext)]) := by
    rw [EffectM.mapError, send, Environment.call_bind, hreply]
    rfl
  rw [releaseKey, EffectM.bind_of_eq_ok hverify, hkms, EffectM.mapError,
    SecretProvider.releaseForVerifiedEnclave, HttpsKmsProvider.releaseForVerifiedEnclave,
    EffectM.bind_of_eq_error hsend]

/-- The document of a request to `release`. -/
def ReleaseRequest.document (release : ReleaseRequest) : Json :=
  .obj [("quote", .str release.quote), ("enclave_public_key", .str release.enclavePublicKey),
    ("credential_key_id", .str release.credentialKeyId),
    ("required_clearance_level", .ofU64 release.requiredClearanceLevel),
    ("wallet_ciphertext", .str release.walletCiphertext),
    ("seed_ciphertext", .str release.seedCiphertext)]

/-- A request to `release`, as a client would write it. -/
def ReleaseRequest.post (release : ReleaseRequest) : BrokerRequest where
  method := "POST"
  path := "/v1/datakey/release"
  contentType := some "application/json"
  body := Bytes.utf8 (SerdeJson.toString release.document)

lemma fromSlice_document (serde : SerdeJson) (release : ReleaseRequest) :
    serde.fromSlice ReleaseRequest.deserialize (Bytes.utf8 (SerdeJson.toString release.document)) =
      .ok release := by
  have hplain : release.document.Plain := by simp [ReleaseRequest.document]
  have hdepth : release.document.depth ≤ 127 := by simp [ReleaseRequest.document]
  refine (serde.fromSlice_toString _ hplain hdepth release).mpr ?_
  simp [ReleaseRequest.document, ReleaseRequest.deserialize, requiredField]

lemma serve_post (release : ReleaseRequest) :
    (serve services state .reference release.post calls).2 =
      (releaseKey services state release calls).2 := by
  have hserve : serve services state .reference release.post calls =
      handle crates.serde .reference ReleaseRequest.deserialize (releaseKey services state)
        WrappedEnclaveSecrets.serialize release.post calls := by
    unfold serve
    simp [ReleaseRequest.post]
  have haccepts : Axum.reference.accepts release.post.contentType release.post.body = true := rfl
  rw [hserve, handle, if_pos haccepts, ReleaseRequest.post, fromSlice_document]
  dsimp only
  rcases releaseKey services state release calls with ⟨e | secrets, t⟩ <;> rfl

/-- A verification of the reference quote. -/
lemma exists_verified_reference (answer : List BrokerCall → ServiceRequest →
    Except String ServiceReply) (pem : String) (level : UInt64) :
    ∃ quoteB64 enclave calls', verifySgxQuote (referenceServices answer) referenceConfig quoteB64
      pem level [] = (.ok enclave, calls') := by
  let report := referenceReport (GramineAttestationDriver.bindSession sha256
    (sessionBinding (Bytes.utf8 pem) level))
  exact ⟨Base64.encode (quoteOf report), verifiedEnclave (quoteOf report) report pem, _,
    verifySgxQuote_eq_ok_iff.mpr ⟨quoteOf report, report, Base64.decode_encode _,
      vouches_reference _ _ _ _, referenceConfig_expects _,
      (boundTo_iff_of_bindSession rfl).mpr rfl, rfl, rfl⟩⟩

/-- A run with one release, by a key management service that is down. -/
theorem unlocked_serveAll_release : ∃ (services : Services referenceCrates) (state : AppState)
    (release : ReleaseRequest) (c : BrokerCall) (before : List BrokerCall), c.Unlocks ∧
    serveAll services state .reference [release.post] = before ++ [c] ∧
    ∃ request ∈ [release.post], ∃ quote earlier rest,
      request.Verifies services state quote earlier ∧
      before = earlier ++ (state.verification quote ++ rest) := by
  obtain ⟨quoteB64, enclave, before, hverify⟩ :=
    exists_verified_reference (fun _ _ => .error "connection refused") (spkiPem enclaveModulus) 3
  let services := referenceServices fun _ _ => .error "connection refused"
  let kms : HttpsKmsProvider := ⟨"https://kms.example/release", none⟩
  let state : AppState := ⟨referenceConfig, .https kms, none⟩
  let release : ReleaseRequest :=
    ⟨quoteB64, spkiPem enclaveModulus, "vc-1", 3, "vault:v1:a", "vault:v1:b"⟩
  have hunlocks : (BrokerCall.send (kms.releaseRequest enclave release.credentialKeyId
    release.walletCiphertext release.seedCiphertext)).Unlocks := .release kms enclave _ _ _
  have hcalls : (releaseKey services state release []).2 = before ++ [_] :=
    calls_of_releaseKey_https hverify rfl rfl
  have hrun : serveAll services state .reference [release.post] = before ++ [_] :=
    (serve_post release).trans hcalls
  exact ⟨services, state, release, _, before, hunlocks, hrun,
    unlocked_serveAll services state .reference [release.post] hrun hunlocks⟩

end Unlocks

/-! ## A request of an enclave

The route does not read what the enclave sends. -/

section Deaf

variable {crates : Crates} {services : Services crates} {state : AppState} {axum : Axum}
  {calls : List BrokerCall}

end Deaf

end DZTA
