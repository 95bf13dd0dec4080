import Dzta.Broker.Vault

/-!
# The release of secrets

The three handlers of the broker, and what leaves it through the two that release secrets.

Both verify a quote before they post anything, and what they wrap they wrap for the public key that
the quote is for (**`release_guarded`**).  An error reply depends neither on what was decrypted nor
on what was wrapped: it is the same for all secrets of the same lengths, and for all ciphertexts
that the encryption could have returned.  It may repeat the text of an error reply of the key
management service, though, and nothing keeps a service from putting secrets there
(`kms_error_echoed`).

No enclave gets that far with a key of its own making: it writes its public key in a format that the
broker does not read, and decrypts under another digest than the broker encrypts with
(**`release_not_received`**).
-/

namespace DZTA

open GramineAttestationDriver

/-! ## The handlers

Each route verifies the quote before it touches a secret; the one for new secrets has none to
verify. -/

/-- `AppState`: what all handlers share. -/
structure AppState extends QuoteConfig where
  kms : SecretProvider
  datakeyEngine : Option VaultDatakeyEngine

section Handlers

variable {crates : Crates} (services : Services crates) (state : AppState)

/-- The engine for data keys, if it is configured. -/
def AppState.engine (state : AppState) : Except ApiError VaultDatakeyEngine :=
  Except.okOr ⟨.internalServerError, "Datakey engine not initialized"⟩ state.datakeyEngine

/-- The handler `provision_datakey`: a new wallet key and a new master seed, encrypted by Vault and
wrapped for the key of the request.  No quote is asked for. -/
def provisionDatakey (request : ProvisionDatakeyRequest) :
    BrokerM ApiError ProvisioningDataKeyResponse := do
  if Rust.trim request.enclavePublicKey = "" then
    .ofExcept (.error ⟨.badRequest, "Enclave public key cannot be empty"⟩)
  else
    let engine ← .ofExcept state.engine
    let walletProvision ← .mapError ApiError.ofBrokerError
      (engine.provisionDatakey services request.enclavePublicKey)
    let rawMasterSeed ← .mapError ApiError.ofBrokerError (engine.generateVaultRandomSeed services)
    let seedCiphertext ← .mapError ApiError.ofBrokerError (engine.encrypt services rawMasterSeed)
    let encryptedMasterSeedForEnclave ← .mapError ApiError.ofBrokerError
      (VaultDatakeyEngine.wrapBytesForEnclave services rawMasterSeed request.enclavePublicKey)
    return ⟨walletProvision.walletCiphertext, walletProvision.encryptedWalletKeyForEnclave,
      seedCiphertext, encryptedMasterSeedForEnclave⟩

/-- The handler `unwrap_datakey`: both ciphertexts, wrapped for the key that the quote is for. -/
def unwrapDatakey (request : UnwrapDatakeyRequest) : BrokerM ApiError UnwrapDatakeyResponse := do
  if Rust.trim request.quote = "" then
    .ofExcept (.error ⟨.badRequest, "Invalid or empty enclave quote"⟩)
  else if Rust.trim request.walletCiphertext = "" ∨ Rust.trim request.seedCiphertext = "" then
    .ofExcept (.error ⟨.badRequest, "Missing stored wallet or seed ciphertext"⟩)
  else
    let engine ← .ofExcept state.engine
    let enclave ← verifySgxQuote services state.toQuoteConfig request.quote
      request.enclavePublicKey request.requiredClearanceLevel
    let encryptedWalletKey ← .mapError ApiError.ofBrokerError
      (engine.unwrapDatakeyForEnclave services request.walletCiphertext enclave.enclavePublicKey)
    let encryptedMasterSeed ← .mapError ApiError.ofBrokerError
      (engine.unwrapDatakeyForEnclave services request.seedCiphertext enclave.enclavePublicKey)
    return ⟨encryptedWalletKey, encryptedMasterSeed⟩

/-- The handler `release_key`: the service releases the secrets to the key that the quote is for. -/
def releaseKey (request : ReleaseRequest) : BrokerM ApiError WrappedEnclaveSecrets := do
  let enclave ← verifySgxQuote services state.toQuoteConfig request.quote
    request.enclavePublicKey request.requiredClearanceLevel
  .mapError ApiError.ofBrokerError
    (state.kms.releaseForVerifiedEnclave services enclave request.credentialKeyId
      request.walletCiphertext request.seedCiphertext)

end Handlers

/-! ## What leaves the broker

A success has the secrets wrapped, and an error has nothing of them. -/

section Release

variable {crates : Crates} {services : Services crates} {state : AppState}
  {calls calls' : List BrokerCall}

/-- Nothing is posted unless a quote for the session has been accepted, and nothing before. -/
def Guarded (services : Services crates) (config : QuoteConfig) (quoteB64 enclavePublicKey : String)
    (requiredClearanceLevel : UInt64) (calls calls' : List BrokerCall) : Prop :=
  ∃ new, calls' = calls ++ new ∧ ((∀ c ∈ new, c.IsQuiet) ∨
    ∃ quote report rest, Base64.decode quoteB64 = some quote ∧
      Vouches services config quote report calls ∧ config.Expects report ∧
      BoundTo crates.digest report enclavePublicKey requiredClearanceLevel ∧
      new = [.fetchCollateral config.pccsUrl quote, .now] ++ rest)

lemma guarded_refl {config : QuoteConfig} {quoteB64 enclavePublicKey : String}
    {requiredClearanceLevel : UInt64} :
    Guarded services config quoteB64 enclavePublicKey requiredClearanceLevel calls calls :=
  ⟨[], (List.append_nil calls).symm, .inl (by simp)⟩

/-- **What comes after a verification is guarded** by it. -/
theorem guarded_of_verify {config : QuoteConfig} {quoteB64 enclavePublicKey : String}
    {requiredClearanceLevel : UInt64} {α : Type} {f : VerifiedEnclave → BrokerM ApiError α}
    (hf : ∀ enclave, EffectM.Lockstep (fun _ => True) (fun _ _ => True) (f enclave) (f enclave))
    {result : Except ApiError α}
    (h : (verifySgxQuote services config quoteB64 enclavePublicKey requiredClearanceLevel >>= f)
      calls = (result, calls')) :
    Guarded services config quoteB64 enclavePublicKey requiredClearanceLevel calls calls' := by
  rcases hverify : verifySgxQuote services config quoteB64 enclavePublicKey
    requiredClearanceLevel calls with ⟨e | enclave, t⟩
  · obtain ⟨new, hnew, hquiet⟩ :=
      (lockstep_verifySgxQuote crates.oaep fun _ _ _ => rfl).exists_append hverify
    rw [EffectM.bind_of_eq_error hverify] at h
    obtain rfl : t = calls' := (Prod.mk.inj h).2
    exact ⟨new, hnew, .inl hquiet⟩
  · rw [EffectM.bind_of_eq_ok hverify] at h
    obtain ⟨quote, report, hquote, hvouches, hexpects, hbound, -, rfl⟩ :=
      verifySgxQuote_eq_ok_iff.mp hverify
    obtain ⟨rest, hrest, -⟩ := (hf enclave).exists_append h
    refine ⟨[.fetchCollateral config.pccsUrl quote, .now] ++ rest, ?_,
      .inr ⟨quote, report, rest, hquote, hvouches, hexpects, hbound, rfl⟩⟩
    rw [hrest]
    simp

/-- In a run, Vault has decrypted a ciphertext for the engine. -/
def VaultDatakeyEngine.Decrypted (services : Services crates) (engine : VaultDatakeyEngine)
    (run : List BrokerCall) (ciphertext : String) (plaintext : Bytes) : Prop :=
  ∃ before, before ++ [.send (engine.decryptRequest ciphertext)] <+: run ∧
    engine.Decrypts services before ciphertext plaintext

/-- In a run, Vault has decrypted a ciphertext for the provider. -/
def VaultTransitProvider.Decrypted (services : Services crates) (provider : VaultTransitProvider)
    (run : List BrokerCall) (ciphertext : String) (plaintext : Bytes) : Prop :=
  ∃ before, before ++ [.send (provider.decryptRequest ciphertext)] <+: run ∧
    provider.Decrypts services before ciphertext plaintext

/-- What a reply to `unwrap` consists of: what Vault has decrypted, wrapped for the key of the
request. -/
def UnwrapDatakeyResponse.IsWrapped (response : UnwrapDatakeyResponse) (services : Services crates)
    (state : AppState) (request : UnwrapDatakeyRequest) (run : List BrokerCall) : Prop :=
  ∃ engine walletKey masterSeed, state.datakeyEngine = some engine ∧
    engine.Decrypted services run request.walletCiphertext walletKey ∧
    engine.Decrypted services run request.seedCiphertext masterSeed ∧
    Wraps crates request.enclavePublicKey walletKey response.encryptedWalletKeyForEnclave ∧
    Wraps crates request.enclavePublicKey masterSeed response.encryptedMasterSeedForEnclave

/-- What a reply to `release` consists of: what Vault has decrypted, wrapped for the key of the
request, and the name of the algorithm with the key id of the request; or the reply of the key
management service. -/
def WrappedEnclaveSecrets.IsWrapped (secrets : WrappedEnclaveSecrets) (services : Services crates)
    (state : AppState) (request : ReleaseRequest) (run : List BrokerCall) : Prop :=
  match state.kms with
  | .vault provider => ∃ walletKey masterSeed,
      provider.Decrypted services run request.walletCiphertext walletKey ∧
      provider.Decrypted services run request.seedCiphertext masterSeed ∧
      Wraps crates request.enclavePublicKey walletKey secrets.encryptedWalletKey ∧
      Wraps crates request.enclavePublicKey masterSeed secrets.encryptedMasterSeed ∧
      secrets.keyEncryptionAlgorithm = "RSA-OAEP-SHA256:" ++ request.credentialKeyId
  | .https kms => ∃ before enclave response,
      before ++ [.send (kms.releaseRequest enclave request.credentialKeyId
        request.walletCiphertext request.seedCiphertext)] <+: run ∧
      enclave.enclavePublicKey = request.enclavePublicKey ∧
      services.reply before (.send (kms.releaseRequest enclave request.credentialKeyId
        request.walletCiphertext request.seedCiphertext)) = .ok response ∧
      crates.json WrappedEnclaveSecrets.deserialize response = .ok secrets

/-- A reply to `unwrap` is wrapped. -/
lemma isWrapped_of_unwrapDatakey {request : UnwrapDatakeyRequest}
    {response : UnwrapDatakeyResponse}
    (h : unwrapDatakey services state request calls = (.ok response, calls')) :
    response.IsWrapped services state request calls' := by
  rw [unwrapDatakey] at h
  split at h
  · cases h
  · split at h
    · cases h
    · obtain ⟨engine, hengine, h⟩ := EffectM.ofExcept_bind_eq_ok_iff.mp h
      obtain ⟨enclave, t, hverify, h⟩ := EffectM.bind_eq_ok_iff.mp h
      obtain ⟨_, _, -, -, -, -, rfl, -⟩ := verifySgxQuote_eq_ok_iff.mp hverify
      obtain ⟨encryptedWalletKey, _, hwallet, h⟩ := EffectM.mapError_bind_eq_ok_iff.mp h
      obtain ⟨walletKey, hdecrypt, hwrap⟩ :=
        VaultDatakeyEngine.unwrapDatakeyForEnclave_eq_ok_iff.mp hwallet
      obtain ⟨hwraps, rfl⟩ := VaultDatakeyEngine.wraps_of_wrapBytesForEnclave hwrap
      obtain ⟨encryptedMasterSeed, _, hseed, h⟩ := EffectM.mapError_bind_eq_ok_iff.mp h
      obtain ⟨masterSeed, hdecrypt', hwrap'⟩ :=
        VaultDatakeyEngine.unwrapDatakeyForEnclave_eq_ok_iff.mp hseed
      obtain ⟨hwraps', rfl⟩ := VaultDatakeyEngine.wraps_of_wrapBytesForEnclave hwrap'
      obtain ⟨hresponse, rfl⟩ := Prod.mk.inj h
      obtain rfl := Except.ok.inj hresponse
      refine ⟨engine, walletKey, masterSeed, Except.okOr_eq_ok_iff.mp hengine,
        ⟨t, ?_, hdecrypt⟩, ⟨_, List.prefix_append _ _, hdecrypt'⟩, hwraps, hwraps'⟩
      exact ((List.prefix_append _ _).trans (List.prefix_append _ _)).trans
        (List.prefix_append _ _)

/-- A reply to `release` is wrapped. -/
lemma isWrapped_of_releaseKey {request : ReleaseRequest} {secrets : WrappedEnclaveSecrets}
    (h : releaseKey services state request calls = (.ok secrets, calls')) :
    secrets.IsWrapped services state request calls' := by
  obtain ⟨enclave, t, hverify, h⟩ := EffectM.bind_eq_ok_iff.mp h
  obtain ⟨_, _, -, -, -, -, rfl, -⟩ := verifySgxQuote_eq_ok_iff.mp hverify
  have hrelease := EffectM.mapError_eq_ok_iff.mp h
  rw [WrappedEnclaveSecrets.IsWrapped]
  cases hkms : state.kms with
  | vault provider =>
    rw [hkms] at hrelease
    obtain ⟨walletKey, masterSeed, hdecrypt, hdecrypt', hwraps, hwraps', halgorithm, rfl⟩ :=
      releaseForVerifiedEnclave_vault hrelease
    refine ⟨walletKey, masterSeed, ⟨t, ?_, hdecrypt⟩, ⟨_, ?_, hdecrypt'⟩, hwraps, hwraps',
      halgorithm⟩
    · exact ((List.prefix_append _ _).trans (List.prefix_append _ _)).trans
        (List.prefix_append _ _)
    · exact (List.prefix_append _ _).trans (List.prefix_append _ _)
  | https kms =>
    rw [hkms] at hrelease
    obtain ⟨response, hreply, hjson, rfl⟩ := releaseForVerifiedEnclave_https hrelease
    exact ⟨t, _, response, List.prefix_rfl, rfl, hreply, hjson⟩

/-- `unwrap` depends neither on how the broker encrypts nor on what Vault decrypts. -/
lemma lockstep_unwrapDatakey {services' : Services crates} (oaep : Oaep crates.rsa)
    (hlengths : ∀ engine, state.datakeyEngine = some engine →
      engine.SameLengths services services') (request : UnwrapDatakeyRequest) :
    EffectM.Lockstep (fun _ => True) (fun _ _ => True) (unwrapDatakey services state request)
      (unwrapDatakey (services'.withOaep oaep) state request) := by
  rw [unwrapDatakey, unwrapDatakey]
  split
  · exact .ofExcept rfl
  · split
    · exact .ofExcept rfl
    · cases hengine : state.datakeyEngine with
      | none =>
        rw [AppState.engine, hengine]
        exact .ofExcept rfl
      | some engine =>
        have hlengths := hlengths engine hengine
        rw [AppState.engine, hengine]
        refine .bind (R := fun e e' => e = engine ∧ e' = engine) (.ofExcept ⟨rfl, rfl⟩) ?_
        rintro _ _ ⟨rfl, rfl⟩
        refine .bind_of_eq ((lockstep_verifySgxQuote oaep
          (agreeOn_quiet_of_sameLengths hlengths)).mono (fun _ _ => trivial) fun _ _ h => h)
          fun enclave => ?_
        refine .bind ((VaultDatakeyEngine.lockstep_unwrapDatakeyForEnclave oaep hlengths _
          _).mapError _) fun _ _ _ => ?_
        refine .bind ((VaultDatakeyEngine.lockstep_unwrapDatakeyForEnclave oaep hlengths _
          _).mapError _) fun _ _ _ => ?_
        exact .pure trivial

/-- Nor does `release`. -/
lemma lockstep_releaseKey {services' : Services crates} (oaep : Oaep crates.rsa)
    (hlengths : state.kms.SameLengths services services') (request : ReleaseRequest) :
    EffectM.Lockstep (fun _ => True) (fun _ _ => True) (releaseKey services state request)
      (releaseKey (services'.withOaep oaep) state request) := by
  refine .bind_of_eq ((lockstep_verifySgxQuote oaep (SecretProvider.agreeOn_quiet hlengths)).mono
    (fun _ _ => trivial) fun _ _ h => h) fun enclave => ?_
  exact (lockstep_releaseForVerifiedEnclave oaep state.kms hlengths enclave _ _ _).mapError _

/-- `unwrap` posts nothing but behind a verification. -/
lemma guarded_unwrapDatakey {request : UnwrapDatakeyRequest}
    {result : Except ApiError UnwrapDatakeyResponse}
    (h : unwrapDatakey services state request calls = (result, calls')) :
    Guarded services state.toQuoteConfig request.quote request.enclavePublicKey
      request.requiredClearanceLevel calls calls' := by
  rw [unwrapDatakey] at h
  split at h
  · obtain rfl := (Prod.mk.inj h).2
    exact guarded_refl
  · split at h
    · obtain rfl := (Prod.mk.inj h).2
      exact guarded_refl
    · cases hengine : state.engine with
      | error e =>
        rw [hengine] at h
        obtain rfl := (Prod.mk.inj h).2
        exact guarded_refl
      | ok engine =>
        rw [hengine, EffectM.ok_bind] at h
        refine guarded_of_verify (fun enclave => ?_) h
        have hrefl := engine.sameLengths_refl services
        refine .bind ((VaultDatakeyEngine.lockstep_unwrapDatakeyForEnclave crates.oaep hrefl _
          _).mapError _) fun _ _ _ => ?_
        refine .bind ((VaultDatakeyEngine.lockstep_unwrapDatakeyForEnclave crates.oaep hrefl _
          _).mapError _) fun _ _ _ => ?_
        exact .pure trivial

lemma guarded_releaseKey {request : ReleaseRequest}
    {result : Except ApiError WrappedEnclaveSecrets}
    (h : releaseKey services state request calls = (result, calls')) :
    Guarded services state.toQuoteConfig request.quote request.enclavePublicKey
      request.requiredClearanceLevel calls calls' :=
  guarded_of_verify (fun enclave =>
    (lockstep_releaseForVerifiedEnclave crates.oaep state.kms (state.kms.sameLengths_refl services)
      enclave _ _ _).mapError _) h

/-- **No secret leaves without a verified enclave.**  For every request to `unwrap` and `release`,
whatever the services answer: nothing is posted to Vault or to the key management service before the
quote has verified under the strict policy, with the configured measurements and for the key and
the level of this request; a reply with secrets is what Vault has decrypted, wrapped for exactly
that key, with the name of the algorithm, or what the key management service has sent; and an error
reply, with all that was called, is the same for all secrets of the same lengths that Vault could
have decrypted, and for every ciphertext that the encryption could have returned. -/
theorem release_guarded (services : Services crates) (state : AppState) (calls : List BrokerCall) :
    (∀ (request : UnwrapDatakeyRequest) (calls' : List BrokerCall)
      (result : Except ApiError UnwrapDatakeyResponse),
      unwrapDatakey services state request calls = (result, calls') →
      Guarded services state.toQuoteConfig request.quote request.enclavePublicKey
        request.requiredClearanceLevel calls calls' ∧
      match result with
      | .ok response => response.IsWrapped services state request calls'
      | .error e => ∀ (oaep : Oaep crates.rsa) (services' : Services crates),
          (∀ engine, state.datakeyEngine = some engine → engine.SameLengths services services') →
          unwrapDatakey (services'.withOaep oaep) state request calls = (.error e, calls')) ∧
    ∀ (request : ReleaseRequest) (calls' : List BrokerCall)
      (result : Except ApiError WrappedEnclaveSecrets),
      releaseKey services state request calls = (result, calls') →
      Guarded services state.toQuoteConfig request.quote request.enclavePublicKey
        request.requiredClearanceLevel calls calls' ∧
      match result with
      | .ok secrets => secrets.IsWrapped services state request calls'
      | .error e => ∀ (oaep : Oaep crates.rsa) (services' : Services crates),
          state.kms.SameLengths services services' →
          releaseKey (services'.withOaep oaep) state request calls = (.error e, calls') := by
  constructor
  · intro request calls' result h
    refine ⟨guarded_unwrapDatakey h, ?_⟩
    rcases result with e | response
    · intro oaep services' hlengths
      exact (lockstep_unwrapDatakey oaep hlengths request).eq_error h
    · exact isWrapped_of_unwrapDatakey h
  · intro request calls' result h
    refine ⟨guarded_releaseKey h, ?_⟩
    rcases result with e | secrets
    · intro oaep services' hlengths
      exact (lockstep_releaseKey oaep hlengths request).eq_error h
    · exact isWrapped_of_releaseKey h

lemma releaseKey_of_kms_error {request : ReleaseRequest} {kms : HttpsKmsProvider}
    {enclave : VerifiedEnclave} {response : ServiceReply} {body : String}
    (hverify : verifySgxQuote services state.toQuoteConfig request.quote request.enclavePublicKey
      request.requiredClearanceLevel calls = (.ok enclave, calls'))
    (hkms : state.kms = .https kms)
    (hreply : services.reply calls' (.send (kms.releaseRequest enclave request.credentialKeyId
      request.walletCiphertext request.seedCiphertext)) = .ok response)
    (hstatus : response.status.isSuccess = false) (hbody : response.text = .ok body) :
    ∃ calls'', releaseKey services state request calls =
      (.error (.ofBrokerError (.provider response.status body)), calls'') := by
  have hsend := send_eq_ok_iff.mpr ⟨hreply, rfl⟩
  obtain ⟨t, hrelease⟩ : ∃ t, state.kms.releaseForVerifiedEnclave services enclave
      request.credentialKeyId request.walletCiphertext request.seedCiphertext calls' =
        (.error (.provider response.status body), t) := by
    rw [hkms, SecretProvider.releaseForVerifiedEnclave, HttpsKmsProvider.releaseForVerifiedEnclave,
      EffectM.bind_of_eq_ok (EffectM.mapError_eq_ok_iff.mpr hsend), hstatus, hbody]
    exact ⟨_, rfl⟩
  refine ⟨t, ?_⟩
  rw [releaseKey, EffectM.bind_of_eq_ok hverify, EffectM.mapError, hrelease]
  rfl

/-- The body of an error reply that is also a wrapped secret. -/
def leakedBody (text : String) : String := "\x7b\"encrypted_wallet_key\":\"" ++ text ++ "\"\x7d"

lemma infix_append (a b text c : String) : text.toList <:+: (a ++ (b ++ text ++ c)).toList :=
  ⟨(a ++ b).toList, c.toList, by simp only [String.toList_append, List.append_assoc]⟩

lemma infix_leakedBody (text : String) (status : StatusCode) :
    text.toList <:+: (ApiError.ofBrokerError (.provider status (leakedBody text))).error.toList :=
  infix_append ("provider returned HTTP " ++ status.text ++ ": ") _ text _

/-- **An error is passed on**: a key management service that is out of order has wrapped a key for
the enclave all the same, and its reply, as the text of an error, leaves the broker. -/
theorem kms_error_echoed :
    ¬ ∀ (crates : Crates) (services : Services crates) (state : AppState) (request : ReleaseRequest)
        (calls calls' : List BrokerCall) (e : ApiError),
        releaseKey services state request calls = (.error e, calls') →
        ∀ secret text, Wraps crates request.enclavePublicKey secret text →
          ¬ text.toList <:+: e.error.toList := by
  intro hclaim
  let secret : Bytes := List.replicate 32 7
  let text : String := Base64.encode (box .sha256 enclaveModulus secret)
  let status : StatusCode := ⟨503, some "Service Unavailable"⟩
  let services := referenceServices fun _ _ =>
    .ok ⟨status, .ok (Bytes.utf8 (leakedBody text)), .ok (leakedBody text)⟩
  let pem : String := spkiPem enclaveModulus
  let report := referenceReport (bindSession sha256 (sessionBinding (Bytes.utf8 pem) 3))
  let state : AppState := ⟨referenceConfig, .https ⟨"https://kms.example/release", none⟩, none⟩
  let request : ReleaseRequest :=
    ⟨Base64.encode (quoteOf report), pem, "vc-1", 3, "vault:v1:a", "vault:v1:b"⟩
  obtain ⟨calls, hverify⟩ : ∃ calls, verifySgxQuote services state.toQuoteConfig request.quote
      request.enclavePublicKey request.requiredClearanceLevel [] =
        (.ok (verifiedEnclave (quoteOf report) report pem), calls) :=
    ⟨_, verifySgxQuote_eq_ok_iff.mpr ⟨quoteOf report, report, Base64.decode_encode _,
      vouches_reference _ _ _ _, referenceConfig_expects _,
      (boundTo_iff_of_bindSession rfl).mpr rfl, rfl, rfl⟩⟩
  obtain ⟨calls', hrun⟩ := releaseKey_of_kms_error hverify rfl rfl rfl rfl
  have hwraps : Wraps referenceCrates request.enclavePublicKey secret text :=
    ⟨enclaveModulus, [], box .sha256 enclaveModulus secret, fromPublicKeyPem_spkiPem enclaveModulus,
      rfl, rfl⟩
  exact hclaim _ _ _ _ _ _ _ hrun secret text hwraps (infix_leakedBody text status)

/-! ## What an enclave receives

The enclave of this repository sends a key that the broker does not read. -/

/-- The provider fails for a public key that it cannot read, after Vault has decrypted. -/
lemma releaseForVerifiedEnclave_of_key_error {provider : VaultTransitProvider}
    {enclave : VerifiedEnclave} {credentialKeyId walletCiphertext seedCiphertext e : String}
    {walletKey masterSeed : Bytes}
    (hquote : enclave.quote ≠ []) (hdata : enclave.reportData ≠ [])
    (hkey : enclave.enclavePublicKey ≠ "")
    (hwallet : provider.Decrypts services calls walletCiphertext walletKey)
    (hseed : provider.Decrypts services
      (calls ++ [.send (provider.decryptRequest walletCiphertext)]) seedCiphertext masterSeed)
    (herror : crates.rsa.fromPublicKeyPem enclave.enclavePublicKey = .error e) :
    provider.releaseForVerifiedEnclave services enclave credentialKeyId walletCiphertext
      seedCiphertext calls = (.error (.response ("invalid enclave public key: " ++ e)),
        calls ++ [.send (provider.decryptRequest walletCiphertext)] ++
          [.send (provider.decryptRequest seedCiphertext)]) := by
  have hcomplete : ¬ (enclave.quote = [] ∨ enclave.reportData = [] ∨
      enclave.enclavePublicKey = "") := by
    rintro (h | h | h)
    · exact hquote h
    · exact hdata h
    · exact hkey h
  rw [VaultTransitProvider.releaseForVerifiedEnclave, if_neg hcomplete,
    EffectM.bind_of_eq_ok (decryptEnvelope_eq_ok_iff.mpr ⟨hwallet, rfl⟩),
    EffectM.bind_of_eq_ok (decryptEnvelope_eq_ok_iff.mpr ⟨hseed, rfl⟩), herror]
  rfl

/-- What was wrapped under one digest is not unwrapped under the other. -/
lemma decryptSecret_wraps {keyPair : crates.rsa.PrivateKey} {publicKeyPem text : String}
    {secret : Bytes}
    (hkey : crates.rsa.fromPublicKeyPem publicKeyPem = .ok (crates.rsa.publicKey keyPair))
    (h : Wraps crates publicKeyPem secret text) :
    decryptSecret crates.oaep keyPair text ≠ .ok secret := by
  obtain ⟨publicKey, seed, c, hparse, hencrypt, rfl⟩ := h
  obtain rfl := Except.ok.inj (hkey.symm.trans hparse)
  intro hdecrypt
  rw [decryptSecret, Base64.decode_encode] at hdecrypt
  have hsha1 := (crates.oaep.decrypt_iff _ _ _ _ _ _ hencrypt).mp
    (Except.okOr_eq_ok_iff.mp hdecrypt)
  cases hsha1

/-- **No secret is received.**  An enclave hands out its public key in PKCS#1, and whatever key
pair it has made, whatever the services answer: nothing is released for it, and where Vault has
decrypted both secrets the reply is an error about the public key.  A key in the other format would
not help: what is released for it does not decrypt to what Vault has decrypted. -/
theorem release_not_received (services : Services crates) (provider : VaultTransitProvider)
    (keyPair : crates.rsa.PrivateKey) (quote reportData : Bytes)
    (mrenclave mrsigner credentialKeyId walletCiphertext seedCiphertext : String)
    (calls : List BrokerCall) :
    let release := fun enclavePublicKey => provider.releaseForVerifiedEnclave services
      ⟨quote, reportData, enclavePublicKey, mrenclave, mrsigner⟩ credentialKeyId walletCiphertext
      seedCiphertext calls
    let publicKeyPem := crates.rsa.publicKeyToPemPkcs1 (crates.rsa.publicKey keyPair)
    (∀ secrets, (release publicKeyPem).1 ≠ .ok secrets) ∧
    (∀ walletKey masterSeed, quote ≠ [] → reportData ≠ [] →
      provider.Decrypts services calls walletCiphertext walletKey →
      provider.Decrypts services (calls ++ [.send (provider.decryptRequest walletCiphertext)])
        seedCiphertext masterSeed →
      ∃ e, (release publicKeyPem).1 = .error (.response ("invalid enclave public key: " ++ e))) ∧
    ∀ spkiPem secrets, crates.rsa.fromPublicKeyPem spkiPem = .ok (crates.rsa.publicKey keyPair) →
      (release spkiPem).1 = .ok secrets →
      ∃ walletKey masterSeed, provider.Decrypts services calls walletCiphertext walletKey ∧
        provider.Decrypts services (calls ++ [.send (provider.decryptRequest walletCiphertext)])
          seedCiphertext masterSeed ∧
        decryptSecret crates.oaep keyPair secrets.encryptedWalletKey ≠ .ok walletKey ∧
        decryptSecret crates.oaep keyPair secrets.encryptedMasterSeed ≠ .ok masterSeed := by
  intro release publicKeyPem
  obtain ⟨e, herror⟩ := crates.rsa.fromPublicKeyPem_pkcs1 (crates.rsa.publicKey keyPair)
  refine ⟨?_, ?_, ?_⟩
  · intro secrets hrelease
    obtain ⟨_, _, -, -, ⟨publicKey, _, _, hparse, -, -⟩, -⟩ :=
      releaseForVerifiedEnclave_vault (Prod.ext hrelease rfl)
    rw [show crates.rsa.fromPublicKeyPem _ = .error e from herror] at hparse
    cases hparse
  · intro walletKey masterSeed hquote hdata hwallet hseed
    have hkey : publicKeyPem ≠ "" := by
      intro hempty
      have hlabel := crates.rsa.label_pkcs1 (crates.rsa.publicKey keyPair)
      rw [show crates.rsa.publicKeyToPemPkcs1 _ = "" from hempty] at hlabel
      cases hlabel
    exact ⟨e, congrArg Prod.fst
      (releaseForVerifiedEnclave_of_key_error hquote hdata hkey hwallet hseed herror)⟩
  · intro spkiPem secrets hparse hrelease
    obtain ⟨walletKey, masterSeed, hwallet, hseed, hwraps, hwraps', -⟩ :=
      releaseForVerifiedEnclave_vault (Prod.ext hrelease rfl)
    exact ⟨walletKey, masterSeed, hwallet, hseed, decryptSecret_wraps hparse hwraps,
      decryptSecret_wraps hparse hwraps'⟩

/-- A Vault that decrypts everything to the same 32 bytes. -/
def constantVault : Services referenceCrates :=
  referenceServices fun _ _ => .ok (jsonReply
    (.obj [("data", .obj [("plaintext", .str (Base64.encode (List.replicate 32 7)))])]))

lemma decrypts_constantVault (provider : VaultTransitProvider) (calls : List BrokerCall)
    (ciphertext : String) :
    provider.Decrypts constantVault calls ciphertext (List.replicate 32 7) := by
  refine ⟨_, ⟨some (Base64.encode (List.replicate 32 7)), []⟩, _, rfl,
    json_jsonReply referenceCrates ?_ ?_ ?_, rfl, rfl, Base64.decode_encode _⟩
  · simp
  · simp
  · rfl

/-- **An enclave is left without its secrets**, by a Vault that has decrypted both. -/
theorem release_not_received_key :
    ¬ ∀ (crates : Crates) (services : Services crates) (provider : VaultTransitProvider)
        (keyPair : crates.rsa.PrivateKey) (enclave : VerifiedEnclave)
        (credentialKeyId walletCiphertext seedCiphertext : String) (calls : List BrokerCall)
        (walletKey : Bytes) (masterSeed : FixedBytes 32),
        enclave.quote ≠ [] → enclave.reportData ≠ [] →
        enclave.enclavePublicKey =
          crates.rsa.publicKeyToPemPkcs1 (crates.rsa.publicKey keyPair) →
        walletKey.length + 66 ≤ crates.rsa.size (crates.rsa.publicKey keyPair) →
        (∀ before, provider.Decrypts services before walletCiphertext walletKey) →
        (∀ before, provider.Decrypts services before seedCiphertext masterSeed.1) →
        ∃ secrets calls', provider.releaseForVerifiedEnclave services enclave credentialKeyId
            walletCiphertext seedCiphertext calls = (.ok secrets, calls') ∧
          openSecrets crates.oaep keyPair ⟨secrets.encryptedWalletKey,
            secrets.encryptedMasterSeed, secrets.keyEncryptionAlgorithm⟩ =
              .ok (walletKey, masterSeed) := by
  intro hclaim
  obtain ⟨secrets, calls', hrelease, -⟩ := hclaim referenceCrates constantVault
    ⟨"http://127.0.0.1:8200", "token", "dzta"⟩ enclaveModulus
    ⟨[1], [2], Rsa.moduli.publicKeyToPemPkcs1 enclaveModulus, "", ""⟩ "vc-1" "vault:v1:a"
    "vault:v1:b" [] (List.replicate 32 7) ⟨List.replicate 32 7, rfl⟩ (by simp) (by simp) rfl
    (show 32 + 66 ≤ 256 by norm_num) (fun before => decrypts_constantVault _ before _)
    (fun before => decrypts_constantVault _ before _)
  obtain ⟨_, _, -, -, ⟨publicKey, _, _, hparse, -, -⟩, -⟩ :=
    releaseForVerifiedEnclave_vault hrelease
  obtain ⟨e, herror⟩ := Rsa.moduli.fromPublicKeyPem_pkcs1 enclaveModulus
  cases herror.symm.trans hparse

end Release

end DZTA
