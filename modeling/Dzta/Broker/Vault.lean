import Dzta.Broker.Attestation

/-!
# Vault and the key management service

The broker's two ways to release secrets to an enclave: it has Vault decrypt them and wraps what
comes back for the key of the enclave, or it hands the request on to a key management service that
wraps them itself.  Beside them is the engine for data keys, which also makes and encrypts secrets.

The engine and the provider for releases each have their own code for the same endpoint of Vault,
and read its replies differently.
-/

namespace DZTA

open Json

/-! ## Replies of Vault

The parts of a reply that are read; what a variant lacks is null. -/

/-- `VaultDecryptResponse`: the plaintext, if there is one, and the errors. -/
structure VaultDecryptResponse where
  plaintext : Option String
  errors : List String

/-- The derived `Deserialize` of the inner struct, which has one optional field. -/
def VaultDecryptResponse.deserializeData : Json → Option (Option String)
  | .obj ms => defaultField "plaintext" none (optional asString?) ms
  | .arr [plaintext] => optional asString? plaintext
  | _ => none

/-- The derived `Deserialize`, where both fields have a default. -/
def VaultDecryptResponse.deserialize : Json → Option VaultDecryptResponse
  | .obj ms => do
    some ⟨← defaultField "data" none deserializeData ms, ← defaultField "errors" [] strings ms⟩
  | .arr [] => some ⟨none, []⟩
  | .arr [data] => do some ⟨← deserializeData data, []⟩
  | .arr [data, errors] => do some ⟨← deserializeData data, ← errors.strings⟩
  | _ => none

/-- `VaultDatakeyResponse`: a new data key, as it is and encrypted by Vault. -/
structure VaultDatakeyResponse where
  plaintext : String
  ciphertext : String
  errors : List String

/-- The derived `Deserialize` of the inner struct. -/
def VaultDatakeyResponse.deserializeData : Json → Option (String × String)
  | .obj ms => do
    some (← (← requiredField "plaintext" ms).asString?,
      ← (← requiredField "ciphertext" ms).asString?)
  | .arr [plaintext, ciphertext] => do some (← plaintext.asString?, ← ciphertext.asString?)
  | _ => none

/-- The derived `Deserialize`, where both fields have a default. -/
def VaultDatakeyResponse.deserialize : Json → Option VaultDatakeyResponse
  | .obj ms => do
    let (plaintext, ciphertext) ← defaultField "data" ("", "") deserializeData ms
    some ⟨plaintext, ciphertext, ← defaultField "errors" [] strings ms⟩
  | .arr [] => some ⟨"", "", []⟩
  | .arr [data] => do
    let (plaintext, ciphertext) ← deserializeData data
    some ⟨plaintext, ciphertext, []⟩
  | .arr [data, errors] => do
    let (plaintext, ciphertext) ← deserializeData data
    some ⟨plaintext, ciphertext, ← errors.strings⟩
  | _ => none

/-- `VaultSeedResponse`: random bytes, in base64. -/
structure VaultSeedResponse where
  randomBytes : String
  errors : List String

/-- The derived `Deserialize` of the inner struct. -/
def VaultSeedResponse.deserializeData : Json → Option String
  | .obj ms => do (← requiredField "random_bytes" ms).asString?
  | .arr [randomBytes] => randomBytes.asString?
  | _ => none

/-- The derived `Deserialize`, where both fields have a default. -/
def VaultSeedResponse.deserialize : Json → Option VaultSeedResponse
  | .obj ms => do
    some ⟨← defaultField "data" "" deserializeData ms, ← defaultField "errors" [] strings ms⟩
  | .arr [] => some ⟨"", []⟩
  | .arr [data] => do some ⟨← deserializeData data, []⟩
  | .arr [data, errors] => do some ⟨← deserializeData data, ← errors.strings⟩
  | _ => none

/-! ## Wrapping

A secret is encrypted for the enclave, as far as it fits its key. -/

section Providers

variable {crates : Crates} (services : Services crates)

/-- Encrypts for a public key with a fresh random seed, and encodes. -/
def encryptOaep (publicKey : crates.rsa.PublicKey) (message : Bytes) : BrokerM String String := do
  let seed ← services.call .random
  let ciphertext ← .ofExcept (Except.okOr "message too long"
    (crates.oaep.encrypt .sha256 publicKey seed message))
  return Base64.encode ciphertext

/-- A reply with an error status is an error, with a text. -/
def checkStatus (status : StatusCode) (body : String) : Except BrokerError Unit :=
  if status.isSuccess then .ok () else .error (.provider status body)

/-! ## The provider for releases

The broker has Vault decrypt, and wraps by itself. -/

/-- `VaultTransitProvider`: a key of Vault that envelopes are decrypted with. -/
structure VaultTransitProvider where
  address : String
  token : String
  transitKey : String

/-- The request for the decryption of a ciphertext. -/
def VaultTransitProvider.decryptRequest (provider : VaultTransitProvider) (ciphertext : String) :
    ServiceRequest :=
  ⟨provider.address ++ "/v1/transit/decrypt/" ++ provider.transitKey,
    [("X-Vault-Token", provider.token)], some (.obj [("ciphertext", .str ciphertext)])⟩

/-- `decrypt_envelope`: Vault decrypts a ciphertext, and the plaintext comes in base64. -/
def VaultTransitProvider.decryptEnvelope (provider : VaultTransitProvider) (ciphertext : String) :
    BrokerM BrokerError Bytes := do
  let response ← .mapError .request (send services (provider.decryptRequest ciphertext))
  let body ← .ofExcept ((crates.json VaultDecryptResponse.deserialize response).mapError .request)
  .ofExcept (checkStatus response.status (String.intercalate ", " body.errors))
  let plaintext ← .ofExcept (Except.okOr (.response "Vault returned no plaintext") body.plaintext)
  .ofExcept ((crates.base64Decode plaintext).mapError fun e =>
    .response ("invalid Vault plaintext: " ++ e))

/-- `VaultSecretRelease::release_for_verified_enclave`: both secrets are decrypted by Vault, and
wrapped for the enclave by the broker. -/
def VaultTransitProvider.releaseForVerifiedEnclave (provider : VaultTransitProvider)
    (enclave : VerifiedEnclave) (credentialKeyId walletCiphertext seedCiphertext : String) :
    BrokerM BrokerError WrappedEnclaveSecrets := do
  if enclave.quote = [] ∨ enclave.reportData = [] ∨ enclave.enclavePublicKey = "" then
    .ofExcept (.error (.configuration "verified enclave identity is incomplete"))
  else
    let walletKey ← provider.decryptEnvelope services walletCiphertext
    let masterSeed ← provider.decryptEnvelope services seedCiphertext
    let publicKey ← .ofExcept ((crates.rsa.fromPublicKeyPem enclave.enclavePublicKey).mapError
      fun e => .response ("invalid enclave public key: " ++ e))
    let encryptedWalletKey ← .mapError (fun e => .response ("failed to wrap wallet key: " ++ e))
      (encryptOaep services publicKey walletKey)
    let encryptedMasterSeed ← .mapError (fun e => .response ("failed to wrap master seed: " ++ e))
      (encryptOaep services publicKey masterSeed)
    return ⟨encryptedWalletKey, encryptedMasterSeed, "RSA-OAEP-SHA256:" ++ credentialKeyId⟩

/-! ## The key management service

The service wraps by itself, and the broker passes its reply on. -/

/-- `HttpsKmsProvider`: a key management service that wraps secrets itself. -/
structure HttpsKmsProvider where
  endpoint : String
  bearerToken : Option String

/-- A byte string as an array of numbers. -/
def jsonBytes (bytes : Bytes) : Json := .arr (bytes.map fun b => .num (.ofNat b.toNat))

/-- The request for a release, with a `KmsReleaseRequest` as its body. -/
def HttpsKmsProvider.releaseRequest (kms : HttpsKmsProvider) (enclave : VerifiedEnclave)
    (credentialKeyId walletCiphertext seedCiphertext : String) : ServiceRequest :=
  ⟨kms.endpoint, kms.bearerToken.toList.map fun token => ("Authorization", "Bearer " ++ token),
    some (.obj [("quote", jsonBytes enclave.quote), ("report_data", jsonBytes enclave.reportData),
      ("enclave_public_key", .str enclave.enclavePublicKey),
      ("mrenclave", .str enclave.mrenclave), ("mrsigner", .str enclave.mrsigner),
      ("credential_key_id", .str credentialKeyId), ("wallet_ciphertext", .str walletCiphertext),
      ("seed_ciphertext", .str seedCiphertext)])⟩

/-- `HttpsKmsProvider::release_for_verified_enclave`: the service is asked for the wrapped secrets,
and what it says is passed on. -/
def HttpsKmsProvider.releaseForVerifiedEnclave (kms : HttpsKmsProvider) (enclave : VerifiedEnclave)
    (credentialKeyId walletCiphertext seedCiphertext : String) :
    BrokerM BrokerError WrappedEnclaveSecrets := do
  let response ← .mapError .request (send services
    (kms.releaseRequest enclave credentialKeyId walletCiphertext seedCiphertext))
  if response.status.isSuccess then
    .ofExcept ((crates.json WrappedEnclaveSecrets.deserialize response).mapError .request)
  else
    let body ← .ofExcept (response.text.mapError .request)
    .ofExcept (.error (.provider response.status body))

/-- `SecretProvider`: the two kinds of services that secrets are released by. -/
inductive SecretProvider where
  | vault (provider : VaultTransitProvider)
  | https (kms : HttpsKmsProvider)

/-- `release_for_verified_enclave`, of the one service or the other. -/
def SecretProvider.releaseForVerifiedEnclave (kms : SecretProvider) (enclave : VerifiedEnclave)
    (credentialKeyId walletCiphertext seedCiphertext : String) :
    BrokerM BrokerError WrappedEnclaveSecrets :=
  match kms with
  | vault provider => provider.releaseForVerifiedEnclave services enclave credentialKeyId
      walletCiphertext seedCiphertext
  | https kms => kms.releaseForVerifiedEnclave services enclave credentialKeyId
      walletCiphertext seedCiphertext

/-! ## The engine for data keys

Vault makes secrets and encrypts them, and the broker wraps them for the enclave. -/

/-- `VaultDatakeyEngine`: the key of Vault that new secrets are encrypted with. -/
structure VaultDatakeyEngine where
  vaultAddr : String
  vaultToken : String
  secretKeyName : String

namespace VaultDatakeyEngine

variable (engine : VaultDatakeyEngine)

/-- The request for a data key. -/
def datakeyRequest : ServiceRequest :=
  ⟨engine.vaultAddr ++ "/v1/transit/datakey/plaintext/" ++ engine.secretKeyName,
    [("X-Vault-Token", engine.vaultToken)], none⟩

/-- The request for random bytes. -/
def randomRequest : ServiceRequest :=
  ⟨engine.vaultAddr ++ "/v1/transit/random/32", [("X-Vault-Token", engine.vaultToken)],
    some (.obj [("format", .str "base64")])⟩

/-- The request for the encryption of a payload. -/
def encryptRequest (payload : Bytes) : ServiceRequest :=
  ⟨engine.vaultAddr ++ "/v1/transit/encrypt/" ++ engine.secretKeyName,
    [("Authorization", "Bearer " ++ engine.vaultToken)],
    some (.obj [("plaintext", .str (Base64.encode payload))])⟩

/-- The request for the decryption of a ciphertext. -/
def decryptRequest (ciphertext : String) : ServiceRequest :=
  ⟨engine.vaultAddr ++ "/v1/transit/decrypt/" ++ engine.secretKeyName,
    [("X-Vault-Token", engine.vaultToken)], some (.obj [("ciphertext", .str ciphertext)])⟩

/-- `generate_vault_random_seed`: random bytes of Vault for a master seed. -/
def generateVaultRandomSeed : BrokerM BrokerError Bytes := do
  let response ← .mapError .request (send services engine.randomRequest)
  let resp ← .ofExcept ((crates.json VaultSeedResponse.deserialize response).mapError .request)
  .ofExcept (checkStatus response.status (String.intercalate ", " resp.errors))
  .ofExcept ((crates.base64Decode resp.randomBytes).mapError fun e =>
    .response ("invalid Vault random bytes: " ++ e))

/-- `encrypt`.  The status of the reply is not looked at. -/
def encrypt (payload : Bytes) : BrokerM BrokerError String := do
  let response ← .mapError (fun e => .response ("Vault encrypt request failed: " ++ e))
    (send services (engine.encryptRequest payload))
  let body ← .ofExcept ((crates.json some response).mapError fun e =>
    .response ("Vault encrypt response read failed: " ++ e))
  .ofExcept (Except.okOr (.response "Vault returned no ciphertext")
    ((body.index "data").index "ciphertext").asString?)

/-- The text of an error reply to a decryption. -/
def decryptFailure (status : StatusCode) (body : Json) : String :=
  match (body.index "errors").asArray? with
  | some errors => String.intercalate ", " (errors.filterMap asString?)
  | none => "Vault transit decrypt failed with status " ++ status.text

/-- `decrypt`: Vault decrypts a ciphertext for the engine. -/
def decrypt (ciphertext : String) : BrokerM BrokerError Bytes := do
  let response ← .mapError (fun e => .response ("Vault decrypt request failed: " ++ e))
    (send services (engine.decryptRequest ciphertext))
  let body ← .ofExcept ((crates.json some response).mapError fun e =>
    .response ("Vault decrypt response read failed: " ++ e))
  if !response.status.isSuccess then
    .ofExcept (.error (.response (decryptFailure response.status body)))
  else
    let plaintext ← .ofExcept (Except.okOr (.response "Vault response missing plaintext field")
      ((body.index "data").index "plaintext").asString?)
    .ofExcept ((crates.base64Decode plaintext).mapError fun e =>
      .response ("invalid Vault plaintext: " ++ e))

/-- `wrap_bytes_for_enclave`: bytes are encrypted with the public key of the enclave. -/
def wrapBytesForEnclave (rawBytes : Bytes) (enclavePublicKeyPem : String) :
    BrokerM BrokerError String := do
  let publicKey ← .ofExcept ((crates.rsa.fromPublicKeyPem enclavePublicKeyPem).mapError fun e =>
    .response ("invalid enclave public key: " ++ e))
  .mapError (fun e => .response ("failed to wrap bytes for enclave: " ++ e))
    (encryptOaep services publicKey rawBytes)

/-- `provision_datakey`: a new data key of Vault, encrypted by Vault and wrapped for the enclave. -/
def provisionDatakey (enclavePublicKeyPem : String) :
    BrokerM BrokerError ProvisioningDataKeyResponse := do
  let response ← .mapError .request (send services engine.datakeyRequest)
  let resp ← .ofExcept ((crates.json VaultDatakeyResponse.deserialize response).mapError .request)
  .ofExcept (checkStatus response.status (String.intercalate ", " resp.errors))
  let rawDekBytes ← .ofExcept ((crates.base64Decode resp.plaintext).mapError fun e =>
    .response ("invalid Vault plaintext: " ++ e))
  let encryptedWalletKeyForEnclave ← wrapBytesForEnclave services rawDekBytes enclavePublicKeyPem
  let rawMasterSeed ← engine.generateVaultRandomSeed services
  let seedCiphertext ← engine.encrypt services rawMasterSeed
  let encryptedMasterSeedForEnclave ←
    wrapBytesForEnclave services rawMasterSeed enclavePublicKeyPem
  return ⟨resp.ciphertext, encryptedWalletKeyForEnclave, seedCiphertext,
    encryptedMasterSeedForEnclave⟩

/-- `unwrap_datakey_for_enclave`: a ciphertext of Vault is turned into one for the enclave. -/
def unwrapDatakeyForEnclave (walletCiphertext enclavePublicKeyPem : String) :
    BrokerM BrokerError String := do
  let rawDekBytes ← .mapError (fun e => .response e.text)
    (engine.decrypt services walletCiphertext)
  wrapBytesForEnclave services rawDekBytes enclavePublicKeyPem

end VaultDatakeyEngine

/-! ## What a success means

Each call of a service that succeeds says what the service has answered. -/

section Success

variable {services} {calls calls' : List BrokerCall}

lemma checkStatus_eq_ok_iff {status : StatusCode} {body : String} {u : Unit} :
    checkStatus status body = .ok u ↔ status.isSuccess = true := by
  rw [checkStatus]
  split <;> simp_all

/-- **What is wrapped** is the message, under the public key, with a fresh seed. -/
theorem encryptOaep_eq_ok_iff {publicKey : crates.rsa.PublicKey} {message : Bytes}
    {text : String} :
    encryptOaep services publicKey message calls = (.ok text, calls') ↔
      ∃ c, crates.oaep.encrypt .sha256 publicKey (services.reply calls .random) message = some c ∧
        text = Base64.encode c ∧ calls ++ [.random] = calls' := by
  rw [encryptOaep, Environment.call_bind, EffectM.ofExcept_bind_eq_ok_iff]
  simp only [Except.okOr_eq_ok_iff]
  constructor
  · rintro ⟨c, hc, h⟩
    obtain ⟨htext, hcalls⟩ := Prod.mk.inj h
    exact ⟨c, hc, (Except.ok.inj htext).symm, hcalls⟩
  · rintro ⟨c, hc, rfl, rfl⟩
    exact ⟨c, hc, rfl⟩

/-- A text is what a secret is wrapped to for a public key. -/
def Wraps (crates : Crates) (publicKeyPem : String) (secret : Bytes) (text : String) : Prop :=
  ∃ publicKey seed c, crates.rsa.fromPublicKeyPem publicKeyPem = .ok publicKey ∧
    crates.oaep.encrypt .sha256 publicKey seed secret = some c ∧ text = Base64.encode c

/-- Vault decrypts a ciphertext for the provider. -/
def VaultTransitProvider.Decrypts (services : Services crates) (provider : VaultTransitProvider)
    (calls : List BrokerCall) (ciphertext : String) (plaintext : Bytes) : Prop :=
  ∃ response body text,
    services.reply calls (.send (provider.decryptRequest ciphertext)) = .ok response ∧
    crates.json VaultDecryptResponse.deserialize response = .ok body ∧
    response.status.isSuccess = true ∧ body.plaintext = some text ∧
    Base64.decode text = some plaintext

lemma decryptEnvelope_eq_ok_iff {provider : VaultTransitProvider} {ciphertext : String}
    {plaintext : Bytes} :
    provider.decryptEnvelope services ciphertext calls = (.ok plaintext, calls') ↔
      provider.Decrypts services calls ciphertext plaintext ∧
        calls ++ [.send (provider.decryptRequest ciphertext)] = calls' := by
  simp only [VaultTransitProvider.decryptEnvelope, EffectM.mapError_bind_eq_ok_iff,
    send_eq_ok_iff, EffectM.ofExcept_bind_eq_ok_iff, Except.mapError_eq_ok_iff,
    checkStatus_eq_ok_iff, Except.okOr_eq_ok_iff, EffectM.ofExcept_eq_ok_iff,
    Crates.base64Decode_eq_ok_iff, VaultTransitProvider.Decrypts]
  constructor
  · rintro ⟨response, _, ⟨hreply, rfl⟩, body, hbody, -, hstatus, text, htext, hdecode, rfl⟩
    exact ⟨⟨response, body, text, hreply, hbody, hstatus, htext, hdecode⟩, rfl⟩
  · rintro ⟨⟨response, body, text, hreply, hbody, hstatus, htext, hdecode⟩, rfl⟩
    exact ⟨response, _, ⟨hreply, rfl⟩, body, hbody, (), hstatus, text, htext, hdecode, rfl⟩

namespace VaultDatakeyEngine

variable {engine : VaultDatakeyEngine}

/-- Vault decrypts a ciphertext for the engine. -/
def Decrypts (services : Services crates) (engine : VaultDatakeyEngine) (calls : List BrokerCall)
    (ciphertext : String) (plaintext : Bytes) : Prop :=
  ∃ response body text,
    services.reply calls (.send (engine.decryptRequest ciphertext)) = .ok response ∧
    crates.json some response = .ok body ∧ response.status.isSuccess = true ∧
    ((body.index "data").index "plaintext").asString? = some text ∧
    Base64.decode text = some plaintext

lemma decrypt_eq_ok_iff {ciphertext : String} {plaintext : Bytes} :
    engine.decrypt services ciphertext calls = (.ok plaintext, calls') ↔
      engine.Decrypts services calls ciphertext plaintext ∧
        calls ++ [.send (engine.decryptRequest ciphertext)] = calls' := by
  simp only [decrypt, EffectM.mapError_bind_eq_ok_iff, send_eq_ok_iff,
    EffectM.ofExcept_bind_eq_ok_iff, Except.mapError_eq_ok_iff, Decrypts]
  constructor
  · rintro ⟨response, _, ⟨hreply, rfl⟩, body, hbody, h⟩
    cases hstatus : response.status.isSuccess with
    | false =>
      rw [hstatus] at h
      cases h
    | true =>
      rw [hstatus] at h
      obtain ⟨text, htext, h⟩ := EffectM.ofExcept_bind_eq_ok_iff.mp h
      obtain ⟨hdecode, rfl⟩ := EffectM.ofExcept_eq_ok_iff.mp h
      exact ⟨⟨response, body, text, hreply, hbody, hstatus, Except.okOr_eq_ok_iff.mp htext,
        Crates.base64Decode_eq_ok_iff.mp (Except.mapError_eq_ok_iff.mp hdecode)⟩, rfl⟩
  · rintro ⟨⟨response, body, text, hreply, hbody, hstatus, htext, hdecode⟩, rfl⟩
    refine ⟨response, _, ⟨hreply, rfl⟩, body, hbody, ?_⟩
    rw [hstatus]
    exact EffectM.ofExcept_bind_eq_ok_iff.mpr ⟨text, Except.okOr_eq_ok_iff.mpr htext,
      EffectM.ofExcept_eq_ok_iff.mpr ⟨Except.mapError_eq_ok_iff.mpr
        (Crates.base64Decode_eq_ok_iff.mpr hdecode), rfl⟩⟩

lemma Decrypts.unique {ciphertext : String} {plaintext plaintext' : Bytes}
    (h : engine.Decrypts services calls ciphertext plaintext)
    (h' : engine.Decrypts services calls ciphertext plaintext') : plaintext = plaintext' :=
  Except.ok.inj (Prod.mk.inj
    ((decrypt_eq_ok_iff.mpr ⟨h, rfl⟩).symm.trans (decrypt_eq_ok_iff.mpr ⟨h', rfl⟩))).1

lemma wrapBytesForEnclave_eq_ok_iff {rawBytes : Bytes} {publicKeyPem text : String} :
    wrapBytesForEnclave services rawBytes publicKeyPem calls = (.ok text, calls') ↔
      ∃ publicKey c, crates.rsa.fromPublicKeyPem publicKeyPem = .ok publicKey ∧
        crates.oaep.encrypt .sha256 publicKey (services.reply calls .random) rawBytes = some c ∧
        text = Base64.encode c ∧ calls ++ [.random] = calls' := by
  simp only [wrapBytesForEnclave, EffectM.ofExcept_bind_eq_ok_iff, Except.mapError_eq_ok_iff,
    EffectM.mapError_eq_ok_iff, encryptOaep_eq_ok_iff, exists_and_left]

lemma wraps_of_wrapBytesForEnclave {rawBytes : Bytes} {publicKeyPem text : String}
    (h : wrapBytesForEnclave services rawBytes publicKeyPem calls = (.ok text, calls')) :
    Wraps crates publicKeyPem rawBytes text ∧ calls ++ [.random] = calls' := by
  obtain ⟨publicKey, c, hkey, hencrypt, htext, hcalls⟩ := wrapBytesForEnclave_eq_ok_iff.mp h
  exact ⟨⟨publicKey, _, c, hkey, hencrypt, htext⟩, hcalls⟩

/-- **What is unwrapped for an enclave** is what Vault decrypts, wrapped for its public key. -/
theorem unwrapDatakeyForEnclave_eq_ok_iff {ciphertext publicKeyPem text : String} :
    engine.unwrapDatakeyForEnclave services ciphertext publicKeyPem calls = (.ok text, calls') ↔
      ∃ rawDekBytes, engine.Decrypts services calls ciphertext rawDekBytes ∧
        wrapBytesForEnclave services rawDekBytes publicKeyPem
          (calls ++ [.send (engine.decryptRequest ciphertext)]) = (.ok text, calls') := by
  simp only [unwrapDatakeyForEnclave, EffectM.mapError_bind_eq_ok_iff, decrypt_eq_ok_iff]
  constructor
  · rintro ⟨rawDekBytes, _, ⟨hdecrypts, rfl⟩, h⟩
    exact ⟨rawDekBytes, hdecrypts, h⟩
  · rintro ⟨rawDekBytes, hdecrypts, h⟩
    exact ⟨rawDekBytes, _, ⟨hdecrypts, rfl⟩, h⟩

lemma calls_of_generateVaultRandomSeed {seed : Bytes}
    (h : engine.generateVaultRandomSeed services calls = (.ok seed, calls')) :
    calls' = calls ++ [.send engine.randomRequest] := by
  obtain ⟨response, _, hsend, h⟩ := EffectM.mapError_bind_eq_ok_iff.mp h
  obtain ⟨-, rfl⟩ := send_eq_ok_iff.mp hsend
  obtain ⟨_, -, h⟩ := EffectM.ofExcept_bind_eq_ok_iff.mp h
  obtain ⟨_, -, h⟩ := EffectM.ofExcept_bind_eq_ok_iff.mp h
  exact (EffectM.ofExcept_eq_ok_iff.mp h).2.symm

/-- Vault encrypts a payload for the engine, in its reply after some calls. -/
def Encrypts (services : Services crates) (engine : VaultDatakeyEngine) (calls : List BrokerCall)
    (payload : Bytes) (ciphertext : String) : Prop :=
  ∃ response body,
    services.reply calls (.send (engine.encryptRequest payload)) = .ok response ∧
    crates.json some response = .ok body ∧
    ((body.index "data").index "ciphertext").asString? = some ciphertext

lemma encrypts_of_encrypt {payload : Bytes} {ciphertext : String}
    (h : engine.encrypt services payload calls = (.ok ciphertext, calls')) :
    engine.Encrypts services calls payload ciphertext ∧
      calls' = calls ++ [.send (engine.encryptRequest payload)] := by
  obtain ⟨response, _, hsend, h⟩ := EffectM.mapError_bind_eq_ok_iff.mp h
  obtain ⟨hreply, rfl⟩ := send_eq_ok_iff.mp hsend
  obtain ⟨body, hbody, h⟩ := EffectM.ofExcept_bind_eq_ok_iff.mp h
  obtain ⟨htext, rfl⟩ := EffectM.ofExcept_eq_ok_iff.mp h
  exact ⟨⟨response, body, hreply, Except.mapError_eq_ok_iff.mp hbody,
    Except.okOr_eq_ok_iff.mp htext⟩, rfl⟩

/-- Vault makes a data key for the engine, in its reply after some calls. -/
def MakesDatakey (services : Services crates) (engine : VaultDatakeyEngine)
    (calls : List BrokerCall) (key : Bytes) (ciphertext : String) : Prop :=
  ∃ response resp, services.reply calls (.send engine.datakeyRequest) = .ok response ∧
    response.status.isSuccess = true ∧
    crates.json VaultDatakeyResponse.deserialize response = .ok resp ∧
    Base64.decode resp.plaintext = some key ∧ resp.ciphertext = ciphertext

/-- **What the engine provisions**: the wallet key is the data key, wrapped, beside its
ciphertext. -/
lemma makesDatakey_of_provisionDatakey {publicKeyPem : String}
    {provision : ProvisioningDataKeyResponse}
    (h : engine.provisionDatakey services publicKeyPem calls = (.ok provision, calls')) :
    ∃ walletKey, engine.MakesDatakey services calls walletKey provision.walletCiphertext ∧
      Wraps crates publicKeyPem walletKey provision.encryptedWalletKeyForEnclave ∧
      calls ++ [.send engine.datakeyRequest] <+: calls' := by
  obtain ⟨response, _, hsend, h⟩ := EffectM.mapError_bind_eq_ok_iff.mp h
  obtain ⟨hreply, rfl⟩ := send_eq_ok_iff.mp hsend
  obtain ⟨resp, hresp, h⟩ := EffectM.ofExcept_bind_eq_ok_iff.mp h
  obtain ⟨_, hstatus, h⟩ := EffectM.ofExcept_bind_eq_ok_iff.mp h
  obtain ⟨walletKey, hdecode, h⟩ := EffectM.ofExcept_bind_eq_ok_iff.mp h
  obtain ⟨encryptedWalletKey, _, hwrap, h⟩ := EffectM.bind_eq_ok_iff.mp h
  obtain ⟨hwraps, rfl⟩ := wraps_of_wrapBytesForEnclave hwrap
  obtain ⟨seed, _, hseed, h⟩ := EffectM.bind_eq_ok_iff.mp h
  obtain rfl := calls_of_generateVaultRandomSeed hseed
  obtain ⟨seedCiphertext, _, hencrypt, h⟩ := EffectM.bind_eq_ok_iff.mp h
  obtain ⟨-, rfl⟩ := encrypts_of_encrypt hencrypt
  obtain ⟨encryptedMasterSeed, _, hwrap', h⟩ := EffectM.bind_eq_ok_iff.mp h
  obtain ⟨-, rfl⟩ := wraps_of_wrapBytesForEnclave hwrap'
  obtain ⟨hprovision, rfl⟩ := Prod.mk.inj h
  obtain rfl := Except.ok.inj hprovision
  refine ⟨walletKey, ⟨response, resp, hreply, checkStatus_eq_ok_iff.mp hstatus,
    Except.mapError_eq_ok_iff.mp hresp,
    Crates.base64Decode_eq_ok_iff.mp (Except.mapError_eq_ok_iff.mp hdecode), rfl⟩, hwraps, ?_⟩
  simp only [List.append_assoc]
  exact List.prefix_append_right_inj _ |>.mpr (List.prefix_append _ _)

end VaultDatakeyEngine

/-- **What is released by Vault** is what it decrypts, wrapped for the public key of the
enclave. -/
lemma releaseForVerifiedEnclave_vault {provider : VaultTransitProvider} {enclave : VerifiedEnclave}
    {credentialKeyId walletCiphertext seedCiphertext : String} {secrets : WrappedEnclaveSecrets}
    (h : provider.releaseForVerifiedEnclave services enclave credentialKeyId walletCiphertext
      seedCiphertext calls = (.ok secrets, calls')) :
    ∃ walletKey masterSeed, provider.Decrypts services calls walletCiphertext walletKey ∧
      provider.Decrypts services
        (calls ++ [.send (provider.decryptRequest walletCiphertext)]) seedCiphertext masterSeed ∧
      Wraps crates enclave.enclavePublicKey walletKey secrets.encryptedWalletKey ∧
      Wraps crates enclave.enclavePublicKey masterSeed secrets.encryptedMasterSeed ∧
      secrets.keyEncryptionAlgorithm = "RSA-OAEP-SHA256:" ++ credentialKeyId ∧
      calls' = calls ++ [.send (provider.decryptRequest walletCiphertext)] ++
        [.send (provider.decryptRequest seedCiphertext)] ++ [.random] ++ [.random] := by
  rw [VaultTransitProvider.releaseForVerifiedEnclave] at h
  split at h
  · cases h
  · obtain ⟨walletKey, _, hfirst, h⟩ := EffectM.bind_eq_ok_iff.mp h
    obtain ⟨hwallet, rfl⟩ := decryptEnvelope_eq_ok_iff.mp hfirst
    obtain ⟨masterSeed, _, hsecond, h⟩ := EffectM.bind_eq_ok_iff.mp h
    obtain ⟨hseed, rfl⟩ := decryptEnvelope_eq_ok_iff.mp hsecond
    obtain ⟨publicKey, hparse, h⟩ := EffectM.ofExcept_bind_eq_ok_iff.mp h
    have hkey := Except.mapError_eq_ok_iff.mp hparse
    obtain ⟨_, _, hthird, h⟩ := EffectM.mapError_bind_eq_ok_iff.mp h
    obtain ⟨c, hc, rfl, rfl⟩ := encryptOaep_eq_ok_iff.mp hthird
    obtain ⟨_, _, hfourth, h⟩ := EffectM.mapError_bind_eq_ok_iff.mp h
    obtain ⟨c', hc', rfl, rfl⟩ := encryptOaep_eq_ok_iff.mp hfourth
    obtain ⟨hsecrets, hcalls⟩ := Prod.mk.inj h
    obtain rfl := Except.ok.inj hsecrets
    exact ⟨walletKey, masterSeed, hwallet, hseed, ⟨publicKey, _, c, hkey, hc, rfl⟩,
      ⟨publicKey, _, c', hkey, hc', rfl⟩, rfl, hcalls.symm⟩

/-- What is released by the key management service is its reply. -/
lemma releaseForVerifiedEnclave_https {kms : HttpsKmsProvider} {enclave : VerifiedEnclave}
    {credentialKeyId walletCiphertext seedCiphertext : String} {secrets : WrappedEnclaveSecrets}
    (h : kms.releaseForVerifiedEnclave services enclave credentialKeyId walletCiphertext
      seedCiphertext calls = (.ok secrets, calls')) :
    ∃ response, services.reply calls (.send (kms.releaseRequest enclave credentialKeyId
        walletCiphertext seedCiphertext)) = .ok response ∧
      crates.json WrappedEnclaveSecrets.deserialize response = .ok secrets ∧
      calls' = calls ++ [.send (kms.releaseRequest enclave credentialKeyId walletCiphertext
        seedCiphertext)] := by
  obtain ⟨response, _, hsend, h⟩ := EffectM.mapError_bind_eq_ok_iff.mp h
  obtain ⟨hreply, rfl⟩ := send_eq_ok_iff.mp hsend
  split at h
  · obtain ⟨hjson, hcalls⟩ := EffectM.ofExcept_eq_ok_iff.mp h
    exact ⟨response, hreply, Except.mapError_eq_ok_iff.mp hjson, hcalls.symm⟩
  · obtain ⟨_, -, h⟩ := EffectM.ofExcept_bind_eq_ok_iff.mp h
    cases h

end Success

/-! ## Independence of the secrets

With another encryption, and with other secrets of the same lengths that Vault has decrypted, the
broker makes the same calls and fails alike: an encryption fails exactly for messages that are too
long, and no error says what was decrypted.
-/

section Lockstep

open EffectM

/-- Two services that answer alike, but for requests to decrypt: there both may have decrypted, to
plaintexts of one length. -/
def SameLengths (request : String → ServiceRequest)
    (decrypts : Services crates → List BrokerCall → String → Bytes → Prop)
    (services services' : Services crates) : Prop :=
  ∀ calls c, services.reply calls c = services'.reply calls c ∨
    ∃ ciphertext plaintext plaintext', c = .send (request ciphertext) ∧
      decrypts services calls ciphertext plaintext ∧
      decrypts services' calls ciphertext plaintext' ∧ plaintext.length = plaintext'.length

/-- Two services that differ in what Vault decrypts for the engine. -/
def VaultDatakeyEngine.SameLengths (engine : VaultDatakeyEngine) :
    Services crates → Services crates → Prop :=
  DZTA.SameLengths engine.decryptRequest fun services => engine.Decrypts services

/-- Two services that differ in what Vault decrypts for the provider. -/
def VaultTransitProvider.SameLengths (provider : VaultTransitProvider) :
    Services crates → Services crates → Prop :=
  DZTA.SameLengths provider.decryptRequest fun services => provider.Decrypts services

/-- Two services that differ in what Vault decrypts for a release, if the broker has it decrypt. -/
def SecretProvider.SameLengths (kms : SecretProvider) (services services' : Services crates) :
    Prop :=
  match kms with
  | vault provider => provider.SameLengths services services'
  | https _ => services = services'

lemma VaultDatakeyEngine.sameLengths_refl (engine : VaultDatakeyEngine)
    (services : Services crates) : engine.SameLengths services services := fun _ _ => .inl rfl

lemma SecretProvider.sameLengths_refl (kms : SecretProvider) (services : Services crates) :
    kms.SameLengths services services := by
  cases kms with
  | vault provider => exact fun _ _ => .inl rfl
  | https kms => rfl

variable {services} {services' : Services crates} {request : String → ServiceRequest}
  {decrypts : Services crates → List BrokerCall → String → Bytes → Prop}

lemma agreeOn_quiet_of_sameLengths (h : SameLengths request decrypts services services') :
    AgreeOn BrokerCall.IsQuiet services services' := by
  intro c hc calls
  rcases h calls c with heq | ⟨ciphertext, _, _, rfl, -⟩
  · exact heq
  · exact absurd rfl (hc (request ciphertext))

lemma agreeOn_random_of_sameLengths (h : SameLengths request decrypts services services') :
    AgreeOn (· = .random) services services' := by
  rintro _ rfl calls
  rcases h calls .random with heq | ⟨ciphertext, _, _, hsend, -⟩
  · exact heq
  · cases hsend

lemma agreeOn_of_sameLengths_https {kms : HttpsKmsProvider} {P : BrokerCall → Prop}
    (h : (SecretProvider.https kms).SameLengths services services') :
    AgreeOn P services services' := by
  obtain rfl : services = services' := h
  exact fun _ _ _ => rfl

/-- **A decryption**, by code that only sends the request and reads the reply: where the services
answer alike it comes to the same, and else both have decrypted. -/
lemma lockstep_of_sameLengths {x : Services crates → BrokerM BrokerError Bytes}
    {ciphertext : String} (hlengths : SameLengths request decrypts services services')
    (hself : Lockstep (fun _ => True) Eq (x services) (x services))
    (hsame : ∀ calls, services.reply calls (.send (request ciphertext)) =
      services'.reply calls (.send (request ciphertext)) → x services calls = x services' calls)
    (hinj : ∀ ciphertext', request ciphertext = request ciphertext' → ciphertext = ciphertext')
    (hok : ∀ services calls plaintext, decrypts services calls ciphertext plaintext →
      x services calls = (.ok plaintext, calls ++ [.send (request ciphertext)])) :
    Lockstep (fun _ => True) (fun p p' => p.length = p'.length) (x services) (x services') := by
  intro calls
  rcases hlengths calls (.send (request ciphertext)) with
    heq | ⟨ciphertext', plaintext, plaintext', hsend, hplain, hplain', hlength⟩
  · have hself' := hself.mono (fun _ h => h) fun _ _ h => congrArg List.length h
    obtain ⟨new, hnew, hx, -, hresult⟩ := hself' calls
    refine ⟨new, hnew, hx, ?_, ?_⟩ <;> rw [← hsame calls heq]
    · exact hx
    · exact hresult
  · obtain rfl := hinj ciphertext' (BrokerCall.send.inj hsend)
    rw [hok _ _ _ hplain, hok _ _ _ hplain']
    exact ⟨_, fun _ _ => trivial, rfl, rfl, hlength⟩

lemma lockstep_encryptOaep (oaep : Oaep crates.rsa)
    (hagree : AgreeOn (· = .random) services services') (publicKey : crates.rsa.PublicKey)
    {message message' : Bytes} (hlength : message.length = message'.length) :
    Lockstep (fun _ => True) (fun _ _ => True) (encryptOaep services publicKey message)
      (encryptOaep (services'.withOaep oaep) publicKey message') := by
  refine .bind_of_eq (.call trivial (hagree _ rfl)) fun seed => ?_
  refine .bind (R := fun _ _ => True) (.ofExcept ?_) fun _ _ _ => .pure trivial
  have hsome := crates.oaep.isSome_encrypt .sha256 publicKey seed message
  have hsome' := oaep.isSome_encrypt .sha256 publicKey seed message'
  rw [← hlength, ← hsome] at hsome'
  show SameResult _ (Except.okOr _ (crates.oaep.encrypt .sha256 publicKey seed message))
    (Except.okOr _ (oaep.encrypt .sha256 publicKey seed message'))
  cases hc : crates.oaep.encrypt .sha256 publicKey seed message <;>
    cases hc' : oaep.encrypt .sha256 publicKey seed message' <;>
    simp_all [SameResult, Except.okOr]

lemma lockstep_decryptEnvelope (oaep : Oaep crates.rsa) (provider : VaultTransitProvider)
    (hlengths : provider.SameLengths services services')
    (ciphertext : String) :
    Lockstep (fun _ => True) (fun p p' => p.length = p'.length)
      (provider.decryptEnvelope services ciphertext)
      (provider.decryptEnvelope (services'.withOaep oaep) ciphertext) := by
  have hself : Lockstep (fun _ => True) Eq (provider.decryptEnvelope services ciphertext)
      (provider.decryptEnvelope services ciphertext) := by
    refine .bind_of_eq ((lockstep_send crates.oaep fun _ _ _ => rfl).mapError _) fun response => ?_
    refine .bind_of_eq (.same _) fun body => ?_
    refine .bind_of_eq (.same _) fun _ => ?_
    exact .bind_of_eq (.same _) fun plaintext => .same _
  have hsame : ∀ calls, services.reply calls (.send (provider.decryptRequest ciphertext)) =
      services'.reply calls (.send (provider.decryptRequest ciphertext)) →
      provider.decryptEnvelope services ciphertext calls =
        provider.decryptEnvelope services' ciphertext calls :=
    fun calls heq => bind_congr_left (mapError_congr (send_congr heq) _)
  exact lockstep_of_sameLengths hlengths hself hsame
    (fun _ h => by simpa [VaultTransitProvider.decryptRequest] using h)
    fun _ _ _ h => decryptEnvelope_eq_ok_iff.mpr ⟨h, rfl⟩

/-- **A release fails alike** for all ciphertexts and all secrets. -/
lemma lockstep_releaseForVerifiedEnclave (oaep : Oaep crates.rsa) (kms : SecretProvider)
    (hlengths : kms.SameLengths services services') (enclave : VerifiedEnclave)
    (credentialKeyId walletCiphertext seedCiphertext : String) :
    Lockstep (fun _ => True) (fun _ _ => True)
      (kms.releaseForVerifiedEnclave services enclave credentialKeyId walletCiphertext
        seedCiphertext)
      (kms.releaseForVerifiedEnclave (services'.withOaep oaep) enclave credentialKeyId
        walletCiphertext seedCiphertext) := by
  cases kms with
  | vault provider =>
    have hlengths : provider.SameLengths services services' := hlengths
    have hrandom := agreeOn_random_of_sameLengths hlengths
    simp only [SecretProvider.releaseForVerifiedEnclave,
      VaultTransitProvider.releaseForVerifiedEnclave]
    split
    · exact .ofExcept rfl
    · refine .bind (lockstep_decryptEnvelope oaep provider hlengths _) fun _ _ hwallet => ?_
      refine .bind (lockstep_decryptEnvelope oaep provider hlengths _) fun _ _ hseed => ?_
      refine .bind_of_eq (.same _) fun publicKey => ?_
      refine .bind ((lockstep_encryptOaep oaep hrandom publicKey hwallet).mapError _) fun _ _ _ =>
        ?_
      refine .bind ((lockstep_encryptOaep oaep hrandom publicKey hseed).mapError _) fun _ _ _ => ?_
      exact .pure trivial
  | https kms =>
    refine .bind_of_eq ((lockstep_send oaep (agreeOn_of_sameLengths_https hlengths)).mapError _)
      fun response => ?_
    split
    · exact (EffectM.Lockstep.same _).mono (fun _ h => h) fun _ _ _ => trivial
    · refine .bind_of_eq (.same _) fun body => ?_
      exact .ofExcept rfl

lemma SecretProvider.agreeOn_quiet {kms : SecretProvider}
    (hlengths : kms.SameLengths services services') :
    AgreeOn BrokerCall.IsQuiet services services' := by
  cases kms with
  | vault provider =>
    have hlengths : provider.SameLengths services services' := hlengths
    exact agreeOn_quiet_of_sameLengths hlengths
  | https kms => exact agreeOn_of_sameLengths_https hlengths

namespace VaultDatakeyEngine

variable {engine : VaultDatakeyEngine}

lemma lockstep_decrypt (oaep : Oaep crates.rsa) (hlengths : engine.SameLengths services services')
    (ciphertext : String) :
    Lockstep (fun _ => True) (fun p p' => p.length = p'.length)
      (engine.decrypt services ciphertext)
      (engine.decrypt (services'.withOaep oaep) ciphertext) := by
  have hself : Lockstep (fun _ => True) Eq (engine.decrypt services ciphertext)
      (engine.decrypt services ciphertext) := by
    refine .bind_of_eq ((lockstep_send crates.oaep fun _ _ _ => rfl).mapError _) fun response => ?_
    refine .bind_of_eq (.same _) fun body => ?_
    split
    · exact .same _
    · exact .bind_of_eq (.same _) fun plaintext => .same _
  have hsame : ∀ calls, services.reply calls (.send (engine.decryptRequest ciphertext)) =
      services'.reply calls (.send (engine.decryptRequest ciphertext)) →
      engine.decrypt services ciphertext calls = engine.decrypt services' ciphertext calls :=
    fun calls heq => bind_congr_left (mapError_congr (send_congr heq) _)
  exact lockstep_of_sameLengths hlengths hself hsame
    (fun _ h => by simpa [decryptRequest] using h) fun _ _ _ h => decrypt_eq_ok_iff.mpr ⟨h, rfl⟩

lemma lockstep_wrapBytesForEnclave (oaep : Oaep crates.rsa)
    (hagree : AgreeOn (· = .random) services services') {rawBytes rawBytes' : Bytes}
    (hlength : rawBytes.length = rawBytes'.length) (publicKeyPem : String) :
    Lockstep (fun _ => True) (fun _ _ => True)
      (wrapBytesForEnclave services rawBytes publicKeyPem)
      (wrapBytesForEnclave (services'.withOaep oaep) rawBytes' publicKeyPem) := by
  refine .bind_of_eq (.same _) fun publicKey => ?_
  exact (lockstep_encryptOaep oaep hagree publicKey hlength).mapError _

lemma lockstep_unwrapDatakeyForEnclave (oaep : Oaep crates.rsa)
    (hlengths : engine.SameLengths services services') (ciphertext publicKeyPem : String) :
    Lockstep (fun _ => True) (fun _ _ => True)
      (engine.unwrapDatakeyForEnclave services ciphertext publicKeyPem)
      (engine.unwrapDatakeyForEnclave (services'.withOaep oaep) ciphertext publicKeyPem) := by
  refine .bind ((lockstep_decrypt oaep hlengths ciphertext).mapError _) fun _ _ hlength => ?_
  exact lockstep_wrapBytesForEnclave oaep (agreeOn_random_of_sameLengths hlengths) hlength
    publicKeyPem

end VaultDatakeyEngine

end Lockstep

end Providers

end DZTA
