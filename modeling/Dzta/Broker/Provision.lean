import Dzta.Broker.Release

/-!
# Provisioning and later sessions

A device is provisioned once: Vault makes a wallet key and random bytes for a master seed, and the
device keeps their ciphertexts while the enclave gets both secrets wrapped.  In a later session,
with another key pair, Vault decrypts what the device has kept.

**`provisioned_secrets_agree`**: for a Vault that decrypts what it has encrypted, the two enclaves
have the same wallet key and the same master seed.  The engine also draws a seed of its own and
seals it; that one is dropped.
-/

namespace DZTA

section Provision

variable {crates : Crates} {services : Services crates} {engine : VaultDatakeyEngine}
  {state : AppState}

/-! ## A Vault that decrypts

What Vault has encrypted it decrypts, also later. -/

/-- From some calls on, Vault decrypts a ciphertext to a plaintext. -/
def VaultDatakeyEngine.Seals (services : Services crates) (engine : VaultDatakeyEngine)
    (run : List BrokerCall) (ciphertext : String) (plaintext : Bytes) : Prop :=
  ∀ later, run <+: later → engine.Decrypts services later ciphertext plaintext

/-- A Vault whose decryption inverts its encryption and its making of data keys, also later.  (An
error reply of Vault has no ciphertext.) -/
structure TransitVault (services : Services crates) (engine : VaultDatakeyEngine) : Prop where
  datakey : ∀ calls key ciphertext, engine.MakesDatakey services calls key ciphertext →
    engine.Seals services (calls ++ [.send engine.datakeyRequest]) ciphertext key
  encrypt : ∀ calls payload ciphertext, engine.Encrypts services calls payload ciphertext →
    engine.Seals services (calls ++ [.send (engine.encryptRequest payload)]) ciphertext payload

lemma VaultDatakeyEngine.Seals.mono {run run' : List BrokerCall} {ciphertext : String}
    {plaintext : Bytes} (h : engine.Seals services run ciphertext plaintext) (hrun : run <+: run') :
    engine.Seals services run' ciphertext plaintext :=
  fun later hlater => h later (hrun.trans hlater)

/-! ## What is provisioned

The four texts of a reply are two secrets, each of them in two forms. -/

/-- A text unwraps to a secret under a key pair. -/
def Unwraps (crates : Crates) (keyPair : crates.rsa.PrivateKey) (text : String) (secret : Bytes) :
    Prop :=
  (Base64.decode text).bind (crates.oaep.decrypt .sha256 keyPair) = some secret

/-- What was wrapped for the public key of a pair unwraps under the pair. -/
lemma unwraps_of_wraps {keyPair : crates.rsa.PrivateKey} {publicKeyPem text : String}
    {secret : Bytes}
    (hkey : crates.rsa.fromPublicKeyPem publicKeyPem = .ok (crates.rsa.publicKey keyPair))
    (h : Wraps crates publicKeyPem secret text) : Unwraps crates keyPair text secret := by
  obtain ⟨publicKey, seed, c, hparse, hencrypt, rfl⟩ := h
  obtain rfl := Except.ok.inj (hkey.symm.trans hparse)
  rw [Unwraps, Base64.decode_encode, Option.bind_some]
  exact Oaep.decrypt_encrypt hencrypt

/-- **What the handler provisions**: a wallet key and a master seed, each sealed and wrapped. -/
lemma sealed_of_provisionDatakey (hvault : TransitVault services engine)
    (hengine : state.datakeyEngine = some engine) {request : ProvisionDatakeyRequest}
    {response : ProvisioningDataKeyResponse} {calls calls' : List BrokerCall}
    (h : provisionDatakey services state request calls = (.ok response, calls')) :
    ∃ walletKey masterSeed,
      engine.Seals services calls' response.walletCiphertext walletKey ∧
      Wraps crates request.enclavePublicKey walletKey response.encryptedWalletKeyForEnclave ∧
      engine.Seals services calls' response.seedCiphertext masterSeed ∧
      Wraps crates request.enclavePublicKey masterSeed
        response.encryptedMasterSeedForEnclave := by
  rw [provisionDatakey] at h
  split at h
  · cases h
  · obtain ⟨engine', hengine', h⟩ := EffectM.ofExcept_bind_eq_ok_iff.mp h
    rw [AppState.engine, Except.okOr_eq_ok_iff, hengine] at hengine'
    obtain rfl := Option.some.inj hengine'
    obtain ⟨provision, t, hprovision, h⟩ := EffectM.mapError_bind_eq_ok_iff.mp h
    obtain ⟨walletKey, hmakes, hwraps, hbegin⟩ :=
      VaultDatakeyEngine.makesDatakey_of_provisionDatakey hprovision
    obtain ⟨masterSeed, _, hseed, h⟩ := EffectM.mapError_bind_eq_ok_iff.mp h
    obtain rfl := VaultDatakeyEngine.calls_of_generateVaultRandomSeed hseed
    obtain ⟨seedCiphertext, _, hencrypt, h⟩ := EffectM.mapError_bind_eq_ok_iff.mp h
    obtain ⟨hencrypts, rfl⟩ := VaultDatakeyEngine.encrypts_of_encrypt hencrypt
    obtain ⟨encryptedMasterSeed, _, hwrap, h⟩ := EffectM.mapError_bind_eq_ok_iff.mp h
    obtain ⟨hwraps', rfl⟩ := VaultDatakeyEngine.wraps_of_wrapBytesForEnclave hwrap
    obtain ⟨hresponse, rfl⟩ := Prod.mk.inj h
    obtain rfl := Except.ok.inj hresponse
    refine ⟨walletKey, masterSeed, (hvault.datakey _ _ _ hmakes).mono ?_, hwraps,
      (hvault.encrypt _ _ _ hencrypts).mono (List.prefix_append _ _), hwraps'⟩
    exact ((hbegin.trans (List.prefix_append _ _)).trans (List.prefix_append _ _)).trans
      (List.prefix_append _ _)

/-- A later session recovers a secret from a ciphertext: whatever the broker unwraps for it is that
secret, and the broker does unwrap it if the modulus of the session is as long as the first one. -/
def Recovers (services : Services crates) (engine : VaultDatakeyEngine)
    (publicKey : crates.rsa.PublicKey) (pem' : String) (keyPair' : crates.rsa.PrivateKey)
    (ciphertext : String) (secret : Bytes) (later : List BrokerCall) : Prop :=
  (∀ text later', engine.unwrapDatakeyForEnclave services ciphertext pem' later =
    (.ok text, later') → Unwraps crates keyPair' text secret) ∧
  (crates.rsa.size publicKey ≤ crates.rsa.size (crates.rsa.publicKey keyPair') →
    ∃ text later', engine.unwrapDatakeyForEnclave services ciphertext pem' later =
      (.ok text, later') ∧ Unwraps crates keyPair' text secret)

/-- What is unwrapped later is what was sealed. -/
lemma unwraps_of_unwrapDatakeyForEnclave {run later later' : List BrokerCall} {ciphertext : String}
    {secret : Bytes} (hseals : engine.Seals services run ciphertext secret) (hlater : run <+: later)
    {keyPair' : crates.rsa.PrivateKey} {pem' text : String}
    (hkey' : crates.rsa.fromPublicKeyPem pem' = .ok (crates.rsa.publicKey keyPair'))
    (h : engine.unwrapDatakeyForEnclave services ciphertext pem' later = (.ok text, later')) :
    Unwraps crates keyPair' text secret := by
  obtain ⟨plaintext, hdecrypts, hwrap⟩ :=
    VaultDatakeyEngine.unwrapDatakeyForEnclave_eq_ok_iff.mp h
  obtain rfl := hdecrypts.unique (hseals later hlater)
  exact unwraps_of_wraps hkey' (VaultDatakeyEngine.wraps_of_wrapBytesForEnclave hwrap).1

/-- What is sealed and fits one key is recovered by every later session. -/
lemma recovers_of_seals {run : List BrokerCall} {ciphertext : String} {secret : Bytes}
    (hseals : engine.Seals services run ciphertext secret) {pem pem' text : String}
    {publicKey : crates.rsa.PublicKey} {keyPair' : crates.rsa.PrivateKey}
    (hwraps : Wraps crates pem secret text)
    (hkey : crates.rsa.fromPublicKeyPem pem = .ok publicKey)
    (hkey' : crates.rsa.fromPublicKeyPem pem' = .ok (crates.rsa.publicKey keyPair'))
    {later : List BrokerCall} (hlater : run <+: later) :
    Recovers services engine publicKey pem' keyPair' ciphertext secret later := by
  refine ⟨fun text later' h => unwraps_of_unwrapDatakeyForEnclave hseals hlater hkey' h, ?_⟩
  intro hsize
  obtain ⟨publicKey₁, seed, c, hparse, hencrypt, -⟩ := hwraps
  obtain rfl := Except.ok.inj (hkey.symm.trans hparse)
  obtain ⟨c', hencrypt'⟩ := crates.oaep.exists_encrypt_of_size_le hencrypt hsize
    (services.reply (later ++ [.send (engine.decryptRequest ciphertext)]) .random)
  have hunwrap := VaultDatakeyEngine.unwrapDatakeyForEnclave_eq_ok_iff.mpr
    ⟨secret, hseals later hlater, VaultDatakeyEngine.wrapBytesForEnclave_eq_ok_iff.mpr
      ⟨_, c', hkey', hencrypt', rfl, rfl⟩⟩
  exact ⟨_, _, hunwrap, unwraps_of_unwrapDatakeyForEnclave hseals hlater hkey' hunwrap⟩

/-- **Provisioning and later sessions agree.**  Let the handler answer a request for the public key
of a pair, and let a later session have another key pair.  Whatever Vault has drawn: at any later
time, whatever is unwrapped for the later session from the two ciphertexts of the reply is, under
its key pair, the same wallet key and the same master seed that the first pair recovers from the
reply; and both are unwrapped if the later modulus is as long as the first. -/
theorem provisioned_secrets_agree (hvault : TransitVault services engine)
    (hengine : state.datakeyEngine = some engine) {request : ProvisionDatakeyRequest}
    {response : ProvisioningDataKeyResponse} {calls calls' : List BrokerCall}
    (hprovision : provisionDatakey services state request calls = (.ok response, calls'))
    {keyPair keyPair' : crates.rsa.PrivateKey} {pem' : String}
    (hkey : crates.rsa.fromPublicKeyPem request.enclavePublicKey =
      .ok (crates.rsa.publicKey keyPair))
    (hkey' : crates.rsa.fromPublicKeyPem pem' = .ok (crates.rsa.publicKey keyPair')) :
    ∃ walletKey masterSeed,
      Unwraps crates keyPair response.encryptedWalletKeyForEnclave walletKey ∧
      Unwraps crates keyPair response.encryptedMasterSeedForEnclave masterSeed ∧
      ∀ later, calls' <+: later →
        Recovers services engine (crates.rsa.publicKey keyPair) pem' keyPair'
          response.walletCiphertext walletKey later ∧
        Recovers services engine (crates.rsa.publicKey keyPair) pem' keyPair'
          response.seedCiphertext masterSeed later := by
  obtain ⟨walletKey, masterSeed, hseals, hwraps, hseals', hwraps'⟩ :=
    sealed_of_provisionDatakey hvault hengine hprovision
  refine ⟨walletKey, masterSeed, unwraps_of_wraps hkey hwraps, unwraps_of_wraps hkey hwraps', ?_⟩
  intro later hlater
  exact ⟨recovers_of_seals hseals hwraps hkey hkey' hlater,
    recovers_of_seals hseals' hwraps' hkey hkey' hlater⟩

end Provision

/-! ### A Vault that seals by a prefix

Random bytes depend on the calls before, and a ciphertext is the plaintext behind a mark. -/

/-- The data of a reply of Vault. -/
def vaultData (ms : List (String × Json)) : Json := .obj [("data", .obj ms)]

/-- What the prefix Vault answers to the body of a request, with bytes that it may draw. -/
def prefixVaultAnswer (fresh : Bytes) : Option Json → Json
  | none =>
    vaultData [("plaintext", .str (Base64.encode fresh)),
      ("ciphertext", .str ("vault:v1:" ++ Base64.encode fresh))]
  | some (.obj [("plaintext", .str plaintext)]) =>
    vaultData [("ciphertext", .str ("vault:v1:" ++ plaintext))]
  | some (.obj [("ciphertext", .str ciphertext)]) =>
    vaultData [("plaintext", .str (String.ofList (ciphertext.toList.drop 9)))]
  | some _ => vaultData [("random_bytes", .str (Base64.encode fresh))]

/-- A Vault whose ciphertexts are its plaintexts behind a prefix, and which draws other bytes every
time. -/
def prefixVault : Services referenceCrates :=
  referenceServices fun calls request =>
    .ok (jsonReply (prefixVaultAnswer (freshBytes calls).1 request.body))

/-- The engine on this machine. -/
def referenceEngine : VaultDatakeyEngine := ⟨"http://127.0.0.1:8200", "token", "dzta"⟩

/-- The modulus of another enclave. -/
def laterModulus : FixedBytes 256 :=
  ⟨[187, 184, 108, 42, 8, 151, 158, 176, 27, 212, 90, 76, 17, 188, 11, 1, 57, 84, 61, 247, 18,
    187, 201, 159, 251, 198, 167, 79, 241, 33, 205, 151, 12, 188, 231, 89, 109, 55, 136, 24,
    64, 48, 181, 194, 158, 44, 134, 195, 188, 40, 114, 28, 239, 150, 247, 21, 130, 242, 80,
    19, 72, 143, 198, 65, 40, 200, 172, 215, 62, 31, 212, 5, 82, 116, 244, 61, 146, 221, 240,
    117, 226, 68, 187, 61, 176, 130, 108, 131, 43, 45, 153, 127, 206, 165, 183, 109, 140, 212,
    241, 150, 55, 28, 183, 18, 109, 80, 186, 93, 189, 7, 188, 122, 28, 58, 95, 123, 39, 221,
    238, 92, 219, 88, 79, 79, 103, 130, 82, 148, 143, 5, 78, 74, 98, 211, 110, 158, 243, 187,
    92, 241, 67, 226, 201, 79, 138, 112, 231, 195, 209, 237, 72, 126, 71, 144, 78, 224, 115,
    78, 154, 71, 163, 235, 162, 238, 56, 252, 148, 95, 247, 162, 103, 64, 103, 128, 246, 202,
    123, 156, 44, 114, 1, 10, 211, 16, 21, 54, 9, 199, 180, 111, 175, 209, 134, 170, 89, 185,
    9, 39, 41, 17, 188, 157, 202, 209, 166, 192, 59, 159, 134, 206, 243, 31, 239, 72, 254, 3,
    19, 7, 173, 35, 15, 58, 6, 180, 14, 186, 110, 104, 144, 249, 172, 125, 134, 32, 15, 33,
    104, 12, 198, 189, 14, 59, 89, 68, 123, 117, 169, 219, 139, 19, 113, 95, 194, 81, 187, 215],
    by decide +kernel⟩

/-- A document without numbers and with few levels is read back from a reply. -/
lemma json_jsonReply_inj {α : Type} {deserialize : Json → Option α} {v : Json} (hplain : v.Plain)
    (hdepth : v.depth ≤ 127) {a : α}
    (h : referenceCrates.json deserialize (jsonReply v) = .ok a) : deserialize v = some a :=
  (referenceCrates.serde.fromSlice_toString deserialize hplain hdepth a).mp
    (Except.mapError_eq_ok_iff.mp h)

lemma decrypts_prefixVault (calls : List BrokerCall) {text : String} {plaintext : Bytes}
    (h : Base64.decode text = some plaintext) :
    referenceEngine.Decrypts prefixVault calls ("vault:v1:" ++ text) plaintext := by
  have hstrip : String.ofList (("vault:v1:" ++ text).toList.drop 9) = text := by
    rw [String.toList_append, List.drop_left' (show "vault:v1:".toList.length = 9 from rfl),
      String.ofList_toList]
  have hanswer : prefixVaultAnswer (freshBytes calls).1
      (referenceEngine.decryptRequest ("vault:v1:" ++ text)).body =
        vaultData [("plaintext", .str text)] := by
    rw [VaultDatakeyEngine.decryptRequest, prefixVaultAnswer, hstrip]
  refine ⟨jsonReply (vaultData [("plaintext", .str text)]), _, text,
    congrArg (fun v => Except.ok (jsonReply v)) hanswer,
    json_jsonReply referenceCrates ?_ ?_ rfl, rfl, rfl, h⟩
  · simp [vaultData]
  · simp [vaultData]

lemma transitVault_prefixVault : TransitVault prefixVault referenceEngine where
  datakey := by
    rintro calls key ciphertext ⟨response, resp, hreply, -, hjson, hdecode, rfl⟩ later -
    obtain rfl := Except.ok.inj hreply
    have hresp := json_jsonReply_inj (by simp [prefixVaultAnswer, vaultData,
      VaultDatakeyEngine.datakeyRequest]) (by simp [prefixVaultAnswer, vaultData,
      VaultDatakeyEngine.datakeyRequest]) hjson
    obtain rfl := Option.some.inj hresp
    exact decrypts_prefixVault later hdecode
  encrypt := by
    rintro calls payload ciphertext ⟨response, body, hreply, hjson, htext⟩ later -
    obtain rfl := Except.ok.inj hreply
    have hbody := json_jsonReply_inj (by simp [prefixVaultAnswer, vaultData,
      VaultDatakeyEngine.encryptRequest]) (by simp [prefixVaultAnswer, vaultData,
      VaultDatakeyEngine.encryptRequest]) hjson
    obtain rfl := Option.some.inj hbody
    obtain rfl := Option.some.inj htext
    exact decrypts_prefixVault later (Base64.decode_encode payload)

/-- The broker on this machine. -/
def referenceState : AppState :=
  ⟨referenceConfig, .https ⟨"https://kms.example/release", none⟩, some referenceEngine⟩

section Run

open VaultDatakeyEngine

lemma exists_wrapBytesForEnclave (secret : FixedBytes 32) (modulus : FixedBytes 256)
    (calls : List BrokerCall) :
    ∃ text, wrapBytesForEnclave prefixVault secret.1 (spkiPem modulus) calls =
      (.ok text, calls ++ [.random]) := by
  have hfits : secret.1.length + 2 * 32 + 2 ≤ 256 := by
    rw [secret.2]
    norm_num
  obtain ⟨c, hc⟩ := Option.isSome_iff_exists.mp ((Oaep.boxes.isSome_encrypt .sha256 modulus
    (prefixVault.reply calls .random) secret.1).mpr hfits)
  exact ⟨Base64.encode c, wrapBytesForEnclave_eq_ok_iff.mpr
    ⟨modulus, c, fromPublicKeyPem_spkiPem modulus, hc, rfl, rfl⟩⟩

lemma generateVaultRandomSeed_prefixVault (calls : List BrokerCall) :
    referenceEngine.generateVaultRandomSeed prefixVault calls =
      (.ok (freshBytes calls).1, calls ++ [.send referenceEngine.randomRequest]) := by
  have hjson : referenceCrates.json VaultSeedResponse.deserialize
      (jsonReply (prefixVaultAnswer (freshBytes calls).1 referenceEngine.randomRequest.body)) =
        .ok ⟨Base64.encode (freshBytes calls).1, []⟩ := by
    refine json_jsonReply referenceCrates ?_ ?_ rfl
    · simp [prefixVaultAnswer, vaultData, VaultDatakeyEngine.randomRequest]
    · simp [prefixVaultAnswer, vaultData, VaultDatakeyEngine.randomRequest]
  refine EffectM.mapError_bind_eq_ok_iff.mpr ⟨_, _, send_eq_ok_iff.mpr ⟨rfl, rfl⟩, ?_⟩
  refine EffectM.ofExcept_bind_eq_ok_iff.mpr ⟨_, Except.mapError_eq_ok_iff.mpr hjson, ?_⟩
  refine EffectM.ofExcept_bind_eq_ok_iff.mpr ⟨(), rfl, ?_⟩
  exact EffectM.ofExcept_eq_ok_iff.mpr ⟨Except.mapError_eq_ok_iff.mpr
    (Crates.base64Decode_eq_ok_iff.mpr (Base64.decode_encode _)), rfl⟩

lemma exists_encrypt_prefixVault (payload : Bytes) (calls : List BrokerCall) :
    ∃ ciphertext t, referenceEngine.encrypt prefixVault payload calls = (.ok ciphertext, t) := by
  refine ⟨"vault:v1:" ++ Base64.encode payload, _, EffectM.mapError_bind_eq_ok_iff.mpr
    ⟨_, _, send_eq_ok_iff.mpr ⟨rfl, rfl⟩, EffectM.ofExcept_bind_eq_ok_iff.mpr
      ⟨vaultData [("ciphertext", .str ("vault:v1:" ++ Base64.encode payload))],
        Except.mapError_eq_ok_iff.mpr (json_jsonReply referenceCrates ?_ ?_ rfl), rfl⟩⟩⟩
  · simp [prefixVaultAnswer, vaultData, VaultDatakeyEngine.encryptRequest]
  · simp [prefixVaultAnswer, vaultData, VaultDatakeyEngine.encryptRequest]

lemma exists_provisionDatakey_engine (modulus : FixedBytes 256) (calls : List BrokerCall) :
    ∃ provision t, referenceEngine.provisionDatakey prefixVault (spkiPem modulus) calls =
      (.ok provision, t) := by
  have hdatakey : referenceCrates.json VaultDatakeyResponse.deserialize
      (jsonReply (prefixVaultAnswer (freshBytes calls).1 referenceEngine.datakeyRequest.body)) =
        .ok ⟨Base64.encode (freshBytes calls).1,
          "vault:v1:" ++ Base64.encode (freshBytes calls).1, []⟩ := by
    refine json_jsonReply referenceCrates ?_ ?_ rfl
    · simp [prefixVaultAnswer, vaultData, VaultDatakeyEngine.datakeyRequest]
    · simp [prefixVaultAnswer, vaultData, VaultDatakeyEngine.datakeyRequest]
  obtain ⟨text, htext⟩ := exists_wrapBytesForEnclave (freshBytes calls) modulus
    (calls ++ [.send referenceEngine.datakeyRequest])
  let wrapped := calls ++ [.send referenceEngine.datakeyRequest] ++ [.random]
  have hseed := generateVaultRandomSeed_prefixVault wrapped
  obtain ⟨ciphertext, t, hencrypt⟩ := exists_encrypt_prefixVault (freshBytes wrapped).1
    (wrapped ++ [.send referenceEngine.randomRequest])
  obtain ⟨text', htext'⟩ := exists_wrapBytesForEnclave (freshBytes wrapped) modulus t
  refine ⟨⟨"vault:v1:" ++ Base64.encode (freshBytes calls).1, text, ciphertext, text'⟩,
    t ++ [.random], ?_⟩
  refine EffectM.mapError_bind_eq_ok_iff.mpr ⟨_, _, send_eq_ok_iff.mpr ⟨rfl, rfl⟩, ?_⟩
  refine EffectM.ofExcept_bind_eq_ok_iff.mpr ⟨_, Except.mapError_eq_ok_iff.mpr hdatakey, ?_⟩
  refine EffectM.ofExcept_bind_eq_ok_iff.mpr ⟨(), rfl, ?_⟩
  refine EffectM.ofExcept_bind_eq_ok_iff.mpr ⟨_, Except.mapError_eq_ok_iff.mpr
    (Crates.base64Decode_eq_ok_iff.mpr (Base64.decode_encode (freshBytes calls).1)), ?_⟩
  refine EffectM.bind_eq_ok_iff.mpr ⟨text, _, htext, ?_⟩
  refine EffectM.bind_eq_ok_iff.mpr ⟨_, _, hseed, ?_⟩
  refine EffectM.bind_eq_ok_iff.mpr ⟨ciphertext, t, hencrypt, ?_⟩
  exact EffectM.bind_eq_ok_iff.mpr ⟨text', _, htext', rfl⟩

lemma exists_provisionDatakey (modulus : FixedBytes 256)
    (hkey : Rust.trim (spkiPem modulus) ≠ "") :
    ∃ response calls', provisionDatakey prefixVault referenceState ⟨spkiPem modulus⟩ [] =
      (.ok response, calls') := by
  obtain ⟨provision, t, hprovision⟩ := exists_provisionDatakey_engine modulus []
  obtain ⟨ciphertext, t', hencrypt⟩ := exists_encrypt_prefixVault (freshBytes t).1
    (t ++ [.send referenceEngine.randomRequest])
  obtain ⟨text, htext⟩ := exists_wrapBytesForEnclave (freshBytes t) modulus t'
  refine ⟨⟨provision.walletCiphertext, provision.encryptedWalletKeyForEnclave, ciphertext, text⟩,
    t' ++ [.random], ?_⟩
  rw [provisionDatakey, if_neg hkey]
  refine EffectM.ofExcept_bind_eq_ok_iff.mpr ⟨referenceEngine, rfl, ?_⟩
  refine EffectM.mapError_bind_eq_ok_iff.mpr ⟨provision, t, hprovision, ?_⟩
  refine EffectM.mapError_bind_eq_ok_iff.mpr
    ⟨_, _, generateVaultRandomSeed_prefixVault t, ?_⟩
  refine EffectM.mapError_bind_eq_ok_iff.mpr ⟨ciphertext, t', hencrypt, ?_⟩
  exact EffectM.mapError_bind_eq_ok_iff.mpr ⟨text, _, htext, rfl⟩

lemma trim_spkiPem_ne_empty (modulus : FixedBytes 256) : Rust.trim (spkiPem modulus) ≠ "" := by
  rw [Ne, Rust.trim_eq_empty_iff]
  intro hblank
  exact absurd (hblank '-' (by simp [spkiPem, pemText])) (by decide)

/-- A device is provisioned for one enclave, and another one with another key gets the same two
secrets. -/
theorem provisioned_secrets_agree_reference : ∃ response calls',
    provisionDatakey prefixVault referenceState ⟨spkiPem enclaveModulus⟩ [] =
      (.ok response, calls') ∧
    ∃ walletKey masterSeed,
      Unwraps referenceCrates enclaveModulus response.encryptedWalletKeyForEnclave walletKey ∧
      Unwraps referenceCrates enclaveModulus response.encryptedMasterSeedForEnclave masterSeed ∧
      (∃ text later', referenceEngine.unwrapDatakeyForEnclave prefixVault
        response.walletCiphertext (spkiPem laterModulus) calls' = (.ok text, later') ∧
          Unwraps referenceCrates laterModulus text walletKey) ∧
      ∃ text later', referenceEngine.unwrapDatakeyForEnclave prefixVault
        response.seedCiphertext (spkiPem laterModulus) calls' = (.ok text, later') ∧
          Unwraps referenceCrates laterModulus text masterSeed := by
  obtain ⟨response, calls', hprovision⟩ :=
    exists_provisionDatakey enclaveModulus (trim_spkiPem_ne_empty enclaveModulus)
  obtain ⟨walletKey, masterSeed, hwallet, hseed, hlater⟩ :=
    provisioned_secrets_agree transitVault_prefixVault rfl hprovision
      (fromPublicKeyPem_spkiPem enclaveModulus) (fromPublicKeyPem_spkiPem laterModulus)
  obtain ⟨⟨-, hfirst⟩, -, hsecond⟩ := hlater calls' List.prefix_rfl
  exact ⟨response, calls', hprovision, walletKey, masterSeed, hwallet, hseed, hfirst le_rfl,
    hsecond le_rfl⟩

end Run

end DZTA
