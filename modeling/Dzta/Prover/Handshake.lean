import Dzta.Library.Rsa
import Dzta.Library.Rust
import Dzta.Library.SerdeJson

/-!
# The handshake of the enclave

An enclave that was not handed the wallet key and the master seed asks for them.  It makes a key
pair, writes the hash of the public key and the required level to the attestation device, and emits
the quote with what the hash was made of (`AttestationRequest`).  The host relays the request to the
broker and the reply to the enclave (`AttestationResponse`), which decrypts both secrets with its
private key.

The report data that a session is bound to is 64 bytes, of which the hash is the first half.
-/

namespace DZTA

open Json

/-! ## Messages

What goes to the broker and what is expected back. -/

/-- `AttestationRequest`: what the enclave asks a broker with. -/
structure AttestationRequest where
  quote : String
  enclavePublicKeyPem : String
  credentialKeyId : String
  requiredClearanceLevel : UInt64
deriving DecidableEq

namespace AttestationRequest

/-- The derived `Serialize`. -/
def serialize (request : AttestationRequest) : Json :=
  .obj [("quote", .str request.quote),
    ("enclave_public_key_pem", .str request.enclavePublicKeyPem),
    ("credential_key_id", .str request.credentialKeyId),
    ("required_clearance_level", .ofU64 request.requiredClearanceLevel)]

/-- The derived `Deserialize`. -/
def deserialize : Json → Option AttestationRequest
  | .obj ms => do
    some ⟨← (← requiredField "quote" ms).asString?,
      ← (← requiredField "enclave_public_key_pem" ms).asString?,
      ← (← requiredField "credential_key_id" ms).asString?,
      ← (← requiredField "required_clearance_level" ms).asU64?⟩
  | .arr [quote, enclavePublicKeyPem, credentialKeyId, requiredClearanceLevel] => do
    some ⟨← quote.asString?, ← enclavePublicKeyPem.asString?, ← credentialKeyId.asString?,
      ← requiredClearanceLevel.asU64?⟩
  | _ => none

@[simp] lemma deserialize_serialize (request : AttestationRequest) :
    deserialize request.serialize = some request := by
  simp [deserialize, serialize, requiredField]

lemma plain_serialize (request : AttestationRequest) : request.serialize.Plain := by
  simp [serialize]

lemma depth_serialize (request : AttestationRequest) : request.serialize.depth ≤ 127 := by
  simp [serialize]

end AttestationRequest

/-- `AttestationResponse`: what the enclave expects from a broker. -/
structure AttestationResponse where
  encryptedWalletKey : String
  encryptedMasterSeed : String
  keyEncryptionAlgorithm : String
deriving DecidableEq

namespace AttestationResponse

/-- The derived `Deserialize`. -/
def deserialize : Json → Option AttestationResponse
  | .obj ms => do
    some ⟨← (← requiredField "encrypted_wallet_key" ms).asString?,
      ← (← requiredField "encrypted_master_seed" ms).asString?,
      ← (← requiredField "key_encryption_algorithm" ms).asString?⟩
  | .arr [encryptedWalletKey, encryptedMasterSeed, keyEncryptionAlgorithm] => do
    some ⟨← encryptedWalletKey.asString?, ← encryptedMasterSeed.asString?,
      ← keyEncryptionAlgorithm.asString?⟩
  | _ => none

end AttestationResponse

/-! ## The attestation device

Report data are a digest, and both uses of the device share a tag. -/

namespace GramineAttestationDriver

/-- `bind_user_report_data`: what is written to the device, the first 64 bytes or all of them and
zeros. -/
def bindUserReportData (data : Bytes) : FixedBytes 64 :=
  ⟨data.take 64 ++ List.replicate (64 - data.length) 0, by
    simp only [List.length_append, List.length_take, List.length_replicate]
    omega⟩

/-- The tag that both uses of the device share. -/
def sessionTag : Bytes := Bytes.utf8 "dZTA_SGX_SESSION_v1"

/-- `bind_session`: the report data for a session, a digest behind the tag. -/
def bindSession (digest : Bytes → FixedBytes 32) (data : Bytes) : FixedBytes 64 :=
  bindUserReportData (digest (sessionTag ++ data)).1

/-- The hash is the first half of the report data. -/
@[simp] lemma take_bindSession (digest : Bytes → FixedBytes 32) (data : Bytes) :
    (bindSession digest data).1.take 32 = (digest (sessionTag ++ data)).1 := by
  have hlength := (digest (sessionTag ++ data)).2
  show ((digest (sessionTag ++ data)).1.take 64 ++ List.replicate _ 0).take 32 = _
  rw [List.take_of_length_le (hlength.trans_le (by norm_num)), List.take_left' hlength]

end GramineAttestationDriver

/-! ## The enclave

A key pair is made, and the quote is bound to its public half and the level. -/

/-- The bytes that a session is bound to: a public key as text and a level in eight bytes, most
significant first. -/
def sessionBinding (publicKeyPem : Bytes) (requiredClearanceLevel : UInt64) : Bytes :=
  publicKeyPem ++ Bytes.beBytes 8 requiredClearanceLevel.toNat

/-- **Sessions are told apart by their bytes**, whatever the length of the key. -/
theorem sessionBinding_inj {key key' : Bytes} {level level' : UInt64} :
    sessionBinding key level = sessionBinding key' level' ↔ key = key' ∧ level = level' := by
  have hlt : ∀ n : UInt64, n.toNat < 256 ^ 8 := fun n => n.toNat_lt
  constructor
  · intro h
    obtain ⟨hkey, hlevel⟩ := List.append_inj' h (by simp)
    exact ⟨hkey, UInt64.toNat_inj.mp ((Bytes.beBytes_inj (hlt level) (hlt level')).mp hlevel)⟩
  · rintro ⟨rfl, rfl⟩
    rfl

section Handshake

variable {rsa : Rsa} (oaep : Oaep rsa) (digest : Bytes → FixedBytes 32)

/-- The request of an enclave with a key pair; the device hands out a quote over report data where
there is a device. -/
def handshake (fetchSgxQuote : FixedBytes 64 → Except String (Option Bytes))
    (keyPair : rsa.PrivateKey) (credentialId : Option String) (requiredClearanceLevel : UInt64) :
    Except String AttestationRequest := do
  let publicKeyPem := rsa.publicKeyToPemPkcs1 (rsa.publicKey keyPair)
  let reportData := GramineAttestationDriver.bindSession digest
    (sessionBinding (Bytes.utf8 publicKeyPem) requiredClearanceLevel)
  let quote ← Except.okOr "SGX quote unavailable for confidential handshake"
    (← fetchSgxQuote reportData)
  let credentialKeyId ← Except.okOr "credential_id required" credentialId
  return ⟨Base64.encode quote, publicKeyPem, credentialKeyId, requiredClearanceLevel⟩

/-- The closure `decrypt`, whose padding is `PKCS1_OAEP` with the default digest. -/
def decryptSecret (keyPair : rsa.PrivateKey) (encoded : String) : Except String Bytes := do
  let ciphertext ← Except.okOr "invalid base64" (Base64.decode encoded)
  Except.okOr "oaep decoding error" (oaep.decrypt .sha1 keyPair ciphertext)

/-- What the enclave takes from the reply: the wallet key and the master seed. -/
def openSecrets (keyPair : rsa.PrivateKey) (response : AttestationResponse) :
    Except String (Bytes × FixedBytes 32) := do
  let walletDbKey ← decryptSecret oaep keyPair response.encryptedWalletKey
  let seed ← decryptSecret oaep keyPair response.encryptedMasterSeed
  if h : seed.length = 32 then return (walletDbKey, ⟨seed, h⟩)
  else .error "master seed must be 32 bytes"

end Handshake

end DZTA
