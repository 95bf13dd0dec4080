import Dzta.Prover.Handshake

/-!
# Messages of the broker

The requests that the attestation broker decodes and the replies that it sends, and what the host of
an enclave relays in between.

The two sides declare their messages apart, and the requests have drifted.  The broker wants the
public key under another name, and two ciphertexts that the enclave has no way to name, so
**`handshake_messages`**: every request that an enclave emits is rejected, while every reply of the
broker would be understood.
-/

namespace DZTA

open Json

/-! ## Requests

The bodies that the routes expect. -/

/-- `ProvisionDatakeyRequest`: the key that new secrets are made for. -/
structure ProvisionDatakeyRequest where
  enclavePublicKey : String

/-- `UnwrapDatakeyRequest`: a quote for a key and a level, and the ciphertexts that are wanted. -/
structure UnwrapDatakeyRequest where
  quote : String
  enclavePublicKey : String
  requiredClearanceLevel : UInt64
  walletCiphertext : String
  seedCiphertext : String

/-- `ReleaseRequest`: the same, with the id of the key that the ciphertexts are encrypted with. -/
structure ReleaseRequest where
  quote : String
  enclavePublicKey : String
  credentialKeyId : String
  requiredClearanceLevel : UInt64
  walletCiphertext : String
  seedCiphertext : String

/-- The derived `Deserialize`. -/
def ReleaseRequest.deserialize : Json → Option ReleaseRequest
  | .obj ms => do
    some ⟨← (← requiredField "quote" ms).asString?,
      ← (← requiredField "enclave_public_key" ms).asString?,
      ← (← requiredField "credential_key_id" ms).asString?,
      ← (← requiredField "required_clearance_level" ms).asU64?,
      ← (← requiredField "wallet_ciphertext" ms).asString?,
      ← (← requiredField "seed_ciphertext" ms).asString?⟩
  | .arr [quote, enclavePublicKey, credentialKeyId, requiredClearanceLevel, walletCiphertext,
      seedCiphertext] => do
    some ⟨← quote.asString?, ← enclavePublicKey.asString?, ← credentialKeyId.asString?,
      ← requiredClearanceLevel.asU64?, ← walletCiphertext.asString?, ← seedCiphertext.asString?⟩
  | _ => none

/-! ## Replies

The bodies that the routes answer with. -/

/-- `ProvisioningDataKeyResponse`: each secret twice, encrypted by Vault and wrapped for the
enclave. -/
structure ProvisioningDataKeyResponse where
  walletCiphertext : String
  encryptedWalletKeyForEnclave : String
  seedCiphertext : String
  encryptedMasterSeedForEnclave : String
deriving DecidableEq

/-- `UnwrapDatakeyResponse`: both secrets, wrapped for the enclave. -/
structure UnwrapDatakeyResponse where
  encryptedWalletKeyForEnclave : String
  encryptedMasterSeedForEnclave : String
deriving DecidableEq

/-- `WrappedEnclaveSecrets`: both secrets, wrapped for the enclave, with the name of the
algorithm. -/
structure WrappedEnclaveSecrets where
  encryptedWalletKey : String
  encryptedMasterSeed : String
  keyEncryptionAlgorithm : String
deriving DecidableEq

namespace WrappedEnclaveSecrets

/-- The derived `Serialize`. -/
def serialize (secrets : WrappedEnclaveSecrets) : Json :=
  .obj [("encrypted_wallet_key", .str secrets.encryptedWalletKey),
    ("encrypted_master_seed", .str secrets.encryptedMasterSeed),
    ("key_encryption_algorithm", .str secrets.keyEncryptionAlgorithm)]

/-- The derived `Deserialize`. -/
def deserialize : Json → Option WrappedEnclaveSecrets
  | .obj ms => do
    some ⟨← (← requiredField "encrypted_wallet_key" ms).asString?,
      ← (← requiredField "encrypted_master_seed" ms).asString?,
      ← (← requiredField "key_encryption_algorithm" ms).asString?⟩
  | .arr [encryptedWalletKey, encryptedMasterSeed, keyEncryptionAlgorithm] => do
    some ⟨← encryptedWalletKey.asString?, ← encryptedMasterSeed.asString?,
      ← keyEncryptionAlgorithm.asString?⟩
  | _ => none

lemma plain_serialize (secrets : WrappedEnclaveSecrets) : secrets.serialize.Plain := by
  simp [serialize]

lemma depth_serialize (secrets : WrappedEnclaveSecrets) : secrets.serialize.depth ≤ 127 := by
  simp [serialize]

end WrappedEnclaveSecrets

/-! ## What the host relays

The host reads a message on one side and writes it on the other. -/

section Relay

variable (serde : SerdeJson)

/-- What the host posts for the line that the enclave has written. -/
def relayRequest (requestLine : String) : Except String Bytes := do
  let request ← (serde.fromSlice AttestationRequest.deserialize
    (Bytes.utf8 (Rust.trim requestLine))).mapError fun _ =>
      "Enclave did not produce an attestation request"
  return Bytes.utf8 (SerdeJson.toString request.serialize)

/-- What the host makes of the body of a reply. -/
def relayResponse (body : Bytes) : Except String AttestationResponse :=
  (serde.fromSlice AttestationResponse.deserialize body).mapError fun _ =>
    "Invalid attestation broker response"

/-- The text of a request has braces at its ends. -/
lemma trim_request (request : AttestationRequest) :
    Rust.trim (SerdeJson.toString request.serialize ++ "\n") =
      SerdeJson.toString request.serialize := by
  obtain ⟨hhead, hlast⟩ := SerdeJson.toString_obj_ends _ _
  exact Rust.trim_append hhead hlast (by decide) (by decide)
    (List.all_iff_forall_prop.mp (by decide))

/-- **The host posts what the enclave has written.** -/
theorem relayRequest_line (request : AttestationRequest) :
    relayRequest serde (SerdeJson.toString request.serialize ++ "\n") =
      .ok (Bytes.utf8 (SerdeJson.toString request.serialize)) := by
  rw [relayRequest, trim_request, (serde.fromSlice_toString _ request.plain_serialize
    request.depth_serialize request).mpr request.deserialize_serialize]
  rfl

/-- The broker does not find its key in a request of an enclave. -/
lemma deserialize_attestationRequest (request : AttestationRequest) :
    ReleaseRequest.deserialize request.serialize = none := by
  simp [ReleaseRequest.deserialize, AttestationRequest.serialize, requiredField]

lemma release_rejects (request : AttestationRequest) :
    ∃ e, serde.fromSlice ReleaseRequest.deserialize
      (Bytes.utf8 (SerdeJson.toString request.serialize)) = .error e :=
  serde.fromSlice_toString_error request.plain_serialize request.depth_serialize
    (deserialize_attestationRequest request)

lemma relayResponse_serialize (secrets : WrappedEnclaveSecrets) :
    relayResponse serde (Bytes.utf8 (SerdeJson.toString secrets.serialize)) =
      .ok ⟨secrets.encryptedWalletKey, secrets.encryptedMasterSeed,
        secrets.keyEncryptionAlgorithm⟩ := by
  refine Except.mapError_eq_ok_iff.mpr
    ((serde.fromSlice_toString _ secrets.plain_serialize secrets.depth_serialize _).mpr ?_)
  simp [AttestationResponse.deserialize, WrappedEnclaveSecrets.serialize, requiredField]

end Relay

/-- A request reaches the broker with the four values that the enclave has sent. -/
def ReleaseRequest.Matches (received : ReleaseRequest) (request : AttestationRequest) : Prop :=
  received.quote = request.quote ∧ received.enclavePublicKey = request.enclavePublicKeyPem ∧
    received.credentialKeyId = request.credentialKeyId ∧
    received.requiredClearanceLevel = request.requiredClearanceLevel

/-- **Half of a conversation.**  The host posts every request of an enclave as it is, and the broker
rejects it, so none arrives; every reply of the broker is read by the host, with both
ciphertexts. -/
theorem handshake_messages (serde : SerdeJson) (request : AttestationRequest)
    (secrets : WrappedEnclaveSecrets) :
    (∃ body e, relayRequest serde (SerdeJson.toString request.serialize ++ "\n") = .ok body ∧
      serde.fromSlice ReleaseRequest.deserialize body = .error e ∧
      ¬ ∃ received, serde.fromSlice ReleaseRequest.deserialize body = .ok received ∧
        received.Matches request) ∧
    relayResponse serde (Bytes.utf8 (SerdeJson.toString secrets.serialize)) =
      .ok ⟨secrets.encryptedWalletKey, secrets.encryptedMasterSeed,
        secrets.keyEncryptionAlgorithm⟩ := by
  refine ⟨?_, relayResponse_serialize serde secrets⟩
  obtain ⟨e, he⟩ := release_rejects serde request
  refine ⟨_, e, relayRequest_line serde request, he, ?_⟩
  rintro ⟨received, hok, -⟩
  rw [he] at hok
  cases hok

/-- The modulus of the key of an enclave. -/
def enclaveModulus : FixedBytes 256 :=
  ⟨[225, 47, 228, 152, 7, 91, 10, 222, 201, 202, 12, 164, 164, 193, 120, 199, 48, 212, 112,
    200, 60, 47, 15, 83, 124, 214, 20, 53, 131, 55, 145, 194, 74, 30, 38, 52, 152, 214, 213,
    187, 109, 41, 77, 205, 105, 251, 240, 79, 70, 75, 124, 186, 32, 66, 106, 192, 242, 116,
    212, 33, 165, 51, 3, 32, 99, 105, 199, 59, 158, 203, 101, 13, 202, 151, 105, 250, 239, 17,
    99, 198, 113, 181, 113, 155, 94, 57, 253, 240, 40, 197, 238, 190, 159, 177, 47, 179, 77,
    248, 118, 223, 156, 164, 180, 65, 214, 130, 254, 120, 196, 170, 216, 243, 193, 202, 214,
    96, 79, 12, 14, 100, 137, 139, 68, 232, 251, 61, 99, 237, 175, 9, 141, 85, 232, 175, 94,
    236, 180, 131, 166, 83, 142, 88, 144, 118, 34, 69, 150, 117, 4, 76, 7, 137, 33, 224, 111,
    171, 3, 188, 183, 12, 8, 45, 78, 231, 102, 160, 167, 247, 80, 97, 13, 196, 90, 200, 241,
    146, 41, 171, 26, 233, 23, 100, 23, 17, 85, 194, 209, 61, 124, 20, 218, 15, 142, 101, 141,
    103, 160, 172, 221, 186, 11, 60, 241, 105, 214, 210, 8, 41, 89, 212, 189, 25, 109, 230,
    116, 49, 32, 241, 101, 99, 227, 189, 189, 79, 87, 250, 12, 97, 92, 87, 3, 87, 203, 69, 60,
    176, 222, 19, 23, 174, 229, 104, 167, 60, 82, 224, 104, 254, 69, 116, 59, 193, 68, 106,
    199, 189],
    by decide +kernel⟩

/-- **The broker rejects an enclave**: the request of one with the credential `vc-1` and level 3. -/
theorem handshake_messages_drift :
    ¬ ∀ (serde : SerdeJson) (request : AttestationRequest) (secrets : WrappedEnclaveSecrets),
        (∃ body received,
          relayRequest serde (SerdeJson.toString request.serialize ++ "\n") = .ok body ∧
          serde.fromSlice ReleaseRequest.deserialize body = .ok received ∧
          received.Matches request) ∧
        ∃ response, relayResponse serde (Bytes.utf8 (SerdeJson.toString secrets.serialize)) =
            .ok response ∧
          response.encryptedWalletKey = secrets.encryptedWalletKey ∧
          response.encryptedMasterSeed = secrets.encryptedMasterSeed := by
  intro hclaim
  let request : AttestationRequest :=
    ⟨"AwACAAAAAAAJAA4A", Rsa.moduli.publicKeyToPemPkcs1 enclaveModulus, "vc-1", 3⟩
  let secrets : WrappedEnclaveSecrets :=
    ⟨Base64.encode (box .sha256 enclaveModulus (Bytes.utf8 "correct horse")),
      Base64.encode (box .sha256 enclaveModulus (List.replicate 32 7)), "RSA-OAEP-SHA256:vc-1"⟩
  obtain ⟨⟨body, received, hbody, hreceived, -⟩, -⟩ := hclaim .strict request secrets
  obtain ⟨e, he⟩ := release_rejects .strict request
  obtain rfl := Except.ok.inj ((relayRequest_line .strict request).symm.trans hbody)
  rw [he] at hreceived
  cases hreceived

end DZTA
