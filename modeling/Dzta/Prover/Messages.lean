import Dzta.Library.Process
import Dzta.Prover.Handshake
import Dzta.Prover.Payload

/-!
# Messages of the enclave

How the payload and the response of the prover travel between the host and the enclave: as JSON, in
which bytes are arrays of numbers and what is absent is `null`.  **What either side writes the other
one reads** (`deserialize_serialize` of each message), and no message is taken for another one
(`attestationRequest_of_response`).
-/

namespace Json

/-- A byte. -/
def asU8? (v : Json) : Option UInt8 :=
  v.asU64?.bind fun n => if n.toNat < 256 then some (UInt8.ofNat n.toNat) else none

/-- The value of a byte. -/
def ofU8 (b : UInt8) : Json := ofU64 (UInt64.ofNat b.toNat)

/-- A vector of bytes. -/
def asBytes? (v : Json) : Option Bytes := v.asArray?.bind fun vs => vs.mapM asU8?

/-- An array of bytes of a fixed length. -/
def asFixedBytes? (n : ℕ) (v : Json) : Option (FixedBytes n) :=
  v.asBytes?.bind fun b => if h : b.length = n then some ⟨b, h⟩ else none

/-- The value of a vector of bytes. -/
def ofBytes (b : Bytes) : Json := arr (b.map ofU8)

/-- The value of an option. -/
def ofOption {α : Type} (write : α → Json) : Option α → Json
  | none => null
  | some a => write a

@[simp] lemma asU8?_ofU8 (b : UInt8) : (ofU8 b).asU8? = some b := by
  have hb : b.toNat < 256 := b.toNat_lt
  have hnat : (UInt64.ofNat b.toNat).toNat = b.toNat :=
    UInt64.toNat_ofNat_of_lt' (hb.trans (by norm_num))
  rw [asU8?, ofU8, asU64?_ofU64, Option.bind_some, hnat, if_pos hb, UInt8.ofNat_toNat]

@[simp] lemma asBytes?_ofBytes (b : Bytes) : (ofBytes b).asBytes? = some b := by
  rw [asBytes?, ofBytes, asArray?, Option.bind_some]
  induction b with
  | nil => rfl
  | cons x xs ih => simp [List.mapM_cons, ih]

@[simp] lemma asFixedBytes?_ofBytes {n : ℕ} (b : FixedBytes n) :
    asFixedBytes? n (ofBytes b.1) = some b := by
  rw [asFixedBytes?, asBytes?_ofBytes, Option.bind_some, dif_pos b.2]

/-- An option is read back if its value is no `null`. -/
lemma optional_ofOption {α : Type} (read : Json → Option α) (write : α → Json)
    (hread : ∀ a, read (write a) = some a) (hnull : ∀ a, write a ≠ null) (o : Option α) :
    optional read (ofOption write o) = some o := by
  cases o with
  | none => rfl
  | some a =>
    have hvalue : optional read (write a) = (read (write a)).map some := by
      unfold optional
      split
      · rename_i h
        exact absurd h (hnull a)
      · rfl
    rw [ofOption, hvalue, hread, Option.map_some]

lemma plainElems_ofU8 (b : Bytes) : PlainElems (b.map ofU8) := by
  induction b with
  | nil => trivial
  | cons x xs ih => exact ⟨plain_ofU64 _, ih⟩

lemma plain_ofBytes (b : Bytes) : (ofBytes b).Plain := plainElems_ofU8 b

lemma depth_ofBytes (b : Bytes) : (ofBytes b).depth ≤ 1 := by
  have helems : depthElems (b.map ofU8) = 0 := by
    induction b with
    | nil => rfl
    | cons x xs ih => simpa [depthElems] using ⟨rfl, ih⟩
  rw [ofBytes, depth, helems]

lemma plain_ofOption {α : Type} (write : α → Json) (h : ∀ a, (write a).Plain) (o : Option α) :
    (ofOption write o).Plain := by
  cases o with
  | none => trivial
  | some a => exact h a

lemma depth_ofOption {α : Type} (write : α → Json) (n : ℕ) (h : ∀ a, (write a).depth ≤ n)
    (o : Option α) : (ofOption write o).depth ≤ n := by
  cases o with
  | none => exact Nat.zero_le n
  | some a => exact h a

end Json

namespace DZTA

open Json

/-! ## The payload

What the host writes of it is what the enclave reads. -/

namespace EnclaveIngestionPayload

/-- The derived `Serialize`. -/
def serialize (payload : EnclaveIngestionPayload) : Json :=
  .obj [("raw_wallet_ciphertext", ofBytes payload.rawWalletCiphertext),
    ("wallet_db_key", ofOption ofBytes payload.walletDbKey),
    ("credential_id", ofOption str payload.credentialId),
    ("required_clearance_level", ofU64 payload.requiredClearanceLevel),
    ("master_seed", ofOption (fun seed => ofBytes seed.1) payload.masterSeed)]

/-- The derived `Deserialize`: what is optional may be missing. -/
def deserialize : Json → Option EnclaveIngestionPayload
  | .obj ms => do
    some ⟨← (← requiredField "raw_wallet_ciphertext" ms).asBytes?,
      ← defaultField "wallet_db_key" none (optional asBytes?) ms,
      ← defaultField "credential_id" none (optional asString?) ms,
      ← (← requiredField "required_clearance_level" ms).asU64?,
      ← defaultField "master_seed" none (optional (asFixedBytes? 32)) ms⟩
  | .arr [rawWalletCiphertext, walletDbKey, credentialId, requiredClearanceLevel, masterSeed] => do
    some ⟨← rawWalletCiphertext.asBytes?, ← optional asBytes? walletDbKey,
      ← optional asString? credentialId, ← requiredClearanceLevel.asU64?,
      ← optional (asFixedBytes? 32) masterSeed⟩
  | _ => none

@[simp] lemma deserialize_serialize (payload : EnclaveIngestionPayload) :
    deserialize payload.serialize = some payload := by
  have hkey := optional_ofOption asBytes? ofBytes asBytes?_ofBytes (fun _ h => by cases h)
    payload.walletDbKey
  have hid := optional_ofOption asString? str asString?_str (fun _ h => by cases h)
    payload.credentialId
  have hseed := optional_ofOption (asFixedBytes? 32) (fun seed => ofBytes seed.1)
    asFixedBytes?_ofBytes (fun _ h => by cases h) payload.masterSeed
  simp [deserialize, serialize, requiredField, defaultField, hkey, hid, hseed]

lemma plain_serialize (payload : EnclaveIngestionPayload) : payload.serialize.Plain := by
  have hkey := plain_ofOption ofBytes plain_ofBytes payload.walletDbKey
  have hid := plain_ofOption str (fun _ => trivial) payload.credentialId
  have hseed := plain_ofOption (fun seed : FixedBytes 32 => ofBytes seed.1)
    (fun seed => plain_ofBytes seed.1) payload.masterSeed
  simp [serialize, plain_ofBytes, plain_ofU64, hkey, hid, hseed]

lemma depth_serialize (payload : EnclaveIngestionPayload) : payload.serialize.depth ≤ 127 := by
  have hraw := depth_ofBytes payload.rawWalletCiphertext
  have hkey := depth_ofOption ofBytes 1 depth_ofBytes payload.walletDbKey
  have hid := depth_ofOption str 0 (fun _ => le_rfl) payload.credentialId
  have hseed := depth_ofOption (fun seed : FixedBytes 32 => ofBytes seed.1) 1
    (fun seed => depth_ofBytes seed.1) payload.masterSeed
  have hlevel : (ofU64 payload.requiredClearanceLevel).depth = 0 := rfl
  simp only [serialize, depth, depthMembers, hlevel]
  omega

/-- The wallet key and the master seed of a payload that has both. -/
def secrets? (payload : EnclaveIngestionPayload) : Option (Bytes × FixedBytes 32) := do
  let walletDbKey ← payload.walletDbKey
  let masterSeed ← payload.masterSeed
  return (walletDbKey, masterSeed)

end EnclaveIngestionPayload

/-! ## The response

What the enclave writes of it is what the host reads. -/

namespace ProverOutputResponse

/-- The derived `Serialize`. -/
def serialize (response : ProverOutputResponse) : Json :=
  .obj [("x_dzta_proof", .str response.xDztaProof),
    ("x_dzta_public_inputs", .str response.xDztaPublicInputs),
    ("sgx_dcap_quote_hex", ofOption str response.sgxDcapQuoteHex)]

/-- The derived `Deserialize`. -/
def deserialize : Json → Option ProverOutputResponse
  | .obj ms => do
    some ⟨← (← requiredField "x_dzta_proof" ms).asString?,
      ← (← requiredField "x_dzta_public_inputs" ms).asString?,
      ← defaultField "sgx_dcap_quote_hex" none (optional asString?) ms⟩
  | .arr [xDztaProof, xDztaPublicInputs, sgxDcapQuoteHex] => do
    some ⟨← xDztaProof.asString?, ← xDztaPublicInputs.asString?,
      ← optional asString? sgxDcapQuoteHex⟩
  | _ => none

@[simp] lemma deserialize_serialize (response : ProverOutputResponse) :
    deserialize response.serialize = some response := by
  have hquote := optional_ofOption asString? str asString?_str (fun _ h => by cases h)
    response.sgxDcapQuoteHex
  simp [deserialize, serialize, requiredField, defaultField, hquote]

lemma plain_serialize (response : ProverOutputResponse) : response.serialize.Plain := by
  have hquote := plain_ofOption str (fun _ => trivial) response.sgxDcapQuoteHex
  simp [serialize, hquote]

lemma depth_serialize (response : ProverOutputResponse) : response.serialize.depth ≤ 127 := by
  have hquote := depth_ofOption str 0 (fun _ => le_rfl) response.sgxDcapQuoteHex
  simp only [serialize, depth, depthMembers]
  omega

end ProverOutputResponse

namespace AttestationResponse

/-- The derived `Serialize`. -/
def serialize (response : AttestationResponse) : Json :=
  .obj [("encrypted_wallet_key", .str response.encryptedWalletKey),
    ("encrypted_master_seed", .str response.encryptedMasterSeed),
    ("key_encryption_algorithm", .str response.keyEncryptionAlgorithm)]

@[simp] lemma deserialize_serialize (response : AttestationResponse) :
    deserialize response.serialize = some response := by
  simp [deserialize, serialize, requiredField]

lemma plain_serialize (response : AttestationResponse) : response.serialize.Plain := by
  simp [serialize]

lemma depth_serialize (response : AttestationResponse) : response.serialize.depth ≤ 127 := by
  simp [serialize]

end AttestationResponse

end DZTA
