import Dzta.Wallet.Record
import Mathlib.Data.List.AList

/-!
# The wallet

The holder's store of credentials.  An open wallet is a store of entries by category and name with
the passphrase it was opened with; a credential is stored as its encrypted text, under tags that are
not encrypted, and read back by decrypting and parsing.  Entries are inserted under new names; only
a revocation writes an entry back, with the value it has just read.

Any operation of the store may fail for reasons of its own; what one call of the wallet meets is a
parameter (`AskarHost`).
-/

namespace DZTA

open Json

/-! ## The store

Entries under a category and a name, behind a host that can fail. -/

/-- An entry of the store with its plaintext tags. -/
structure AskarEntry where
  value : Bytes
  tags : List (String × String)
deriving DecidableEq

/-- The entries by category and name. -/
abbrev Askar := AList fun _ : String × String => AskarEntry

/-- What one call meets: the text of an error that is no fault of the arguments, if there is one,
and the text for an entry that is there already. -/
structure AskarHost where
  fault : Option String
  duplicate : String

namespace Askar

/-- `session.fetch`: the entry of a category under a name. -/
def fetch (host : AskarHost) (askar : Askar) (category name : String) :
    WalletResult (Option AskarEntry) :=
  match host.fault with
  | some e => .error (.storageError e)
  | none => .ok (askar.lookup (category, name))

/-- `session.insert` and the commit. -/
def insert (host : AskarHost) (askar : Askar) (category name : String) (entry : AskarEntry) :
    WalletResult Askar :=
  match host.fault with
  | some e => .error (.storageError e)
  | none =>
    if (category, name) ∈ askar then .error (.storageError host.duplicate)
    else .ok (AList.insert (category, name) entry askar)

/-- `session.replace` and the commit; `missing` is the text for an entry that is not there. -/
def replace (host : AskarHost) (missing : String) (askar : Askar) (category name : String)
    (entry : AskarEntry) : WalletResult Askar :=
  match host.fault with
  | some e => .error (.storageError e)
  | none =>
    if (category, name) ∈ askar then .ok (AList.insert (category, name) entry askar)
    else .error (.storageError missing)

lemma insert_eq_ok {host : AskarHost} {askar askar' : Askar} {category name : String}
    {entry : AskarEntry} (h : insert host askar category name entry = .ok askar') :
    (category, name) ∉ askar ∧ askar' = AList.insert (category, name) entry askar := by
  rw [insert] at h
  split at h
  · cases h
  · split at h
    · cases h
    · rename_i hnew
      exact ⟨hnew, (Except.ok.inj h).symm⟩

lemma replace_eq_ok {host : AskarHost} {missing : String} {askar askar' : Askar}
    {category name : String} {entry : AskarEntry}
    (h : replace host missing askar category name entry = .ok askar') :
    askar' = AList.insert (category, name) entry askar := by
  rw [replace] at h
  split at h
  · cases h
  · split at h
    · exact (Except.ok.inj h).symm
    · cases h

end Askar

/-! ## The wallet

What the wallet does with its store. -/

/-- `Wallet`: the open store and the passphrase it was opened with. -/
structure Wallet where
  askarStore : Option Askar
  askarPassphrase : Option String

namespace Wallet

/-- `store`: the opened store of the wallet. -/
def store (wallet : Wallet) : WalletResult Askar :=
  Except.okOr (.storageError "Askar store not initialized") wallet.askarStore

/-- `get_askar_passphrase`: the passphrase that the store was opened with. -/
def getAskarPassphrase (wallet : Wallet) : WalletResult Bytes :=
  Except.okOr (.storageError "Askar store passphrase not cached")
    (wallet.askarPassphrase.map Bytes.utf8)

/-- The entry of a category under a name. -/
def entryAt (wallet : Wallet) (category name : String) : Option AskarEntry :=
  wallet.askarStore.bind fun askar => askar.lookup (category, name)

/-- The entry of a credential. -/
def credentialEntry (wallet : Wallet) (host : AskarHost) (credentialId : String) :
    WalletResult AskarEntry := do
  let askar ← wallet.store
  let entry ← askar.fetch host "credentials" credentialId
  Except.okOr (.credentialNotFound credentialId) entry

/-- `fetch_raw_encrypted_record`: the value of the entry as it stands, which is the encrypted
record. -/
def fetchRawEncryptedRecord (wallet : Wallet) (host : AskarHost) (credentialId : String) :
    WalletResult Bytes := do
  let entry ← wallet.credentialEntry host credentialId
  return entry.value

/-- `get_or_create_zkp_secret_seed`, with what the random generator returned: the seed, and the
wallet with it. -/
def getOrCreateZkpSecretSeed (wallet : Wallet) (fetchHost insertHost : AskarHost)
    (random : Except String (FixedBytes 32)) : WalletResult (Wallet × Bytes) := do
  let askar ← wallet.store
  match ← askar.fetch fetchHost "keys" "master_zkp_seed" with
  | some entry => return (wallet, entry.value)
  | none => do
    let seed ← random.mapError fun e => .storageError ("RNG generation failed: " ++ e)
    let askar ← askar.insert insertHost "keys" "master_zkp_seed" ⟨seed.val, []⟩
    return ({ wallet with askarStore := some askar }, seed.val)

/-- The payload of a pair of ciphertexts. -/
def vaultPayload (now : DateTime) (credentialId walletKeyCiphertext masterSeedCiphertext : String) :
    Json :=
  .obj [("credential_id", .str credentialId), ("wallet_key_ciphertext", .str walletKeyCiphertext),
    ("master_seed_ciphertext", .str masterSeedCiphertext), ("created_at", ofI64 now.seconds)]

/-- `store_enclave_vault_ciphertexts`: the ciphertexts of both secrets are kept as one entry. -/
def storeEnclaveVaultCiphertexts (wallet : Wallet) (host : AskarHost) (now : DateTime)
    (credentialId walletKeyCiphertext masterSeedCiphertext : String) : WalletResult Wallet := do
  let askar ← wallet.store
  let recordPayload := vaultPayload now credentialId walletKeyCiphertext masterSeedCiphertext
  let askar ← askar.insert host "enclave_secrets" credentialId
    ⟨Bytes.utf8 (SerdeJson.toString recordPayload), []⟩
  return { wallet with askarStore := some askar }

/-- `fetch_enclave_vault_ciphertexts`: the ciphertexts of both secrets. -/
def fetchEnclaveVaultCiphertexts (serde : SerdeJson) (wallet : Wallet) (host : AskarHost)
    (credentialId : String) : WalletResult (String × String) := do
  let askar ← wallet.store
  let entry ← askar.fetch host "enclave_secrets" credentialId
  let entry ← Except.okOr
    (.storageError ("No enclave secrets found for credential: " ++ credentialId)) entry
  let val ← (serde.value entry.value).mapError .serializationError
  let walletKeyCiphertext ← Except.okOr
    (.storageError "Invalid wallet_key_ciphertext in Askar")
    (val.index "wallet_key_ciphertext").asString?
  let masterSeedCiphertext ← Except.okOr
    (.storageError "Invalid master_seed_ciphertext in Askar")
    (val.index "master_seed_ciphertext").asString?
  return (walletKeyCiphertext, masterSeedCiphertext)

/-- `mark_credential_revoked`: the entry is written back with other tags. -/
def markCredentialRevoked (chrono : Chrono) (wallet : Wallet)
    (fetchHost replaceHost : AskarHost) (missing : String) (now : DateTime)
    (credentialId : String) : WalletResult Wallet := do
  let askar ← wallet.store
  let entry ← wallet.credentialEntry fetchHost credentialId
  let tags := [("revoked", "true"), ("revoked_at", chrono.toRfc3339 now)]
  let askar ← askar.replace replaceHost missing "credentials" credentialId ⟨entry.value, tags⟩
  return { wallet with askarStore := some askar }

section Cipher

variable (cipher : Aead) (digest : Bytes → FixedBytes 32) (chrono : Chrono) (serde : SerdeJson)

/-- `store_credential`, at a time and with what the random generator returned. -/
def storeCredential (wallet : Wallet) (host : AskarHost) (now : DateTime)
    (random : Except String (FixedBytes 12)) (credentialId : String) (credentialData : Json) :
    WalletResult Wallet := do
  let askar ← wallet.store
  let passphrase ← wallet.getAskarPassphrase
  let encrypted ← (encryptWalletRecord cipher digest random
    (Bytes.utf8 (SerdeJson.toString credentialData)) passphrase).mapError fun e =>
      .storageError e.text
  let tags := [("stored_at", chrono.toRfc3339 now), ("revoked", "false")]
  let askar ← askar.insert host "credentials" credentialId ⟨encrypted, tags⟩
  return { wallet with askarStore := some askar }

/-- `get_credential`: the document of a credential. -/
def getCredential (wallet : Wallet) (host : AskarHost) (credentialId : String) :
    WalletResult Json := do
  let entry ← wallet.credentialEntry host credentialId
  let passphrase ← wallet.getAskarPassphrase
  let cleartext ← (decryptWalletRecord cipher digest entry.value passphrase).mapError fun e =>
    .storageError e.text
  (serde.value cleartext).mapError .serializationError

/-- A field of the subject, or an error that names it. -/
def proofableField {α : Type} (as : Json → Option α) (name : String) (subject : Json) :
    WalletResult α :=
  Except.okOr (.invalidWitness ("Missing " ++ name)) ((subject.member? name).bind as)

/-- `extract_proofable_fields`: the attributes that are proved of a credential. -/
def extractProofableFields (wallet : Wallet) (host : AskarHost) (credentialId : String) :
    WalletResult CredentialAttributes := do
  let credential ← wallet.getCredential cipher digest serde host credentialId
  let subject ← Except.okOr (.invalidWitness "Missing credentialSubject")
    (credential.member? "credentialSubject")
  return ⟨← proofableField asString? "userRoleId" subject,
    ← proofableField asString? "orgId" subject, ← proofableField asU64? "clearanceLevel" subject,
    ← proofableField asI64? "timestamp" subject⟩

variable {cipher digest chrono}

/-- **What a store that succeeds has done**: the encrypted text of the credential is inserted, and
the passphrase stays. -/
theorem storeCredential_eq_ok {wallet wallet' : Wallet} {host : AskarHost} {now : DateTime}
    {random : Except String (FixedBytes 12)} {credentialId : String} {credentialData : Json}
    (h : wallet.storeCredential cipher digest chrono host now random credentialId credentialData =
      .ok wallet') :
    ∃ askar passphrase envelope askar',
      wallet.store = .ok askar ∧ wallet.getAskarPassphrase = .ok passphrase ∧
      encryptWalletRecord cipher digest random (Bytes.utf8 (SerdeJson.toString credentialData))
        passphrase = .ok envelope ∧
      askar.insert host "credentials" credentialId
        ⟨envelope, [("stored_at", chrono.toRfc3339 now), ("revoked", "false")]⟩ = .ok askar' ∧
      wallet' = { wallet with askarStore := some askar' } := by
  obtain ⟨askar, hopen, h⟩ := Except.bind_eq_ok_iff.mp h
  obtain ⟨passphrase, hpass, h⟩ := Except.bind_eq_ok_iff.mp h
  obtain ⟨envelope, hencrypt, h⟩ := Except.bind_eq_ok_iff.mp h
  obtain ⟨askar', hinsert, h⟩ := Except.bind_eq_ok_iff.mp h
  exact ⟨askar, passphrase, envelope, askar', hopen, hpass, Except.mapError_eq_ok_iff.mp hencrypt,
    hinsert, (Except.ok.inj h).symm⟩

lemma entryAt_of_store {wallet : Wallet} {askar : Askar} (hopen : wallet.store = .ok askar)
    (category name : String) : wallet.entryAt category name = askar.lookup (category, name) := by
  rw [entryAt, Except.okOr_eq_ok_iff.mp hopen, Option.bind_some]

lemma entryAt_of_insert (wallet : Wallet) {host : AskarHost} {askar askar' : Askar}
    {category name : String} {entry : AskarEntry}
    (h : askar.insert host category name entry = .ok askar') :
    ({ wallet with askarStore := some askar' } : Wallet).entryAt category name = some entry := by
  rw [(Askar.insert_eq_ok h).2]
  exact AList.lookup_insert askar

lemma credentialEntry_of_entryAt {wallet : Wallet} {host : AskarHost} {credentialId : String}
    {entry : AskarEntry} (hfault : host.fault = none)
    (hentry : wallet.entryAt "credentials" credentialId = some entry) :
    wallet.credentialEntry host credentialId = .ok entry := by
  obtain ⟨askar, hstore, hlookup⟩ := Option.bind_eq_some_iff.mp hentry
  simp only [credentialEntry, store, hstore, Except.okOr_some, Askar.fetch, hfault, hlookup, bind,
    Except.bind]

/-- **A reader decrypts and parses the entry.** -/
lemma getCredential_of_entryAt {wallet : Wallet} {host : AskarHost}
    {random : Except String (FixedBytes 12)} {credentialId text : String} {passphrase : Bytes}
    {entry : AskarEntry} (serde : SerdeJson) (hfault : host.fault = none)
    (hentry : wallet.entryAt "credentials" credentialId = some entry)
    (hpass : wallet.getAskarPassphrase = .ok passphrase)
    (hencrypt : encryptWalletRecord cipher digest random (Bytes.utf8 text) passphrase =
      .ok entry.value) :
    wallet.getCredential cipher digest serde host credentialId =
      (serde.value (Bytes.utf8 text)).mapError .serializationError := by
  have hdecrypt : decryptWalletRecord cipher digest entry.value passphrase =
      .ok (Bytes.utf8 text) := by
    cases random with
    | error e => cases hencrypt
    | ok nonce => exact decryptWalletRecord_encryptWalletRecord cipher digest hencrypt
  simp only [getCredential, credentialEntry_of_entryAt hfault hentry, hpass, hdecrypt, bind,
    Except.bind, Except.mapError]

/-- **A plain credential is read back as it was stored.** -/
theorem getCredential_of_store {wallet wallet' : Wallet} {host host' : AskarHost} {now : DateTime}
    {nonce : FixedBytes 12} {credentialId : String} {credentialData : Json}
    (hplain : credentialData.Plain) (hdepth : credentialData.depth ≤ 127)
    (hfault : host'.fault = none)
    (h : wallet.storeCredential cipher digest chrono host now (.ok nonce) credentialId
      credentialData = .ok wallet') :
    wallet'.getCredential cipher digest serde host' credentialId = .ok credentialData := by
  obtain ⟨askar, passphrase, envelope, askar', -, hpass, hencrypt, hinsert, rfl⟩ :=
    storeCredential_eq_ok h
  have hpass' : ({ wallet with askarStore := some askar' } : Wallet).getAskarPassphrase =
      .ok passphrase := hpass
  rw [getCredential_of_entryAt serde hfault (entryAt_of_insert wallet hinsert) hpass' hencrypt,
    serde.value_toString hplain hdepth]
  rfl

end Cipher

end Wallet

end DZTA
