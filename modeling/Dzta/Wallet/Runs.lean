import Dzta.Library.Machine
import Dzta.Wallet.Store

/-!
# Runs of the wallet

Everything that writes to an open wallet: credentials, ciphertexts of the vault and the seed are
inserted, and a revocation writes a credential back with other tags.  Whatever is called in whatever
order, a wallet **keeps its entries** (`Wallet.Keeps`): no value is ever changed, and what is marked
as revoked stays marked.

So the records are write-once (`wallet_write_once`).  What a reader gets is the parse of the text
that was stored first, which is the stored document unless it nests deeper than the parser goes
(`nested_credential_lost`) or has numbers that are not integers.
-/

namespace DZTA

open Json

/-! ## Keeping entries

No entry is lost, and none of them gets another value. -/

/-- An entry is marked as revoked. -/
def AskarEntry.Revoked (entry : AskarEntry) : Prop := entry.tags.lookup "revoked" = some "true"

/-- An entry has the same value, and is marked if it was. -/
structure AskarEntry.Keeps (entry entry' : AskarEntry) : Prop where
  value : entry'.value = entry.value
  revoked : entry.Revoked → entry'.Revoked

namespace Wallet

/-- A wallet keeps the passphrase and the entries of another one. -/
structure Keeps (wallet wallet' : Wallet) : Prop where
  askarPassphrase : wallet'.askarPassphrase = wallet.askarPassphrase
  entry : ∀ {category name entry}, wallet.entryAt category name = some entry →
    ∃ entry', wallet'.entryAt category name = some entry' ∧ entry.Keeps entry'

lemma Keeps.refl (wallet : Wallet) : wallet.Keeps wallet :=
  ⟨rfl, fun h => ⟨_, h, rfl, id⟩⟩

lemma Keeps.trans {wallet wallet' wallet'' : Wallet} (h : wallet.Keeps wallet')
    (h' : wallet'.Keeps wallet'') : wallet.Keeps wallet'' := by
  refine ⟨h'.askarPassphrase.trans h.askarPassphrase, fun hentry => ?_⟩
  obtain ⟨entry', hentry', hkeeps⟩ := h.entry hentry
  obtain ⟨entry'', hentry'', hkeeps'⟩ := h'.entry hentry'
  exact ⟨entry'', hentry'', hkeeps'.value.trans hkeeps.value,
    fun hrevoked => hkeeps'.revoked (hkeeps.revoked hrevoked)⟩

section Write

variable {wallet : Wallet} {askar askar' : Askar} {host : AskarHost} {category name : String}
  {entry entry' : AskarEntry}

/-- Writing an entry keeps the others, and this one if it is kept. -/
lemma keeps_of_write (hopen : wallet.store = .ok askar)
    (hkeeps : ∀ entry, askar.lookup (category, name) = some entry → entry.Keeps entry') :
    wallet.Keeps
      { wallet with askarStore := some (AList.insert (category, name) entry' askar) } := by
  refine ⟨rfl, fun {category' name' entry} hentry => ?_⟩
  rw [entryAt_of_store hopen] at hentry
  by_cases hkey : (category', name') = (category, name)
  · rw [hkey] at hentry
    obtain ⟨rfl, rfl⟩ := Prod.mk.inj hkey
    exact ⟨entry', AList.lookup_insert askar, hkeeps entry hentry⟩
  · exact ⟨entry, (AList.lookup_insert_ne hkey).trans hentry, rfl, id⟩

/-- **An insertion keeps all entries.** -/
lemma keeps_of_insert (hopen : wallet.store = .ok askar)
    (h : askar.insert host category name entry = .ok askar') :
    wallet.Keeps { wallet with askarStore := some askar' } := by
  obtain ⟨hnew, rfl⟩ := Askar.insert_eq_ok h
  refine keeps_of_write hopen fun entry hentry => ?_
  rw [AList.lookup_eq_none.mpr hnew] at hentry
  cases hentry

end Write

end Wallet

/-! ## Calls

Each call of the wallet keeps its entries. -/

/-- A call that writes, with what it meets. -/
inductive WalletCall where
  | storeCredential (host : AskarHost) (now : DateTime) (random : Except String (FixedBytes 12))
      (credentialId : String) (credentialData : Json)
  | markCredentialRevoked (fetchHost replaceHost : AskarHost) (missing : String) (now : DateTime)
      (credentialId : String)
  | storeEnclaveVaultCiphertexts (host : AskarHost) (now : DateTime)
      (credentialId walletKeyCiphertext masterSeedCiphertext : String)
  | getOrCreateZkpSecretSeed (fetchHost insertHost : AskarHost)
      (random : Except String (FixedBytes 32))

section Calls

variable (cipher : Aead) (digest : Bytes → FixedBytes 32) (chrono : Chrono)

/-- Makes a call. -/
def WalletCall.perform (wallet : Wallet) : WalletCall → WalletResult Wallet
  | storeCredential host now random credentialId credentialData =>
    wallet.storeCredential cipher digest chrono host now random credentialId credentialData
  | markCredentialRevoked fetchHost replaceHost missing now credentialId =>
    wallet.markCredentialRevoked chrono fetchHost replaceHost missing now credentialId
  | storeEnclaveVaultCiphertexts host now credentialId walletKeyCiphertext masterSeedCiphertext =>
    wallet.storeEnclaveVaultCiphertexts host now credentialId walletKeyCiphertext
      masterSeedCiphertext
  | getOrCreateZkpSecretSeed fetchHost insertHost random =>
    (wallet.getOrCreateZkpSecretSeed fetchHost insertHost random).map Prod.fst

/-- The wallet after a call, and whether the call succeeded. -/
def WalletCall.submit (wallet : Wallet) (call : WalletCall) : Wallet × WalletResult Unit :=
  match call.perform cipher digest chrono wallet with
  | .ok wallet' => (wallet', .ok ())
  | .error e => (wallet, .error e)

variable {cipher digest chrono}

lemma Wallet.lookup_of_credentialEntry {wallet : Wallet} {host : AskarHost} {askar : Askar}
    {credentialId : String} {entry : AskarEntry} (hopen : wallet.store = .ok askar)
    (h : wallet.credentialEntry host credentialId = .ok entry) :
    askar.lookup ("credentials", credentialId) = some entry := by
  obtain ⟨askar', hopen', h⟩ := Except.bind_eq_ok_iff.mp h
  obtain rfl := Except.ok.inj (hopen.symm.trans hopen')
  obtain ⟨found, hfetch, h⟩ := Except.bind_eq_ok_iff.mp h
  rw [Except.okOr_eq_ok_iff.mp h] at hfetch
  rw [Askar.fetch] at hfetch
  split at hfetch
  · cases hfetch
  · exact Except.ok.inj hfetch

/-- **A revocation keeps the value and sets the mark.** -/
lemma Wallet.markCredentialRevoked_eq_ok {wallet wallet' : Wallet}
    {fetchHost replaceHost : AskarHost} {missing : String} {now : DateTime} {credentialId : String}
    (h : wallet.markCredentialRevoked chrono fetchHost replaceHost missing now credentialId =
      .ok wallet') :
    ∃ askar entry, wallet.store = .ok askar ∧
      askar.lookup ("credentials", credentialId) = some entry ∧
      wallet' = { wallet with askarStore := some (AList.insert ("credentials", credentialId)
        ⟨entry.value, [("revoked", "true"), ("revoked_at", chrono.toRfc3339 now)]⟩ askar) } := by
  obtain ⟨askar, hopen, h⟩ := Except.bind_eq_ok_iff.mp h
  obtain ⟨entry, hentry, h⟩ := Except.bind_eq_ok_iff.mp h
  obtain ⟨askar', hreplace, h⟩ := Except.bind_eq_ok_iff.mp h
  obtain rfl := Askar.replace_eq_ok hreplace
  exact ⟨askar, entry, hopen, Wallet.lookup_of_credentialEntry hopen hentry, (Except.ok.inj h).symm⟩

/-- The pair of ciphertexts is inserted. -/
lemma Wallet.storeEnclaveVaultCiphertexts_eq_ok {wallet wallet' : Wallet} {host : AskarHost}
    {now : DateTime} {credentialId walletKeyCiphertext masterSeedCiphertext : String}
    (h : wallet.storeEnclaveVaultCiphertexts host now credentialId walletKeyCiphertext
      masterSeedCiphertext = .ok wallet') :
    ∃ askar askar', wallet.store = .ok askar ∧
      askar.insert host "enclave_secrets" credentialId ⟨Bytes.utf8 (SerdeJson.toString
        (vaultPayload now credentialId walletKeyCiphertext masterSeedCiphertext)), []⟩ =
          .ok askar' ∧
      wallet' = { wallet with askarStore := some askar' } := by
  obtain ⟨askar, hopen, h⟩ := Except.bind_eq_ok_iff.mp h
  obtain ⟨askar', hinsert, h⟩ := Except.bind_eq_ok_iff.mp h
  exact ⟨askar, askar', hopen, hinsert, (Except.ok.inj h).symm⟩

/-- The seed is inserted, unless there is one. -/
lemma Wallet.getOrCreateZkpSecretSeed_eq_ok {wallet : Wallet} {fetchHost insertHost : AskarHost}
    {random : Except String (FixedBytes 32)} {result : Wallet × Bytes}
    (h : wallet.getOrCreateZkpSecretSeed fetchHost insertHost random = .ok result) :
    result.1 = wallet ∨ ∃ askar askar' entry, wallet.store = .ok askar ∧
      askar.insert insertHost "keys" "master_zkp_seed" entry = .ok askar' ∧
      result.1 = { wallet with askarStore := some askar' } := by
  obtain ⟨askar, hopen, h⟩ := Except.bind_eq_ok_iff.mp h
  obtain ⟨found, -, h⟩ := Except.bind_eq_ok_iff.mp h
  cases found with
  | some entry => exact .inl (congrArg Prod.fst (Except.ok.inj h)).symm
  | none =>
    obtain ⟨seed, -, h⟩ := Except.bind_eq_ok_iff.mp h
    obtain ⟨askar', hinsert, h⟩ := Except.bind_eq_ok_iff.mp h
    exact .inr ⟨askar, askar', _, hopen, hinsert, (congrArg Prod.fst (Except.ok.inj h)).symm⟩

/-- **Every call keeps the entries.** -/
theorem WalletCall.keeps_perform {wallet wallet' : Wallet} {call : WalletCall}
    (h : call.perform cipher digest chrono wallet = .ok wallet') : wallet.Keeps wallet' := by
  cases call with
  | storeCredential host now random credentialId credentialData =>
    obtain ⟨askar, passphrase, envelope, askar', hopen, -, -, hinsert, rfl⟩ :=
      Wallet.storeCredential_eq_ok h
    exact Wallet.keeps_of_insert hopen hinsert
  | markCredentialRevoked fetchHost replaceHost missing now credentialId =>
    obtain ⟨askar, entry, hopen, hentry, rfl⟩ := Wallet.markCredentialRevoked_eq_ok h
    refine Wallet.keeps_of_write hopen fun entry' hentry' => ?_
    obtain rfl := Option.some.inj (hentry.symm.trans hentry')
    exact ⟨rfl, fun _ => rfl⟩
  | storeEnclaveVaultCiphertexts host now credentialId walletKeyCiphertext masterSeedCiphertext =>
    obtain ⟨askar, askar', hopen, hinsert, rfl⟩ := Wallet.storeEnclaveVaultCiphertexts_eq_ok h
    exact Wallet.keeps_of_insert hopen hinsert
  | getOrCreateZkpSecretSeed fetchHost insertHost random =>
    rw [WalletCall.perform] at h
    cases hseed : wallet.getOrCreateZkpSecretSeed fetchHost insertHost random with
    | error e =>
      rw [hseed] at h
      cases h
    | ok result =>
      rw [hseed] at h
      obtain rfl := Except.ok.inj h
      rcases Wallet.getOrCreateZkpSecretSeed_eq_ok hseed with
        hsame | ⟨askar, askar', entry, hopen, hinsert, hresult⟩
      · rw [hsame]
        exact Wallet.Keeps.refl wallet
      · rw [hresult]
        exact Wallet.keeps_of_insert hopen hinsert

/-- **A run keeps the entries.** -/
theorem Wallet.keeps_run (wallet : Wallet) (calls : List WalletCall) :
    wallet.Keeps (Machine.run (WalletCall.submit cipher digest chrono) wallet calls) := by
  refine Machine.invariant_run _ (fun wallet' call hkeeps => ?_) (Wallet.Keeps.refl wallet) calls
  rw [WalletCall.submit]
  cases hperform : call.perform cipher digest chrono wallet' with
  | error e => exact hkeeps
  | ok wallet'' => exact hkeeps.trans (WalletCall.keeps_perform hperform)

/-! ## What readers get

A reader gets what the entry has, which no later call changes. -/

lemma Wallet.fetchEnclaveVaultCiphertexts_of_entry {wallet : Wallet} {host : AskarHost}
    {now : DateTime} {credentialId walletKeyCiphertext masterSeedCiphertext : String}
    {entry : AskarEntry} (serde : SerdeJson) (hfault : host.fault = none)
    (hentry : wallet.entryAt "enclave_secrets" credentialId = some entry)
    (hvalue : entry.value = Bytes.utf8 (SerdeJson.toString
      (vaultPayload now credentialId walletKeyCiphertext masterSeedCiphertext))) :
    wallet.fetchEnclaveVaultCiphertexts serde host credentialId =
      .ok (walletKeyCiphertext, masterSeedCiphertext) := by
  obtain ⟨askar, hstore, hlookup⟩ := Option.bind_eq_some_iff.mp hentry
  have hparse : serde.value entry.value = .ok
      (vaultPayload now credentialId walletKeyCiphertext masterSeedCiphertext) := by
    rw [hvalue]
    exact serde.value_toString (by simp [vaultPayload]) (by simp [vaultPayload])
  simp only [Wallet.fetchEnclaveVaultCiphertexts, Wallet.store, hstore, Except.okOr_some,
    Askar.fetch, hfault, hlookup, hparse, bind, Except.bind, Except.mapError]
  simp [vaultPayload, index, lastMember_cons]
  rfl

lemma Wallet.not_insert_of_entry {wallet : Wallet} {askar askar' : Askar} {host : AskarHost}
    {category name : String} {entry entry' : AskarEntry}
    (hentry : wallet.entryAt category name = some entry) (hopen : wallet.store = .ok askar) :
    askar.insert host category name entry' ≠ .ok askar' := by
  intro hinsert
  rw [Wallet.entryAt_of_store hopen, AList.lookup_eq_none.mpr (Askar.insert_eq_ok hinsert).1]
    at hentry
  cases hentry

lemma Wallet.storeCredential_of_entry {wallet : Wallet} {credentialId : String}
    {entry : AskarEntry} (hentry : wallet.entryAt "credentials" credentialId = some entry)
    (host : AskarHost) (now : DateTime) (random : Except String (FixedBytes 12))
    (credentialData : Json) :
    ∃ e, wallet.storeCredential cipher digest chrono host now random credentialId credentialData =
      .error e := by
  cases hstore : wallet.storeCredential cipher digest chrono host now random credentialId
      credentialData with
  | error e => exact ⟨e, rfl⟩
  | ok wallet' =>
    obtain ⟨askar, _, _, _, hopen, -, -, hinsert, -⟩ := Wallet.storeCredential_eq_ok hstore
    exact absurd hinsert (Wallet.not_insert_of_entry hentry hopen)

lemma Wallet.storeEnclaveVaultCiphertexts_of_entry {wallet : Wallet} {credentialId : String}
    {entry : AskarEntry} (hentry : wallet.entryAt "enclave_secrets" credentialId = some entry)
    (host : AskarHost) (now : DateTime) (walletKeyCiphertext masterSeedCiphertext : String) :
    ∃ e, wallet.storeEnclaveVaultCiphertexts host now credentialId walletKeyCiphertext
      masterSeedCiphertext = .error e := by
  cases hstore : wallet.storeEnclaveVaultCiphertexts host now credentialId walletKeyCiphertext
      masterSeedCiphertext with
  | error e => exact ⟨e, rfl⟩
  | ok wallet' =>
    obtain ⟨askar, askar', hopen, hinsert, -⟩ := Wallet.storeEnclaveVaultCiphertexts_eq_ok hstore
    exact absurd hinsert (Wallet.not_insert_of_entry hentry hopen)

lemma WalletCall.submit_of_error {wallet : Wallet} {call : WalletCall} {e : WalletError}
    (h : call.perform cipher digest chrono wallet = .error e) :
    call.submit cipher digest chrono wallet = (wallet, .error e) := by
  rw [WalletCall.submit, h]

/-! ## Write-once

What was stored first is read from then on. -/

/-- The credential of a wallet is marked as revoked. -/
def Wallet.Revoked (wallet : Wallet) (credentialId : String) : Prop :=
  ∃ entry, wallet.entryAt "credentials" credentialId = some entry ∧ entry.Revoked

lemma Wallet.Keeps.revoked {wallet wallet' : Wallet} (h : wallet.Keeps wallet')
    {credentialId : String} : wallet.Revoked credentialId → wallet'.Revoked credentialId := by
  rintro ⟨entry, hentry, hrevoked⟩
  obtain ⟨entry', hentry', hkeeps⟩ := h.entry hentry
  exact ⟨entry', hentry', hkeeps.revoked hrevoked⟩

section Run

variable {wallet : Wallet} {calls : List WalletCall}
  {pre post : List (WalletCall × WalletResult Unit)}

/-- What a call that succeeded has written is kept to the end of the run. -/
lemma exists_keeps_of_trace {call : WalletCall}
    (h : Machine.trace (WalletCall.submit cipher digest chrono) wallet calls =
      pre ++ (call, .ok ()) :: post) :
    ∃ wallet₁ wallet₂, call.perform cipher digest chrono wallet₁ = .ok wallet₂ ∧
      wallet₂.Keeps (Machine.run (WalletCall.submit cipher digest chrono) wallet calls) := by
  obtain ⟨calls₁, calls₂, hcalls, -, hout, -⟩ := Machine.exists_of_trace_eq _ h
  dsimp only at hcalls hout
  rw [hcalls, Machine.run_append, Machine.run_cons]
  rw [WalletCall.submit] at hout
  cases hperform : call.perform cipher digest chrono
      (Machine.run (WalletCall.submit cipher digest chrono) wallet calls₁) with
  | error e =>
    rw [hperform] at hout
    cases hout
  | ok wallet₂ =>
    refine ⟨_, wallet₂, hperform, ?_⟩
    have hsubmit : (WalletCall.submit cipher digest chrono
        (Machine.run (WalletCall.submit cipher digest chrono) wallet calls₁) call).1 =
          wallet₂ := by
      rw [WalletCall.submit, hperform]
    rw [hsubmit]
    exact Wallet.keeps_run wallet₂ calls₂

/-- **A credential that was stored** has an entry at the end of the run, and a reader gets the parse
of its text. -/
lemma getCredential_of_trace {host : AskarHost} {now : DateTime}
    {random : Except String (FixedBytes 12)} {credentialId : String} {credentialData : Json}
    (h : Machine.trace (WalletCall.submit cipher digest chrono) wallet calls =
      pre ++ (.storeCredential host now random credentialId credentialData, .ok ()) :: post)
    (serde : SerdeJson) :
    let final := Machine.run (WalletCall.submit cipher digest chrono) wallet calls
    (∃ entry, final.entryAt "credentials" credentialId = some entry) ∧
    ∀ host', host'.fault = none →
      final.getCredential cipher digest serde host' credentialId =
        (serde.value (Bytes.utf8 (SerdeJson.toString credentialData))).mapError
          .serializationError := by
  intro final
  obtain ⟨wallet₁, wallet₂, hperform, hkeeps⟩ := exists_keeps_of_trace h
  obtain ⟨askar, passphrase, envelope, askar', hopen, hpass, hencrypt, hinsert, rfl⟩ :=
    Wallet.storeCredential_eq_ok hperform
  obtain ⟨entry, hentry, hsame⟩ := hkeeps.entry (Wallet.entryAt_of_insert wallet₁ hinsert)
  refine ⟨⟨entry, hentry⟩, fun host' hfault => ?_⟩
  have hpass' : final.getAskarPassphrase = .ok passphrase := by
    rw [Wallet.getAskarPassphrase, hkeeps.askarPassphrase]
    exact hpass
  have hvalue := hsame.value
  dsimp only at hvalue
  rw [← hvalue] at hencrypt
  exact Wallet.getCredential_of_entryAt serde hfault hentry hpass' hencrypt

lemma revoked_of_trace {fetchHost replaceHost : AskarHost} {missing : String} {now : DateTime}
    {credentialId : String}
    (h : Machine.trace (WalletCall.submit cipher digest chrono) wallet calls =
      pre ++ (.markCredentialRevoked fetchHost replaceHost missing now credentialId, .ok ()) ::
        post) :
    (Machine.run (WalletCall.submit cipher digest chrono) wallet calls).Revoked credentialId := by
  obtain ⟨wallet₁, wallet₂, hperform, hkeeps⟩ := exists_keeps_of_trace h
  obtain ⟨askar, entry, -, -, rfl⟩ := Wallet.markCredentialRevoked_eq_ok hperform
  exact hkeeps.revoked ⟨_, AList.lookup_insert askar, rfl⟩

/-- **A pair of ciphertexts that was stored** has an entry at the end of the run, and is read
back. -/
lemma fetchEnclaveVaultCiphertexts_of_trace {host : AskarHost} {now : DateTime}
    {credentialId walletKeyCiphertext masterSeedCiphertext : String}
    (h : Machine.trace (WalletCall.submit cipher digest chrono) wallet calls =
      pre ++ (.storeEnclaveVaultCiphertexts host now credentialId walletKeyCiphertext
        masterSeedCiphertext, .ok ()) :: post)
    (serde : SerdeJson) :
    let final := Machine.run (WalletCall.submit cipher digest chrono) wallet calls
    (∃ entry, final.entryAt "enclave_secrets" credentialId = some entry) ∧
    ∀ host', host'.fault = none →
      final.fetchEnclaveVaultCiphertexts serde host' credentialId =
        .ok (walletKeyCiphertext, masterSeedCiphertext) := by
  intro final
  obtain ⟨wallet₁, wallet₂, hperform, hkeeps⟩ := exists_keeps_of_trace h
  obtain ⟨askar, askar', -, hinsert, rfl⟩ := Wallet.storeEnclaveVaultCiphertexts_eq_ok hperform
  obtain ⟨entry, hentry, hsame⟩ := hkeeps.entry (Wallet.entryAt_of_insert wallet₁ hinsert)
  refine ⟨⟨entry, hentry⟩, fun host' hfault => ?_⟩
  have hvalue := hsame.value
  dsimp only at hvalue
  exact Wallet.fetchEnclaveVaultCiphertexts_of_entry serde hfault hentry hvalue

end Run

/-- **Records are write-once**, over every run of an open wallet.  A credential that was stored is
read back from then on as the parse of its text, which is the credential itself if it is plain and
not nested too deeply; storing under its id again fails and changes nothing; a mark of revocation is
set by a revocation that succeeds and never reset; and the pair of ciphertexts that was stored is
read back, while storing one under its id again fails and changes nothing. -/
theorem wallet_write_once (cipher : Aead) (digest : Bytes → FixedBytes 32) (chrono : Chrono)
    (serde : SerdeJson) (wallet : Wallet) (calls : List WalletCall) :
    let submit := WalletCall.submit cipher digest chrono
    let final := Machine.run submit wallet calls
    (∀ pre post host now random credentialId credentialData,
      Machine.trace submit wallet calls =
        pre ++ (.storeCredential host now random credentialId credentialData, .ok ()) :: post →
      (∀ host', host'.fault = none →
        final.getCredential cipher digest serde host' credentialId =
          (serde.value (Bytes.utf8 (SerdeJson.toString credentialData))).mapError
            .serializationError ∧
        (credentialData.Plain → credentialData.depth ≤ 127 →
          final.getCredential cipher digest serde host' credentialId = .ok credentialData)) ∧
      ∀ host' now' random' credentialData', ∃ e,
        submit final (.storeCredential host' now' random' credentialId credentialData') =
          (final, .error e)) ∧
    (∀ pre post fetchHost replaceHost missing now credentialId,
      Machine.trace submit wallet calls =
        pre ++ (.markCredentialRevoked fetchHost replaceHost missing now credentialId, .ok ()) ::
          post →
      final.Revoked credentialId) ∧
    (∀ calls₁ calls₂ credentialId, calls = calls₁ ++ calls₂ →
      (Machine.run submit wallet calls₁).Revoked credentialId → final.Revoked credentialId) ∧
    ∀ pre post host now credentialId walletKeyCiphertext masterSeedCiphertext,
      Machine.trace submit wallet calls =
        pre ++ (.storeEnclaveVaultCiphertexts host now credentialId walletKeyCiphertext
          masterSeedCiphertext, .ok ()) :: post →
      (∀ host', host'.fault = none →
        final.fetchEnclaveVaultCiphertexts serde host' credentialId =
          .ok (walletKeyCiphertext, masterSeedCiphertext)) ∧
      ∀ host' now' walletKeyCiphertext' masterSeedCiphertext', ∃ e,
        submit final (.storeEnclaveVaultCiphertexts host' now' credentialId walletKeyCiphertext'
          masterSeedCiphertext') = (final, .error e) := by
  intro submit final
  refine ⟨?_, ?_, ?_, ?_⟩
  · intro pre post host now random credentialId credentialData htrace
    obtain ⟨⟨entry, hentry⟩, hread⟩ := getCredential_of_trace htrace serde
    refine ⟨fun host' hfault => ⟨hread host' hfault, fun hplain hdepth => ?_⟩, ?_⟩
    · rw [hread host' hfault, serde.value_toString hplain hdepth]
      rfl
    · intro host' now' random' credentialData'
      obtain ⟨e, he⟩ := Wallet.storeCredential_of_entry hentry host' now' random' credentialData'
      exact ⟨e, WalletCall.submit_of_error he⟩
  · intro pre post fetchHost replaceHost missing now credentialId htrace
    exact revoked_of_trace htrace
  · rintro calls₁ calls₂ credentialId rfl hrevoked
    have hrun : final = Machine.run submit (Machine.run submit wallet calls₁) calls₂ :=
      Machine.run_append submit wallet calls₁ calls₂
    rw [hrun]
    exact Wallet.Keeps.revoked (Wallet.keeps_run _ calls₂) hrevoked
  · intro pre post host now credentialId walletKey masterSeed htrace
    obtain ⟨⟨entry, hentry⟩, hread⟩ := fetchEnclaveVaultCiphertexts_of_trace htrace serde
    refine ⟨hread, fun host' now' walletKey' masterSeed' => ?_⟩
    obtain ⟨e, he⟩ :=
      Wallet.storeEnclaveVaultCiphertexts_of_entry hentry host' now' walletKey' masterSeed'
    exact ⟨e, WalletCall.submit_of_error he⟩

/-! ### A credential that nests too deeply

It is stored, and it cannot be read. -/

lemma trace_of_perform {wallet wallet' : Wallet} {call : WalletCall}
    (h : call.perform cipher digest chrono wallet = .ok wallet') :
    Machine.trace (WalletCall.submit cipher digest chrono) wallet [call] =
      [] ++ (call, .ok ()) :: [] := by
  rw [Machine.trace_cons, WalletCall.submit, h]
  rfl

lemma exists_storeCredential {wallet : Wallet} {host : AskarHost} {askar : Askar}
    {passphrase : Bytes} {credentialId : String} (hopen : wallet.store = .ok askar)
    (hpass : wallet.getAskarPassphrase = .ok passphrase) (hfault : host.fault = none)
    (hnew : ("credentials", credentialId) ∉ askar) (now : DateTime) (nonce : FixedBytes 12)
    (credentialData : Json) :
    ∃ wallet', wallet.storeCredential cipher digest chrono host now (.ok nonce) credentialId
      credentialData = .ok wallet' := by
  obtain ⟨envelope, hencrypt⟩ := exists_encryptWalletRecord cipher digest nonce
    (Bytes.utf8 (SerdeJson.toString credentialData)) passphrase
  simp only [Wallet.storeCredential, hopen, hpass, hencrypt, Askar.insert, hfault, if_neg hnew,
    bind, Except.bind, Except.mapError]
  exact ⟨_, rfl⟩

end Calls

/-- Arrays in arrays. -/
def nested : ℕ → Json
  | 0 => .null
  | n + 1 => .arr [nested n]

lemma depth_nested (n : ℕ) : (nested n).depth = n := by
  induction n with
  | zero => rfl
  | succ n ih => simp [nested, ih]

/-- **A credential that nests too deeply is lost**: it is stored, and no reader can parse it. -/
theorem nested_credential_lost :
    ¬ ∀ (cipher : Aead) (digest : Bytes → FixedBytes 32) (chrono : Chrono) (serde : SerdeJson)
        (wallet : Wallet) (calls : List WalletCall)
        (pre post : List (WalletCall × WalletResult Unit)) (host host' : AskarHost)
        (now : DateTime) (random : Except String (FixedBytes 12)) (credentialId : String)
        (credentialData : Json),
        Machine.trace (WalletCall.submit cipher digest chrono) wallet calls =
          pre ++ (.storeCredential host now random credentialId credentialData, .ok ()) :: post →
        host'.fault = none →
        (Machine.run (WalletCall.submit cipher digest chrono) wallet calls).getCredential cipher
          digest serde host' credentialId = .ok credentialData := by
  intro hclaim
  obtain ⟨credentialData, hdepth⟩ : ∃ v : Json, 127 < v.depth :=
    ⟨nested 128, by rw [depth_nested]; decide⟩
  obtain ⟨wallet', hstore⟩ : ∃ wallet', (⟨some ∅, some "key"⟩ : Wallet).storeCredential .aes256Gcm
      (fun _ => ⟨List.replicate 32 0, rfl⟩) ⟨fun _ => true, fun _ => "", fun _ => false⟩
      ⟨none, ""⟩ ⟨0, 0⟩ (.ok ⟨List.replicate 12 0, rfl⟩) "vc-1" credentialData = .ok wallet' :=
    exists_storeCredential rfl rfl rfl (AList.notMem_empty _) _ _ _
  have hperform : (WalletCall.storeCredential ⟨none, ""⟩ ⟨0, 0⟩ (.ok ⟨List.replicate 12 0, rfl⟩)
      "vc-1" credentialData).perform .aes256Gcm (fun _ => ⟨List.replicate 32 0, rfl⟩)
        ⟨fun _ => true, fun _ => "", fun _ => false⟩ ⟨some ∅, some "key"⟩ = .ok wallet' := hstore
  have htrace := trace_of_perform hperform
  have hread := hclaim _ _ _ .limited _ _ [] [] _ ⟨none, ""⟩ _ _ _ _ htrace rfl
  rw [(getCredential_of_trace htrace .limited).2 ⟨none, ""⟩ rfl, SerdeJson.value_limited hdepth]
    at hread
  cases hread

end DZTA
