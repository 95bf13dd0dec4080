import Dzta.Issuer.Issuance
import Dzta.Wallet.Store
import Dzta.Wallet.Unseal

/-!
# Issuer, wallet and enclave agree

A credential goes from the issuer, who lays it out as JSON, through the envelope of the wallet, to
two readers that know neither: the wallet itself, which extracts the attributes, and the enclave,
which decrypts the raw record and tries to parse it in several ways.

**`issue_store_prove_agree`** says that both readers see what was issued: the wallet the same
attributes, and the enclave the witness that is derived from them.  The enclave's first attempt, the
native layout of a subject, does not capture the record (`deserialize_credentialOf`): a
credential has none of the names that it looks for.
-/

namespace DZTA

open Json

/-! ## What a reader sees in a credential

The enclave and the wallet take the same attributes from it. -/

section Readers

variable (issuerDid issuanceDate expirationDate created signature subjectDid : String)
  (attributes : CredentialAttributes)

/-- The native layout is not that of a credential. -/
lemma deserialize_credentialOf :
    DecryptedCredentialSubject.deserialize
      (credentialOf issuerDid issuanceDate expirationDate created signature subjectDid
        attributes) = none := by
  simp [credentialOf_eq, DecryptedCredentialSubject.deserialize, requiredField]

/-- The enclave finds the subject. -/
lemma subjectOfCredential_credentialOf (credentialId : String) :
    subjectOfCredential (credentialOf issuerDid issuanceDate expirationDate created signature
        subjectDid attributes) (some credentialId) =
      .ok ⟨attributes.clearanceLevel, attributes.userRoleId, subjectDid, credentialId⟩ := by
  obtain ⟨hid, hrole, -, hclearance, -⟩ := member?_credentialSubject subjectDid attributes
  simp only [subjectOfCredential, member?_credentialOf, hid, hrole, hclearance, orFailed,
    Except.okOr_some, Option.bind_some, asString?_str, asU64?_ofU64, bind, Except.bind, pure,
    Except.pure]

/-- The enclave parses the text of a credential as the subject in it. -/
lemma parseCredentialSubject_credentialOf (serde : SerdeJson) (credentialId : String) :
    parseCredentialSubject serde (Bytes.utf8 (SerdeJson.toString (credentialOf issuerDid
        issuanceDate expirationDate created signature subjectDid attributes)))
        (some credentialId) =
      .ok ⟨attributes.clearanceLevel, attributes.userRoleId, subjectDid, credentialId⟩ := by
  have hplain := plain_credentialOf issuerDid issuanceDate expirationDate created signature
    subjectDid attributes
  have hdepth := depth_credentialOf issuerDid issuanceDate expirationDate created signature
    subjectDid attributes
  rw [parseCredentialSubject]
  split
  · rename_i subject hnative
    rw [serde.fromSlice_toString _ hplain hdepth, deserialize_credentialOf] at hnative
    cases hnative
  · rw [serde.value_toString hplain hdepth]
    exact subjectOfCredential_credentialOf ..

lemma extractProofableFields_of_getCredential {cipher : Aead} {digest : Bytes → FixedBytes 32}
    {serde : SerdeJson} {wallet : Wallet} {host : AskarHost} {credentialId : String}
    (h : wallet.getCredential cipher digest serde host credentialId =
      .ok (credentialOf issuerDid issuanceDate expirationDate created signature subjectDid
        attributes)) :
    wallet.extractProofableFields cipher digest serde host credentialId = .ok attributes := by
  obtain ⟨-, hrole, horg, hclearance, htimestamp⟩ :=
    member?_credentialSubject subjectDid attributes
  simp only [Wallet.extractProofableFields, h, member?_credentialOf, Wallet.proofableField, hrole,
    horg, hclearance, htimestamp, Except.okOr_some, Option.bind_some, asString?_str, asU64?_ofU64,
    asI64?_ofI64, bind, Except.bind, pure, Except.pure]

end Readers

/-! ## From the issuer to both readers

The credential goes through the envelope of the wallet on its way. -/

/-- **Issue, store, read and prove agree**, whatever the subject, the attributes, the id under which
the credential is stored, the passphrase, the nonce and the seed. -/
theorem issue_store_prove_agree {σ : Type} {issuer : Issuer σ} {call : Issuance}
    {schemaId issuerDid subjectDid : String} {attributes : CredentialAttributes}
    {expiresAtUnix : Int64} {ledger ledger' : σ} {issued : IssuedCredential}
    (hissue : createCredential issuer call schemaId issuerDid subjectDid attributes expiresAtUnix
      ledger = (.ok issued, ledger'))
    {cipher : Aead} {digest : Bytes → FixedBytes 32} {chrono : Chrono} (serde : SerdeJson)
    {wallet wallet' : Wallet} {host : AskarHost} {now : DateTime} {nonce : FixedBytes 12}
    {passphrase credentialId : String} (hpass : wallet.askarPassphrase = some passphrase)
    (hstore : wallet.storeCredential cipher digest chrono host now (.ok nonce) credentialId
      issued.credentialData = .ok wallet')
    (host' : AskarHost) (hfault : host'.fault = none) (seed : FixedBytes 32) :
    wallet'.extractProofableFields cipher digest serde host' credentialId = .ok attributes ∧
    ∃ envelope, wallet'.fetchRawEncryptedRecord host' credentialId = .ok envelope ∧
      let nullifier := deriveNullifier digest subjectDid credentialId seed
      unsealAndDeriveWitnessWithCredentialId cipher digest serde envelope (Bytes.utf8 passphrase)
          seed (some credentialId) =
        .ok { clearanceLevel := attributes.clearanceLevel
              userRoleScalar := stringToScalar digest attributes.userRoleId
              secretNullifier := nullifier
              publicCommitment := computeCommitment digest nullifier attributes.clearanceLevel
                attributes.userRoleId } := by
  obtain ⟨-, expiresAt, -, signature, -, -, -, -, -, -, -, -, -, rfl⟩ :=
    createCredential_eq_ok hissue
  constructor
  · exact extractProofableFields_of_getCredential _ _ _ _ _ subjectDid _
      (Wallet.getCredential_of_store serde (plain_credentialOf ..) (depth_credentialOf ..) hfault
        hstore)
  · obtain ⟨askar, key, envelope, askar', -, hkey, hencrypt, hinsert, rfl⟩ :=
      Wallet.storeCredential_eq_ok hstore
    have hentry :=
      Wallet.credentialEntry_of_entryAt hfault (Wallet.entryAt_of_insert wallet hinsert)
    refine ⟨envelope, ?_, ?_⟩
    · simp only [Wallet.fetchRawEncryptedRecord, hentry, bind, Except.bind, pure, Except.pure]
    · rw [Wallet.getAskarPassphrase, hpass] at hkey
      obtain rfl := Except.ok.inj hkey
      have hcleartext :=
        cleartextBytes_of_ok (decryptWalletRecord_encryptWalletRecord cipher digest hencrypt)
      have hparse := parseCredentialSubject_credentialOf issuerDid
        (issuer.chrono.toRfc3339 call.issuedAt) (issuer.chrono.toRfc3339 expiresAt)
        (issuer.chrono.toRfc3339 call.issuedAt) signature subjectDid attributes serde credentialId
      rw [credentialOf, ← hcleartext] at hparse
      exact unseal_of_parse seed hparse

/-! ### A credential for an auditor

It is issued, stored, and read by both. -/

/-- A schema as the chaincode sends it. -/
def auditorSchema : Json :=
  .obj [("schema_id", .str "schema-1"), ("issuer_did", .str "did:dzta:issuer"),
    ("name", .str "Employee"), ("version", .str "1.0"),
    ("attributes", .arr [.obj [("name", .str "clearanceLevel"), ("type", .str "integer"),
      ("predicate", .bool true)]]), ("created", ofI64 1690000000)]

/-- An issuer whose ledger has the schema and whose signer has the key of the zero seed. -/
def auditorIssuer : Issuer Unit where
  fabric :=
    { invokeChaincode := fun _ _ ledger => (.ok "tx-1", ledger)
      queryChaincode := fun _ _ ledger =>
        (.ok (Bytes.utf8 (SerdeJson.toString auditorSchema)), ledger) }
  sign _ :=
    .ok "uUUbE4pRcWs9r8oKD1YhQQe8b5P23csLYkObBHvSYP551zbKOsVMs4Q3bTndEB4idTCz4psCNg__ycFxETQXoCQ"
  canonicalize v := .ok (Bytes.utf8 (SerdeJson.toString (canonical v)))
  chrono :=
    { supported := fun seconds => -8334601228800 ≤ seconds ∧ seconds ≤ 8210266876799
      toRfc3339 := fun t =>
        if t.seconds = 1700000000 then "2023-11-14T22:13:20+00:00" else "2033-05-18T03:33:20+00:00"
      isRfc3339 := fun _ => false }
  serde := .strict

def auditorAttributes : CredentialAttributes := ⟨"auditor", "org-1", 3, 1700000000⟩

lemma getSchema_auditorIssuer :
    FabricClient.getSchema auditorIssuer.fabric auditorIssuer.serde "schema-1" () =
      (.ok ⟨"schema-1", "did:dzta:issuer", "Employee", "1.0",
        [⟨"clearanceLevel", "integer", true⟩], 1690000000⟩, ()) := by
  have hreply : auditorIssuer.fabric.queryChaincode "GetSchema" ["schema-1"] () =
      (.ok (Bytes.utf8 (SerdeJson.toString auditorSchema)), ()) := rfl
  have hread : auditorIssuer.serde.fromSlice Shared.CredentialSchema.deserialize
      (Bytes.utf8 (SerdeJson.toString auditorSchema)) =
        .ok ⟨"schema-1", "did:dzta:issuer", "Employee", "1.0",
          [⟨"clearanceLevel", "integer", true⟩], 1690000000⟩ :=
    (auditorIssuer.serde.fromSlice_toString Shared.CredentialSchema.deserialize
      (by simp [auditorSchema]) (by simp [auditorSchema]) _).mpr rfl
  rw [FabricClient.getSchema, FabricClient.queryAs, EffectM.bind_of_eq_ok hreply, hread]
  rfl

/-- The credential of an auditor, issued and stored, reads the same in the wallet and in the
enclave. -/
theorem issue_store_prove_agree_auditor :
    ∃ (wallet : Wallet) (envelope : Bytes),
      wallet.extractProofableFields .aes256Gcm sha256 .strict ⟨none, ""⟩ "vc-1" =
        .ok auditorAttributes ∧
      wallet.fetchRawEncryptedRecord ⟨none, ""⟩ "vc-1" = .ok envelope ∧
      ∃ witness, unsealAndDeriveWitnessWithCredentialId .aes256Gcm sha256 .strict envelope
        (Bytes.utf8 "correct horse") ⟨List.replicate 32 7, rfl⟩ (some "vc-1") = .ok witness ∧
        witness.clearanceLevel = 3 := by
  obtain ⟨issued, hissue⟩ : ∃ issued,
      createCredential auditorIssuer ⟨⟨1700000000, 0⟩, "vc-1", ⟨1700000000, 0⟩⟩ "schema-1"
        "did:dzta:issuer" "did:dzta:alice" auditorAttributes 2000000000 () =
          (.ok issued, ()) := by
    rw [createCredential, createCredentialBy, if_neg (by decide +kernel),
      if_neg (by decide +kernel), EffectM.bind_of_eq_ok getSchema_auditorIssuer]
    exact ⟨_, rfl⟩
  obtain ⟨wallet, hstore⟩ : ∃ wallet, (⟨some ∅, some "correct horse"⟩ : Wallet).storeCredential
      .aes256Gcm sha256 auditorIssuer.chrono ⟨none, ""⟩ ⟨1700000000, 0⟩
      (.ok ⟨List.replicate 12 9, rfl⟩) "vc-1" issued.credentialData = .ok wallet := ⟨_, rfl⟩
  obtain ⟨hextract, envelope, hfetch, hunseal⟩ :=
    issue_store_prove_agree hissue .strict rfl hstore ⟨none, ""⟩ rfl ⟨List.replicate 32 7, rfl⟩
  exact ⟨wallet, envelope, hextract, hfetch, _, hunseal, rfl⟩

end DZTA
