import Dzta.Issuer.Calls
import Dzta.Library.Base64
import Dzta.Library.Ed25519
import Dzta.Library.JsonValue

/-!
# The proof of a credential

The signer that keeps its key in the process, the check of a proof value, and what a holder does
before a check: the proof is taken out of the credential, its value is taken out of the proof, and
both are canonicalized side by side (`reconstruct`).

The issuer writes the options of a proof twice, once to sign them and once to embed them, and adds
the proof to a credential that is signed already.  **`reconstruct_signedCredential`** says that
nothing of this shows: the document that is reconstructed is the one that was signed.  So a
credential verifies as it is (**`createCredential_verifies`**), and a document that differs from it
anywhere but in the proof value does not lead to the bytes that were signed.
-/

namespace DZTA

open Json

/-! ## The local signer

A key in memory signs texts, and anyone with the public key checks them. -/

/-- `LocalCredentialSigner`, by the seed of its key. -/
structure LocalCredentialSigner where
  seed : FixedBytes 32

namespace LocalCredentialSigner

variable (ed25519 : Ed25519) (base64Error : String → String)

/-- `public_key_bytes`: the key under which its signatures are checked. -/
def publicKeyBytes (signer : LocalCredentialSigner) : FixedBytes 32 :=
  ed25519.publicKey signer.seed

/-- `sign_value`: a signature in base 64 for URLs, with the letter of that base in front. -/
def signValue (signer : LocalCredentialSigner) (payload : Bytes) : String :=
  "u" ++ Base64.encodeUrl (ed25519.sign signer.seed payload).1

/-- `sign` of the `CredentialSignerBackend`. -/
def sign (signer : LocalCredentialSigner) (payload : Bytes) : WalletResult String :=
  .ok (signer.signValue ed25519 payload)

/-- `strip_prefix('u')`: what stands behind the sign for base64url. -/
def stripPrefix (proofValue : String) : Option String :=
  match proofValue.toList with
  | 'u' :: encoded => some (String.ofList encoded)
  | _ => none

/-- `Signature::from_slice`, which looks at the length alone. -/
def signatureOfSlice (bytes : Bytes) : Except String (FixedBytes 64) :=
  if h : bytes.length = 64 then .ok ⟨bytes, h⟩ else .error "signature error"

/-- `verify`: the key, the letter of the base, the encoding and the length are checked before the
signature is. -/
def verify (publicKey : FixedBytes 32) (payload : Bytes) (proofValue : String) :
    WalletResult Unit := do
  (ed25519.checkKey publicKey).mapError fun e =>
    .signingError ("Invalid credential public key: " ++ e)
  let encoded ← Except.okOr (.signingError "Proof value must use base64url encoding")
    (stripPrefix proofValue)
  let signatureBytes ← Except.okOr
    (.signingError ("Invalid proof encoding: " ++ base64Error encoded)) (Base64.decodeUrl encoded)
  let signature ← (signatureOfSlice signatureBytes).mapError fun e =>
    .signingError ("Invalid proof signature: " ++ e)
  (ed25519.verify publicKey payload signature).mapError fun e =>
    .signingError ("Credential proof verification failed: " ++ e)

lemma stripPrefix_append (encoded : String) : stripPrefix ("u" ++ encoded) = some encoded := by
  rw [stripPrefix, String.toList_append]
  exact congrArg some String.ofList_toList

lemma signatureOfSlice_val (signature : FixedBytes 64) :
    signatureOfSlice signature.1 = .ok signature := dif_pos signature.2

/-- **A proof value verifies** under the key of its signer. -/
theorem verify_signValue (signer : LocalCredentialSigner) (payload : Bytes) :
    verify ed25519 base64Error (signer.publicKeyBytes ed25519) payload
      (signer.signValue ed25519 payload) = .ok () := by
  rw [verify, publicKeyBytes, ed25519.checkKey_publicKey, signValue, stripPrefix_append]
  simp only [Except.mapError, Except.ok_bind, Except.okOr_some, Base64.decodeUrl_encodeUrl,
    signatureOfSlice_val, ed25519.verify_sign]

end LocalCredentialSigner

/-! ## Reconstruction

From a credential the document is put together again that was signed. -/

/-- The document that a holder canonicalizes: the credential without its proof, and the proof
without its value. -/
def reconstruct (credentialData : Json) : Json :=
  .obj [("credential", credentialData.without "proof"),
    ("proof", (credentialData.index "proof").without "proofValue")]

/-- A credential up to the value of its proof. -/
def withoutProofValue (credentialData : Json) : Json :=
  credentialData.mapMember "proof" fun proof => proof.without "proofValue"

/-- **What is reconstructed is what was signed.** -/
theorem reconstruct_signedCredential
    (issuerDid issuanceDate expirationDate created signature : String) (subject : Json) :
    let credential := unsignedCredential issuerDid issuanceDate expirationDate subject
    let proof := proofOptions issuerDid created
    reconstruct (signedCredential credential proof signature) =
      signingDocument credential proof := by
  simp [reconstruct, signedCredential, unsignedCredential, proofOptions, signingDocument,
    insertMember, without, index, lastMember_cons]

section Same

variable {sameNumber : JsonNumber → JsonNumber → Prop}

/-- The two halves of what is reconstructed. -/
lemma same_of_same_reconstruct {v w : Json} (h : Same sameNumber (reconstruct v) (reconstruct w)) :
    Same sameNumber (v.without "proof") (w.without "proof") ∧
      Same sameNumber ((v.index "proof").without "proofValue")
        ((w.index "proof").without "proofValue") := by
  have hmembers := same_obj_iff.mp h
  constructor
  · simpa [lastMember_cons] using hmembers "credential"
  · simpa [lastMember_cons] using hmembers "proof"

/-- **What is reconstructed determines a credential** up to the value of its proof. -/
theorem same_of_reconstruct {v : Json} {ns proof : List (String × Json)}
    (hproof : lastMember "proof" ns = some (.obj proof))
    (h : Same sameNumber (reconstruct v) (reconstruct (.obj ns))) :
    Same sameNumber (withoutProofValue v) (withoutProofValue (.obj ns)) := by
  obtain ⟨hcredential, hoptions⟩ := same_of_same_reconstruct h
  -- the document is an object, since the credential without its proof is one
  obtain ⟨ms, rfl⟩ : ∃ ms, v = .obj ms := by
    obtain ⟨ms, hms, -⟩ := exists_of_same_obj hcredential
    cases v <;> first | exact ⟨_, rfl⟩ | cases hms
  rw [index, index, member?_obj, member?_obj, hproof, Option.getD_some] at hoptions
  rw [withoutProofValue, withoutProofValue, mapMember, mapMember]
  refine .obj fun k => ?_
  by_cases hk : k = "proof"
  · subst hk
    rw [lastMember_map_self, lastMember_map_self, hproof]
    cases hlast : lastMember "proof" ms with
    | none =>
      rw [hlast] at hoptions
      cases hoptions
    | some v =>
      rw [hlast] at hoptions
      exact .some hoptions
  · have hmember := same_obj_iff.mp hcredential k
    rw [lastMember_filter_of_ne hk, lastMember_filter_of_ne hk] at hmember
    rwa [lastMember_map_of_ne hk, lastMember_map_of_ne hk]

end Same

/-! ## Issued credentials

What is issued verifies, and nothing else leads to the same document. -/

section Create

variable {σ : Type} {issuer : Issuer σ} {call : Issuance} {schemaId issuerDid subjectDid : String}
  {attributes : CredentialAttributes} {expiresAtUnix : Int64} {ledger ledger' : σ}
  {issued : IssuedCredential}

/-- **An issued credential verifies, and only as it is.**  Where a local signer of any seed issued
it, the reconstructed document canonicalizes to the bytes that were signed, these bytes and the
proof value pass the check under the key of the signer, and no document that differs in more than
the proof value canonicalizes to them.  The canonical form is assumed to tell values apart. -/
theorem createCredential_verifies (ed25519 : Ed25519) (base64Error : String → String)
    (signer : LocalCredentialSigner) (hsigner : issuer.sign = signer.sign ed25519)
    {sameNumber : JsonNumber → JsonNumber → Prop}
    (hjcs : ∀ v w bytes, issuer.canonicalize v = .ok bytes → issuer.canonicalize w = .ok bytes →
      Same sameNumber v w)
    (h : createCredential issuer call schemaId issuerDid subjectDid attributes expiresAtUnix
      ledger = (.ok issued, ledger')) :
    ∃ expiresAt signed proofValue,
      issuer.chrono.fromTimestamp expiresAtUnix 0 = some expiresAt ∧
      (issuer.canonicalize (signingDocument
          (issuer.unsigned call issuerDid subjectDid attributes expiresAt)
          (issuer.options call issuerDid)) = .ok signed ∧
        issuer.sign signed = .ok proofValue ∧
        (issued.credentialData.index "proof").index "proofValue" = .str proofValue) ∧
      issuer.canonicalize (reconstruct issued.credentialData) = .ok signed ∧
      LocalCredentialSigner.verify ed25519 base64Error (signer.publicKeyBytes ed25519) signed
        proofValue = .ok () ∧
      ∀ v, ¬ Same sameNumber (withoutProofValue v) (withoutProofValue issued.credentialData) →
        issuer.canonicalize (reconstruct v) ≠ .ok signed := by
  obtain ⟨schema, expiresAt, signed, proofValue, _, _, -, -, -, hdate, hcanonical, hsign, -, rfl⟩ :=
    createCredential_eq_ok h
  have hreconstruct : issuer.canonicalize (reconstruct (credentialOf issuerDid
      (issuer.chrono.toRfc3339 call.issuedAt) (issuer.chrono.toRfc3339 expiresAt)
      (issuer.chrono.toRfc3339 call.issuedAt) proofValue subjectDid attributes)) = .ok signed := by
    rw [credentialOf, reconstruct_signedCredential, hcanonical]
  refine ⟨expiresAt, signed, proofValue, hdate, ⟨hcanonical, hsign, ?_⟩, hreconstruct, ?_, ?_⟩
  · simp [signedCredential, unsignedCredential, proofOptions, insertMember, index, lastMember_cons]
  · rw [hsigner] at hsign
    rw [← Except.ok.inj hsign]
    exact LocalCredentialSigner.verify_signValue ed25519 base64Error signer signed
  · intro v hdiffers hv
    exact hdiffers (same_of_reconstruct rfl (hjcs _ _ _ hv hreconstruct))

end Create

/-! ### A credential of the staff

The key and the signature are those of Ed25519 for this document. -/

/-- The seed of an issuer. -/
def issuerSeed : FixedBytes 32 :=
  ⟨[157, 97, 177, 157, 239, 253, 90, 96, 186, 132, 74, 244, 146, 236, 44, 196, 68, 73, 197,
    105, 123, 50, 105, 25, 112, 59, 172, 3, 28, 174, 127, 96], rfl⟩

/-- The public key of this seed. -/
def issuerKey : FixedBytes 32 :=
  ⟨[215, 90, 152, 1, 130, 177, 10, 183, 213, 75, 254, 211, 201, 100, 7, 58, 14, 225, 114, 243,
    218, 166, 35, 37, 175, 2, 26, 104, 247, 7, 81, 26], rfl⟩

/-- The document that the issuer signs for the credential of an employee, its members in order. -/
def staffDocument : String :=
  SerdeJson.toString (.obj
    [("credential", .obj
      [("@context", .arr [.str "https://www.w3.org/2018/credentials/v1",
        .str "https://www.w3.org/2018/credentials/examples/v1"]),
      ("credentialSubject", .obj
        [("clearanceLevel", .num (.ofNat 3)), ("id", .str "did:dzta:alice"),
        ("orgId", .str "org-1"), ("timestamp", .num (.ofNat 1700000000)),
        ("userRoleId", .str "auditor")]),
      ("expirationDate", .str "2033-05-18T03:33:20+00:00"),
      ("issuanceDate", .str "2023-11-14T22:13:20+00:00"), ("issuer", .str "did:dzta:issuer"),
      ("type", .arr [.str "VerifiableCredential"])]),
    ("proof", .obj
      [("created", .str "2023-11-14T22:13:20+00:00"), ("cryptosuite", .str "eddsa-jcs-2022"),
      ("proofPurpose", .str "assertionMethod"), ("type", .str "DataIntegrityProof"),
      ("verificationMethod", .str "did:dzta:issuer#key-1")])])

/-- Its signature under the key of the issuer. -/
def staffSignature : FixedBytes 64 :=
  ⟨[64, 73, 75, 244, 158, 157, 136, 119, 167, 28, 111, 50, 140, 55, 123, 226, 178, 223, 55,
    145, 69, 187, 183, 34, 168, 175, 152, 85, 60, 44, 126, 208, 254, 10, 224, 245, 197, 219,
    63, 238, 59, 81, 99, 94, 0, 193, 81, 186, 96, 206, 18, 230, 238, 127, 55, 149, 38, 135,
    216, 155, 62, 133, 25, 6], rfl⟩

/-- Ed25519 at the seed and the document. -/
def issuerEd25519 : Ed25519 :=
  .ofTables [(issuerSeed, issuerKey)] [((issuerKey, Bytes.utf8 staffDocument), staffSignature)]

lemma publicKey_issuerSeed : issuerEd25519.publicKey issuerSeed = issuerKey := by
  simp [issuerEd25519, Ed25519.ofTables]

lemma sign_issuerSeed :
    issuerEd25519.sign issuerSeed (Bytes.utf8 staffDocument) = staffSignature := by
  simp [issuerEd25519, Ed25519.ofTables, Ed25519.tabled]

/-- The value of the proof of this credential. -/
def staffProofValue : String :=
  "uQElL9J6diHenHG8yjDd74rLfN5FFu7ciqK-YVTwsftD-CuD1xds_7jtRY14AwVG6YM4S5u5_N5Umh9ibPoUZBg"

lemma signValue_staffDocument : LocalCredentialSigner.signValue issuerEd25519 ⟨issuerSeed⟩
    (Bytes.utf8 staffDocument) = staffProofValue := by
  rw [LocalCredentialSigner.signValue, sign_issuerSeed]
  decide +kernel

/-- An issuer with a key of its own. -/
def localIssuer : Issuer (List Transaction) :=
  { staffIssuer with
    sign := LocalCredentialSigner.sign issuerEd25519 ⟨issuerSeed⟩
    canonicalize := Json.canonicalize }

lemma sign_localIssuer :
    localIssuer.sign (Bytes.utf8 staffDocument) = .ok staffProofValue :=
  congrArg Except.ok signValue_staffDocument

set_option maxRecDepth 20000 in
/-- The canonical form of what is signed. -/
lemma canonicalize_localIssuer :
    localIssuer.canonicalize (signingDocument
      (localIssuer.unsigned staffCreation.call "did:dzta:issuer" "did:dzta:alice"
        staffCreation.attributes ⟨2000000000, 0⟩)
      (localIssuer.options staffCreation.call "did:dzta:issuer")) =
        .ok (Bytes.utf8 staffDocument) := by
  have hdistinct : (signingDocument (localIssuer.unsigned staffCreation.call "did:dzta:issuer"
      "did:dzta:alice" staffCreation.attributes ⟨2000000000, 0⟩)
      (localIssuer.options staffCreation.call "did:dzta:issuer")).distinct = true := by
    decide +kernel
  have htext : SerdeJson.toString (canonical (signingDocument (localIssuer.unsigned
      staffCreation.call "did:dzta:issuer" "did:dzta:alice" staffCreation.attributes
        ⟨2000000000, 0⟩)
      (localIssuer.options staffCreation.call "did:dzta:issuer"))) = staffDocument :=
    congrArg SerdeJson.toString rfl
  exact (canonicalize_of_distinct hdistinct).trans (by rw [htext])

/-- The credential of an employee with the signature that Ed25519 gives it: it is issued with this
proof value, the document that is reconstructed from it is the one that was signed, both pass the
check under the key of the issuer, and a value without a credential does not lead to the
document. -/
theorem createCredential_verifies_staff :
    ∃ issued,
      (createCredential localIssuer staffCreation.call "schema-1" "did:dzta:issuer"
        "did:dzta:alice" staffCreation.attributes 2000000000 [staffSchema]).1 = .ok issued ∧
      (issued.credentialData.index "proof").index "proofValue" = .str staffProofValue ∧
      localIssuer.canonicalize (reconstruct issued.credentialData) =
        .ok (Bytes.utf8 staffDocument) ∧
      LocalCredentialSigner.verify issuerEd25519 (fun _ => "Invalid padding") issuerKey
        (Bytes.utf8 staffDocument) staffProofValue = .ok () ∧
      localIssuer.canonicalize (reconstruct .null) ≠ .ok (Bytes.utf8 staffDocument) := by
  obtain ⟨issued, hcreate⟩ : ∃ issued, createCredential localIssuer staffCreation.call "schema-1"
      "did:dzta:issuer" "did:dzta:alice" staffCreation.attributes 2000000000 [staffSchema] =
        (.ok issued, [staffSchema, .faultless staffCreation.operation 1700000000]) :=
    createCredential_of_ok (by decide +kernel) (by decide +kernel) getSchema_staffIssuer rfl rfl
      canonicalize_localIssuer sign_localIssuer recordCredentialMetadata_staffIssuer
  obtain ⟨expiresAt, signed, proofValue, hdate, ⟨hcanonical, hsign, hvalue⟩, hreconstruct, hverify,
      hdiffers⟩ :=
    createCredential_verifies issuerEd25519 (fun _ => "Invalid padding") ⟨issuerSeed⟩ rfl
      (fun v w bytes => same_of_canonicalize_eq) hcreate
  obtain rfl : ⟨2000000000, 0⟩ = expiresAt := Option.some.inj hdate
  obtain rfl : Bytes.utf8 staffDocument = signed :=
    Except.ok.inj (canonicalize_localIssuer.symm.trans hcanonical)
  obtain rfl : staffProofValue = proofValue :=
    Except.ok.inj (sign_localIssuer.symm.trans hsign)
  rw [LocalCredentialSigner.publicKeyBytes, publicKey_issuerSeed] at hverify
  refine ⟨issued, by rw [hcreate], hvalue, hreconstruct, hverify, hdiffers .null ?_⟩
  intro hsame
  cases hdata : issued.credentialData with
  | obj ms =>
    rw [hdata] at hsame
    cases hsame
  | _ =>
    rw [hdata] at hvalue
    cases hvalue

end DZTA
