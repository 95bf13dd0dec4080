import Dzta.Broker.Services
import Dzta.Issuer.Proof
import Dzta.Library.Base58
import Dzta.Library.Machine

/-!
# Signing with Vault

The signer that keeps no key: Vault holds it, publishes the public half, and returns signatures.
What Vault makes of a request is a parameter (`VaultStack`); of a transit key it is assumed that
Vault reads and uses its latest version (`TransitKey.Serves`).  Others may rotate the key at any
time, also between the two requests of one signature.

The signer drops the version that Vault names in front of a signature, so nothing tells which
version a proof value belongs to.  **`trace_signerCalls`** says what is left: over any run, every
result is an error or what a local signer with the seed of a current version would have returned.
Without a rotation that is one local signer, and every proof value verifies under every key that was
published.  A key that is not published as 32 bytes (`trace_signerCalls_of_pem`) signs all the
same, but has no public key to register.
-/

namespace DZTA

open Json

/-! ## Vault

What the signer sends, what it is given to work with, and the two replies that it reads.  Members of
a reply that are not read are ignored, and a struct may also stand as an array. -/

/-- A request to Vault with its bearer token: a `POST` if it has a body, a `GET` otherwise. -/
structure VaultRequest where
  url : String
  bearer : String
  body : Option Json

/-- What the signer is built with: a client that reaches Vault, the parser, and the texts of floats
and of errors. -/
structure VaultStack (σ : Type) where
  send : VaultRequest → EffectM String σ ServiceReply
  serde : SerdeJson
  floatText : JsonNumber → String
  base64Error : String → String

/-- `VaultKeyData`.  The map of the versions takes a name to the `public_key` under it. -/
structure VaultKeyData where
  keyType : Option String
  latestVersion : Json
  keys : String → Option String

/-- The derived `Deserialize` of `VaultKeyVersion`, of which the signer reads the public key. -/
def VaultKeyVersion.deserialize : Json → Option String
  | .obj ms => do (← requiredField "public_key" ms).asString?
  | .arr [publicKey] => publicKey.asString?
  | _ => none

namespace VaultKeyData

/-- The map of the versions.  One version that cannot be read makes the whole reply unreadable, also
where another one is the latest. -/
def deserializeKeys : Json → Option (String → Option String)
  | .obj ms =>
    if ms.all fun m => (VaultKeyVersion.deserialize m.2).isSome then
      some fun name => (lastMember name ms).bind VaultKeyVersion.deserialize
    else none
  | _ => none

/-- The derived `Deserialize`: the type may be missing, the versions may not. -/
def deserialize : Json → Option VaultKeyData
  | .obj ms => do
    some ⟨← defaultField "type" none (optional asString?) ms, ← requiredField "latest_version" ms,
      ← deserializeKeys (← requiredField "keys" ms)⟩
  | .arr [keyType, latestVersion, keys] => do
    some ⟨← optional asString? keyType, latestVersion, ← deserializeKeys keys⟩
  | _ => none

end VaultKeyData

/-- The derived `Deserialize` of a struct whose one field is `data`: Vault wraps every answer in
one. -/
def deserializeData {α : Type} (deserialize : Json → Option α) : Json → Option α
  | .obj ms => do deserialize (← requiredField "data" ms)
  | .arr [data] => deserialize data
  | _ => none

/-- The derived `Deserialize` of `VaultSignData`: the signature as Vault writes it, with the version
in front. -/
def VaultSignData.deserialize : Json → Option String
  | .obj ms => do (← requiredField "signature" ms).asString?
  | .arr [signature] => signature.asString?
  | _ => none

/-! ## The backends

The two ways in which an issuer can hold its key, behind one interface: in the process, or in
Vault. -/

/-- `CredentialSignerBackend`: what an issuer asks of its signer. -/
structure CredentialSignerBackend (σ : Type) where
  publicKeyMultibase : EffectM WalletError σ String
  sign : Bytes → EffectM WalletError σ String

namespace LocalCredentialSigner

variable (ed25519 : Ed25519) (signer : LocalCredentialSigner)

/-- `public_key_multibase_value`: the raw key in base 58, without a prefix for its type. -/
def publicKeyMultibaseValue : String := Multibase.encode (signer.publicKeyBytes ed25519).1

/-- The local signer as a backend: it asks nobody and never fails. -/
def backend {σ : Type} : CredentialSignerBackend σ where
  publicKeyMultibase := .ofExcept (.ok (signer.publicKeyMultibaseValue ed25519))
  sign payload := .ofExcept (signer.sign ed25519 payload)

end LocalCredentialSigner

/-- `VaultCredentialSigner`: where Vault is, the token that it asks for, and the name of the key.
The client for these requests is the one of the stack. -/
structure VaultCredentialSigner where
  address : String
  token : String
  transitKey : String

namespace VaultCredentialSigner

variable {σ : Type} (stack : VaultStack σ) (signer : VaultCredentialSigner)

/-- The request for the public half of the key. -/
def keyRequest : VaultRequest :=
  ⟨signer.address ++ "/v1/transit/keys/" ++ signer.transitKey, signer.token, none⟩

/-- The request for a signature. -/
def signRequest (body : Json) : VaultRequest :=
  ⟨signer.address ++ "/v1/transit/sign/" ++ signer.transitKey, signer.token, some body⟩

/-- `request`: the value of a reply.  A refusal is reported with its body, whatever the body
says. -/
def request {α : Type} (deserialize : Json → Option α) (response : ServiceReply) :
    WalletResult α := do
  let body ← response.text.mapError fun e =>
    WalletError.networkError ("Vault response read failed: " ++ e)
  if response.status.isSuccess then
    (stack.serde.fromSlice deserialize (Bytes.utf8 body)).mapError .serializationError
  else .error (.signingError ("Vault returned " ++ response.status.text ++ ": " ++ body))

/-- `get_key_type`: a request of its own before every signature.  A key without a type is taken for
Ed25519. -/
def getKeyType : EffectM WalletError σ String := do
  let response ← .mapError (fun e => .networkError ("Vault key info request failed: " ++ e))
    (stack.send signer.keyRequest)
  let data ← .ofExcept (request stack (deserializeData VaultKeyData.deserialize) response)
  return data.keyType.getD "ed25519"

/-- `to_string` of a number, which makes a name of it under which the versions are looked up. -/
def numberText (n : JsonNumber) : String :=
  match n.asU64?, n.asI64? with
  | some u, _ => toString u.toNat
  | none, some i => toString i.toInt
  | none, none => stack.floatText n

/-- The latest version as a name: Vault may give it as a number or as a string. -/
def versionText : Json → WalletResult String
  | .num n => .ok (numberText stack n)
  | .str s => .ok s
  | _ => .error (.signingError "Invalid latest_version format")

/-- What is made of a reply about the key: the latest version has to be published in base 64 and as
32 bytes, so a key that Vault publishes as PEM is refused here. -/
def multibaseOf (data : VaultKeyData) : WalletResult String := do
  let version ← versionText stack data.latestVersion
  let key ← Except.okOr (.signingError "Vault returned no latest public key") (data.keys version)
  let publicKey ← Except.okOr
    (.signingError ("Vault public-key decoding failed: " ++ stack.base64Error key))
    (Base64.decode key)
  if publicKey.length ≠ 32 then
    .error (.signingError "Vault Ed25519 public key must be 32 bytes")
  else .ok (Multibase.encode publicKey)

/-- `public_key_multibase`: the key that is the latest when Vault is asked. -/
def publicKeyMultibase : EffectM WalletError σ String := do
  let response ← .mapError (fun e => .networkError ("Vault public-key request failed: " ++ e))
    (stack.send signer.keyRequest)
  let data ← .ofExcept (request stack (deserializeData VaultKeyData.deserialize) response)
  .ofExcept (multibaseOf stack data)

/-- The body of a request for a signature.  RSA and ECDSA sign a digest, which has to be named. -/
def signBody (keyType : String) (payload : Bytes) : Json :=
  let input := ("input", Json.str (Base64.encode payload))
  if "rsa".toList.isPrefixOf keyType.toList then
    .obj [input, ("hash_algorithm", .str "sha2-256"), ("signature_algorithm", .str "pkcs1v15")]
  else if "ecdsa".toList.isPrefixOf keyType.toList then
    .obj [input, ("hash_algorithm", .str "sha2-256")]
  else .obj [input]

/-- `rsplit(':').next()`: what follows the last colon, or everything. -/
def lastPart (signature : String) : String :=
  String.ofList (signature.toList.rtakeWhile (· ≠ ':'))

/-- `sign`: two requests, one for the type of the key and one for the signature, and nothing ties
the second one to the version that the first one saw. -/
def sign (payload : Bytes) : EffectM WalletError σ String := do
  let keyType ← signer.getKeyType stack
  let response ← .mapError (fun e => .networkError ("Vault signing request failed: " ++ e))
    (stack.send (signer.signRequest (signBody keyType payload)))
  let encoded ← .ofExcept (request stack (deserializeData VaultSignData.deserialize) response)
  let signature ← .ofExcept (Except.okOr
    (.signingError ("Vault signature decoding failed: " ++ stack.base64Error (lastPart encoded)))
    (Base64.decode (lastPart encoded)))
  return "u" ++ Base64.encodeUrl signature

/-- The signer in Vault as a backend. -/
def backend : CredentialSignerBackend σ := ⟨signer.publicKeyMultibase stack, signer.sign stack⟩

end VaultCredentialSigner

/-! ## Transit keys

What is assumed of Vault: which replies it may give for a key, and that it answers from the latest
version. -/

/-- A key of Vault: what a version of it publishes, and what it signs for the body of a request. -/
structure TransitKey where
  Version : Type
  keyType : String
  publicKey : Version → String
  signature : Version → Json → Bytes

namespace TransitKey

/-- The input of a request for a signature, which travels in base 64. -/
def inputOf (body : Json) : Bytes := ((body.index "input").asString?.bind Base64.decode).getD []

/-- A key for Ed25519, whose versions have seeds. -/
def ed25519 (ed25519 : Ed25519) : TransitKey where
  Version := FixedBytes 32
  keyType := "ed25519"
  publicKey seed := Base64.encode (ed25519.publicKey seed).1
  signature seed body := (ed25519.sign seed (inputOf body)).1

variable {σ : Type} (key : TransitKey)

/-- A reply says what the latest version of a key publishes. -/
def Describes (version : key.Version) (number : ℕ) (v : Json) : Prop :=
  ∃ top data keys entry, v = .obj top ∧ lastMember "data" top = some (.obj data) ∧
    lastMember "type" data = some (.str key.keyType) ∧
    lastMember "latest_version" data = some (.num (.ofNat number)) ∧
    lastMember "keys" data = some (.obj keys) ∧
    lastMember (toString number) keys = some (.obj entry) ∧
    lastMember "public_key" entry = some (.str (key.publicKey version))

/-- A reply carries a signature. -/
def Signs (version : key.Version) (number : ℕ) (body v : Json) : Prop :=
  ∃ top data, v = .obj top ∧ lastMember "data" top = some (.obj data) ∧
    lastMember "signature" data = some (.str
      ("vault:v" ++ toString number ++ ":" ++ Base64.encode (key.signature version body)))

/-- A reply that succeeds has a body of a kind. -/
def Replies (result : Except String ServiceReply) (P : Json → Prop) : Prop :=
  ∀ reply body, result = .ok reply → reply.status.isSuccess = true → reply.text = .ok body →
    ∃ v, SerdeJson.IsText body v ∧ P v

/-- Vault holds the key of a signer: it adds versions and takes none away, and a request that it
grants is answered from the version that is then the latest. -/
structure Serves (stack : VaultStack σ) (signer : VaultCredentialSigner)
    (versions : σ → List key.Version) : Prop where
  grows : ∀ request s, versions s <+: versions (stack.send request s).2
  describes : ∀ s, Replies (stack.send signer.keyRequest s).1 fun v =>
    ∃ version ∈ (versions (stack.send signer.keyRequest s).2).getLast?,
      key.Describes version (versions (stack.send signer.keyRequest s).2).length v
  signs : ∀ body s, Replies (stack.send (signer.signRequest body) s).1 fun v =>
    ∃ version ∈ (versions (stack.send (signer.signRequest body) s).2).getLast?,
      key.Signs version (versions (stack.send (signer.signRequest body) s).2).length body v

/-! ### What is read

A reply that Vault may give, as the decoders of the signer read it. -/

variable {key} {version : key.Version} {number : ℕ} {v : Json}

lemma Describes.deserialize (h : key.Describes version number v) (hplain : v.Plain)
    {data : VaultKeyData} (hdata : deserializeData VaultKeyData.deserialize v = some data) :
    data.keyType = some key.keyType ∧ data.latestVersion = .num (.ofNat number) ∧
      number < 2 ^ 64 ∧ data.keys (toString number) = some (key.publicKey version) := by
  obtain ⟨top, members, keys, entry, rfl, htop, htype, hlatest, hkeys, hentry, hpublic⟩ := h
  obtain ⟨htopNodup, htopPlain⟩ := hplain
  obtain ⟨hnodup, hmembers⟩ : Plain (.obj members) := plain_of_lastMember htopPlain htop
  have hkeysPlain : Plain (.obj keys) := plain_of_lastMember hmembers hkeys
  obtain ⟨hentryNodup, -⟩ : Plain (.obj entry) := plain_of_lastMember hkeysPlain.2 hentry
  have hnumber : Plain (.num (.ofNat number)) := plain_of_lastMember hmembers hlatest
  rw [deserializeData, requiredField_of_lastMember htopNodup htop] at hdata
  change VaultKeyData.deserialize (.obj members) = some data at hdata
  rw [VaultKeyData.deserialize, defaultField_of_lastMember _ _ hnodup htype,
    requiredField_of_lastMember hnodup hlatest, requiredField_of_lastMember hnodup hkeys] at hdata
  simp only [Json.optional, asString?_str, Option.map_some, Option.bind_eq_bind, Option.bind_some,
    VaultKeyData.deserializeKeys] at hdata
  split at hdata
  · obtain rfl := Option.some.inj hdata
    refine ⟨rfl, rfl, ?_, ?_⟩
    · simpa [JsonNumber.Plain, JsonNumber.ofNat] using hnumber
    · change (lastMember (toString number) keys).bind VaultKeyVersion.deserialize = _
      rw [hentry, Option.bind_some, VaultKeyVersion.deserialize,
        requiredField_of_lastMember hentryNodup hpublic]
      rfl
  · cases hdata

lemma Signs.deserialize {body : Json} (h : key.Signs version number body v) (hplain : v.Plain) :
    deserializeData VaultSignData.deserialize v = some
      ("vault:v" ++ toString number ++ ":" ++ Base64.encode (key.signature version body)) := by
  obtain ⟨top, members, rfl, htop, hsignature⟩ := h
  obtain ⟨htopNodup, htopPlain⟩ := hplain
  obtain ⟨hnodup, -⟩ : Plain (.obj members) := plain_of_lastMember htopPlain htop
  rw [deserializeData, requiredField_of_lastMember htopNodup htop]
  change VaultSignData.deserialize (.obj members) = _
  rw [VaultSignData.deserialize, requiredField_of_lastMember hnodup hsignature]
  rfl

end TransitKey

/-! ## What the signer makes of it

One lemma for each request of the signer: what it returns when it succeeds. -/

namespace VaultCredentialSigner

variable {σ : Type} {stack : VaultStack σ} {signer : VaultCredentialSigner}

lemma numberText_ofNat {number : ℕ} (h : number < 2 ^ 64) :
    numberText stack (.ofNat number) = toString number := by
  have hu : (JsonNumber.ofNat number).asU64? = some (UInt64.ofNat number) :=
    if_pos ⟨rfl, rfl, rfl, h⟩
  rw [numberText, hu]
  change toString (UInt64.ofNat number).toNat = toString number
  rw [UInt64.toNat_ofNat_of_lt' h]

lemma ne_colon_of_mem_encodeChars {bs : Bytes} {c : Char} (h : c ∈ Base64.encodeChars bs) :
    c ≠ ':' := by
  rcases Base64.mem_encodeChars h with rfl | ⟨n, hn, rfl⟩
  · decide
  · have hdigit : ∀ n < 64, Base64.digit n ≠ ':' := by decide +kernel
    exact hdigit n hn

/-- **The version is dropped.** -/
lemma lastPart_signature (number : ℕ) (bs : Bytes) :
    lastPart ("vault:v" ++ toString number ++ ":" ++ Base64.encode bs) = Base64.encode bs := by
  have htake : ∀ cs : List Char, (∀ c ∈ cs, c ≠ ':') → ∀ pre : List Char,
      (pre ++ ':' :: cs).rtakeWhile (· ≠ ':') = cs := by
    intro cs hcs pre
    rw [List.rtakeWhile, List.reverse_append, List.reverse_cons, List.append_assoc,
      List.takeWhile_append_of_pos (by simpa using hcs)]
    simp
  have hcolon : ":".toList = [':'] := rfl
  rw [lastPart, String.toList_append, String.toList_append, hcolon, List.append_assoc,
    Base64.encode, String.toList_ofList]
  exact congrArg String.ofList (htake _ (fun c => ne_colon_of_mem_encodeChars) _)

lemma request_eq_ok_iff {α : Type} {deserialize : Json → Option α} {response : ServiceReply}
    {a : α} :
    request stack deserialize response = .ok a ↔ ∃ body, response.text = .ok body ∧
      response.status.isSuccess = true ∧
      stack.serde.fromSlice deserialize (Bytes.utf8 body) = .ok a := by
  rw [request, Except.bind_eq_ok_iff]
  simp only [Except.mapError_eq_ok_iff]
  refine exists_congr fun body => and_congr_right fun _ => ?_
  split
  · rename_i hstatus
    rw [Except.mapError_eq_ok_iff]
    exact ⟨fun h => ⟨hstatus, h⟩, fun h => h.2⟩
  · rename_i hstatus
    exact ⟨fun h => (by cases h), fun h => absurd h.1 hstatus⟩

section Serves

variable {key : TransitKey} {versions : σ → List key.Version}
  (hserves : key.Serves stack signer versions)

include hserves

/-- What is read of the key. -/
lemma exists_of_keyRequest {s s' : σ} {response : ServiceReply} {data : VaultKeyData}
    (hsend : stack.send signer.keyRequest s = (.ok response, s'))
    (h : request stack (deserializeData VaultKeyData.deserialize) response = .ok data) :
    data.keyType = some key.keyType ∧ ∃ version ∈ (versions s').getLast?,
      versionText stack data.latestVersion = .ok (toString (versions s').length) ∧
      data.keys (toString (versions s').length) = some (key.publicKey version) := by
  obtain ⟨body, htext, hstatus, hslice⟩ := request_eq_ok_iff.mp h
  have hreplies := hserves.describes s
  rw [hsend] at hreplies
  obtain ⟨v, hv, version, hversion, hdescribes⟩ := hreplies response body rfl hstatus htext
  rw [stack.serde.fromSlice_of_isText hv] at hslice
  obtain ⟨htype, hlatest, hnumber, hpublic⟩ := hdescribes.deserialize hv.plain hslice
  refine ⟨htype, version, hversion, ?_, hpublic⟩
  rw [hlatest, versionText, numberText_ofNat hnumber]

/-- **The key that is published** is that of the latest version. -/
lemma exists_of_publicKeyMultibase {s s' : σ} {text : String}
    (h : signer.publicKeyMultibase stack s = (.ok text, s')) :
    ∃ version ∈ (versions s').getLast?, ∃ bytes,
      Base64.decode (key.publicKey version) = some bytes ∧ bytes.length = 32 ∧
        text = Multibase.encode bytes := by
  obtain ⟨response, t, hsend, h⟩ := EffectM.mapError_bind_eq_ok_iff.mp h
  obtain ⟨data, hdata, h⟩ := EffectM.ofExcept_bind_eq_ok_iff.mp h
  obtain ⟨hmultibase, rfl⟩ := EffectM.ofExcept_eq_ok_iff.mp h
  obtain ⟨-, version, hversion, hlatest, hpublic⟩ := exists_of_keyRequest hserves hsend hdata
  rw [multibaseOf, hlatest, Except.ok_bind, hpublic, Except.okOr_some, Except.ok_bind,
    Except.bind_eq_ok_iff] at hmultibase
  obtain ⟨bytes, hdecode, hmultibase⟩ := hmultibase
  split at hmultibase
  · cases hmultibase
  · rename_i hlength
    exact ⟨version, hversion, bytes, Except.okOr_eq_ok_iff.mp hdecode, not_not.mp hlength,
      (Except.ok.inj hmultibase).symm⟩

/-- **What is signed** is signed by the latest version, as the type of the key asks for. -/
lemma exists_of_sign {s s' : σ} {payload : Bytes} {proof : String}
    (h : signer.sign stack payload s = (.ok proof, s')) :
    ∃ version ∈ (versions s').getLast?,
      proof = "u" ++ Base64.encodeUrl (key.signature version (signBody key.keyType payload)) := by
  obtain ⟨keyType, t, htype, h⟩ := EffectM.bind_eq_ok_iff.mp h
  obtain ⟨response, t', hsend, hdata⟩ := EffectM.mapError_bind_eq_ok_iff.mp htype
  obtain ⟨data, hdata, hpure⟩ := EffectM.ofExcept_bind_eq_ok_iff.mp hdata
  obtain ⟨hkeyType, -⟩ := exists_of_keyRequest hserves hsend hdata
  have hsame : data.keyType.getD "ed25519" = keyType := Except.ok.inj (Prod.mk.inj hpure).1
  rw [hkeyType, Option.getD_some] at hsame
  subst hsame
  obtain ⟨reply, u, hreply, h⟩ := EffectM.mapError_bind_eq_ok_iff.mp h
  obtain ⟨encoded, hencoded, h⟩ := EffectM.ofExcept_bind_eq_ok_iff.mp h
  obtain ⟨signature, hsignature, h⟩ := EffectM.ofExcept_bind_eq_ok_iff.mp h
  obtain ⟨rfl, rfl⟩ : "u" ++ Base64.encodeUrl signature = proof ∧ u = s' :=
    ⟨Except.ok.inj (Prod.mk.inj h).1, (Prod.mk.inj h).2⟩
  obtain ⟨body, htext, hstatus, hslice⟩ := request_eq_ok_iff.mp hencoded
  have hreplies := hserves.signs (signBody key.keyType payload) t
  rw [hreply] at hreplies
  obtain ⟨v, hv, version, hversion, hsigns⟩ := hreplies reply body rfl hstatus htext
  rw [stack.serde.fromSlice_of_isText hv, hsigns.deserialize hv.plain] at hslice
  obtain rfl := Option.some.inj hslice
  rw [lastPart_signature, Base64.decode_encode, Except.okOr_some] at hsignature
  exact ⟨version, hversion, by rw [Except.ok.inj hsignature]⟩

end Serves

end VaultCredentialSigner

/-! ## Runs

Calls of a signer one after another, with Vault and those who rotate its key in between. -/

/-- A call of a signer. -/
inductive SignerCall where
  | publicKeyMultibase
  | sign (payload : Bytes)

namespace SignerCall

variable {σ : Type}

/-- Makes a call. -/
def ask (backend : CredentialSignerBackend σ) : SignerCall → EffectM WalletError σ String
  | publicKeyMultibase => backend.publicKeyMultibase
  | sign payload => backend.sign payload

/-- The state after a call, and what the call returns. -/
def perform (backend : CredentialSignerBackend σ) (s : σ) (call : SignerCall) :
    σ × WalletResult String :=
  ((call.ask backend s).2, (call.ask backend s).1)

lemma perform_sign (stack : VaultStack σ) (signer : VaultCredentialSigner) (s : σ)
    (payload : Bytes) :
    (perform (signer.backend stack) s (.sign payload)).2 = (signer.sign stack payload s).1 := rfl

/-- What a local signer returns. -/
def answer (ed25519 : Ed25519) (signer : LocalCredentialSigner) : SignerCall → String
  | publicKeyMultibase => signer.publicKeyMultibaseValue ed25519
  | sign payload => signer.signValue ed25519 payload

/-- A local signer returns it always, and has no effects. -/
lemma ask_local (ed25519 : Ed25519) (signer : LocalCredentialSigner) (call : SignerCall) (s : σ) :
    call.ask (signer.backend ed25519) s = (.ok (call.answer ed25519 signer), s) := by
  cases call <;> rfl

end SignerCall

/-- What a call returns that is answered from a version of a key. -/
def TransitKey.Returns (key : TransitKey) (version : key.Version) : SignerCall → String → Prop
  | .publicKeyMultibase, text => ∃ bytes, Base64.decode (key.publicKey version) = some bytes ∧
    bytes.length = 32 ∧ text = Multibase.encode bytes
  | .sign payload, text => text = "u" ++ Base64.encodeUrl (key.signature version
    (VaultCredentialSigner.signBody key.keyType payload))

section Runs

variable {σ : Type} {stack : VaultStack σ} {signer : VaultCredentialSigner}

/-- A version that was the latest at some time since is among those from the latest on. -/
lemma mem_drop_of_getLast? {α : Type} {l l' l'' : List α} {a : α} (h : l <+: l') (h' : l' <+: l'')
    (ha : a ∈ l'.getLast?) : a ∈ l''.drop (l.length - 1) := by
  obtain ⟨init, rfl⟩ := List.getLast?_eq_some_iff.mp ha
  obtain ⟨rest, rfl⟩ := h'
  have hlength : l.length ≤ init.length + 1 := by simpa using h.length_le
  rw [List.append_assoc, List.drop_append_of_le_length (by omega)]
  simp

lemma eq_of_length_le_one {α : Type} {l : List α} (h : l.length ≤ 1) {a b : α} (ha : a ∈ l)
    (hb : b ∈ l) : a = b := by
  rcases l with _ | ⟨c, _ | ⟨d, l⟩⟩
  · cases ha
  · rw [List.mem_singleton.mp ha, List.mem_singleton.mp hb]
  · simp at h

section Serves

variable {key : TransitKey} {versions : σ → List key.Version}
  (hserves : key.Serves stack signer versions)

include hserves

/-- No call takes a version away. -/
lemma grows_ask (call : SignerCall) (s : σ) :
    versions s <+: versions (call.ask (signer.backend stack) s).2 := by
  let grows : σ → σ → Prop := fun s t => versions s <+: versions t
  have : Std.Refl grows := ⟨fun s => List.prefix_refl (versions s)⟩
  have : IsTrans σ grows := ⟨fun _ _ _ h h' => h.trans h'⟩
  have hsend : ∀ request, EffectM.Moves grows (stack.send request) :=
    fun request s => hserves.grows request s
  have hmoves : EffectM.Moves grows (call.ask (signer.backend stack)) := by
    cases call with
    | publicKeyMultibase =>
      exact ((hsend _).mapError _).bind fun _ => (EffectM.Moves.ofExcept _).bind fun _ =>
        EffectM.Moves.ofExcept _
    | sign payload =>
      refine EffectM.Moves.bind ?_ fun _ => ((hsend _).mapError _).bind fun _ =>
        (EffectM.Moves.ofExcept _).bind fun _ => (EffectM.Moves.ofExcept _).bind fun _ =>
          EffectM.Moves.pure _
      exact ((hsend _).mapError _).bind fun _ => (EffectM.Moves.ofExcept _).bind fun _ =>
        EffectM.Moves.pure _
  exact hmoves s

lemma grows_run (s : σ) (calls : List SignerCall) :
    versions s <+: versions (Machine.run (SignerCall.perform (signer.backend stack)) s calls) := by
  induction calls generalizing s with
  | nil => exact List.prefix_refl _
  | cons call calls ih => exact (grows_ask hserves call s).trans (ih _)

/-- **What a call returns** comes from the version that is then the latest. -/
lemma exists_returns_of_ask {call : SignerCall} {s : σ} {text : String}
    (h : (call.ask (signer.backend stack) s).1 = .ok text) :
    ∃ version ∈ (versions (call.ask (signer.backend stack) s).2).getLast?,
      key.Returns version call text := by
  rcases hask : call.ask (signer.backend stack) s with ⟨result, s'⟩
  rw [hask] at h
  obtain rfl : result = .ok text := h
  cases call with
  | publicKeyMultibase => exact VaultCredentialSigner.exists_of_publicKeyMultibase hserves hask
  | sign payload => exact VaultCredentialSigner.exists_of_sign hserves hask

/-- **What a run returns** comes from versions that were the latest while it went on. -/
lemma exists_returns_of_mem_trace (calls : List SignerCall) (s : σ) :
    ∀ e ∈ Machine.trace (SignerCall.perform (signer.backend stack)) s calls, ∀ text,
      e.2 = .ok text → ∃ version ∈
        (versions (Machine.run (SignerCall.perform (signer.backend stack)) s calls)).drop
          ((versions s).length - 1), key.Returns version e.1 text := by
  induction calls generalizing s with
  | nil => exact fun e he => absurd he List.not_mem_nil
  | cons call calls ih =>
    intro e he text htext
    have hgrows := grows_ask hserves call s
    rw [Machine.run_cons]
    rcases List.mem_cons.mp he with rfl | he
    · obtain ⟨version, hversion, hreturns⟩ := exists_returns_of_ask hserves htext
      exact ⟨version, mem_drop_of_getLast? hgrows (grows_run hserves _ calls) hversion, hreturns⟩
    · obtain ⟨version, hversion, hreturns⟩ := ih _ e he text htext
      have hlength : (versions s).length - 1 ≤
          (versions (call.ask (signer.backend stack) s).2).length - 1 := by
        have := hgrows.length_le
        omega
      exact ⟨version, (List.drop_sublist_drop_left _ hlength).subset hversion, hreturns⟩

end Serves

variable {ed25519 : Ed25519} {versions : σ → List (FixedBytes 32)}

/-- An Ed25519 key returns what a local signer does. -/
lemma eq_answer_of_returns {seed : FixedBytes 32} {call : SignerCall} {text : String}
    (h : (TransitKey.ed25519 ed25519).Returns seed call text) :
    text = call.answer ed25519 ⟨seed⟩ := by
  cases call with
  | publicKeyMultibase =>
    obtain ⟨bytes, hdecode, -, rfl⟩ := h
    change Base64.decode (Base64.encode (ed25519.publicKey seed).1) = some bytes at hdecode
    rw [Base64.decode_encode] at hdecode
    rw [← Option.some.inj hdecode]
    rfl
  | sign payload =>
    have hbody : VaultCredentialSigner.signBody "ed25519" payload =
        .obj [("input", .str (Base64.encode payload))] := rfl
    have hinput : TransitKey.inputOf (VaultCredentialSigner.signBody "ed25519" payload) =
        payload := by
      simp [hbody, TransitKey.inputOf, index, lastMember_cons]
    change text = "u" ++ Base64.encodeUrl (ed25519.sign seed (TransitKey.inputOf
      (VaultCredentialSigner.signBody "ed25519" payload))).1 at h
    rw [h, hinput]
    rfl

end Runs

/-! ## A Vault that grants everything

A Vault without faults, which shows that what is assumed of one can be met and that a run of calls
can succeed. -/

section Granting

variable {σ : Type} (key : TransitKey)

/-- What Vault says of a key: its type and its latest version. -/
def TransitKey.info (version : key.Version) (number : ℕ) : Json :=
  .obj [("data", .obj [("type", .str key.keyType), ("latest_version", .num (.ofNat number)),
    ("keys", .obj [(toString number, .obj [("public_key", .str (key.publicKey version))])])])]

/-- What Vault returns with a signature. -/
def TransitKey.signed (version : key.Version) (number : ℕ) (body : Json) : Json :=
  .obj [("data", .obj [("signature", .str
    ("vault:v" ++ toString number ++ ":" ++ Base64.encode (key.signature version body)))])]

/-- The reply to a request, by whether it has a body. -/
def TransitKey.reply (version : key.Version) (number : ℕ) : Option Json → Json
  | none => key.info version number
  | some body => key.signed version number body

/-- A Vault with one key, whose versions are its state. -/
def grantingVault : VaultStack (List key.Version) where
  send request versions :=
    match versions.getLast? with
    | some version =>
      if versions.length < 2 ^ 64 then
        let body := SerdeJson.toString (key.reply version versions.length request.body)
        (.ok ⟨⟨200, some "OK"⟩, .ok (Bytes.utf8 body), .ok body⟩, versions)
      else (.error "too many versions", versions)
    | none => (.error "no such key", versions)
  serde := .strict
  floatText _ := "0.5"
  base64Error _ := "Invalid padding"

variable {key}

lemma isText_reply (version : key.Version) {number : ℕ} (hnumber : number < 2 ^ 64)
    (body : Option Json) : SerdeJson.IsText
      (SerdeJson.toString (key.reply version number body)) (key.reply version number body) := by
  have hnat : (JsonNumber.ofNat number).Plain := ⟨rfl, rfl, hnumber⟩
  cases body with
  | none =>
    refine SerdeJson.isText_toString ?_ ?_
    · simp [TransitKey.reply, TransitKey.info, hnat]
    · simp [TransitKey.reply, TransitKey.info]
  | some body =>
    refine SerdeJson.isText_toString ?_ ?_
    · simp [TransitKey.reply, TransitKey.signed]
    · simp [TransitKey.reply, TransitKey.signed]

lemma describes_info (version : key.Version) (number : ℕ) :
    key.Describes version number (key.info version number) :=
  ⟨_, _, _, [("public_key", .str (key.publicKey version))], rfl, rfl, rfl, rfl, rfl,
    by simp [lastMember_cons], rfl⟩

lemma send_grantingVault {versions : List key.Version} {version : key.Version}
    (hversion : versions.getLast? = some version) (hlength : versions.length < 2 ^ 64)
    (request : VaultRequest) :
    (grantingVault key).send request versions =
      (let body := SerdeJson.toString (key.reply version versions.length request.body)
      (.ok ⟨⟨200, some "OK"⟩, .ok (Bytes.utf8 body), .ok body⟩, versions)) := by
  simp only [grantingVault, hversion, if_pos hlength]

/-- Either nothing is answered, or the latest version is used. -/
lemma replies_grantingVault (versions : List key.Version) (request : VaultRequest) :
    ((grantingVault key).send request versions).2 = versions ∧
      TransitKey.Replies ((grantingVault key).send request versions).1 fun v =>
        ∃ version ∈ versions.getLast?, v = key.reply version versions.length request.body := by
  have herror : ∀ e, ((grantingVault key).send request versions) = (.error e, versions) →
      ((grantingVault key).send request versions).2 = versions ∧
        TransitKey.Replies ((grantingVault key).send request versions).1 fun v =>
          ∃ version ∈ versions.getLast?, v = key.reply version versions.length request.body := by
    intro e h
    rw [h]
    exact ⟨rfl, fun _ _ h => by cases h⟩
  cases hversion : versions.getLast? with
  | none =>
    rw [← hversion]
    exact herror "no such key" (by rw [grantingVault]; simp only [hversion])
  | some version =>
    rw [← hversion]
    by_cases hlength : versions.length < 2 ^ 64
    · rw [send_grantingVault hversion hlength]
      refine ⟨rfl, ?_⟩
      rintro _ _ ⟨⟩ - ⟨⟩
      exact ⟨_, isText_reply version hlength request.body, version, hversion, rfl⟩
    · exact herror "too many versions" (by simp only [grantingVault, hversion, if_neg hlength])

variable (key) in
lemma serves_grantingVault (signer : VaultCredentialSigner) :
    key.Serves (grantingVault key) signer id where
  grows request versions := by
    rw [(replies_grantingVault versions request).1]
  describes versions := by
    obtain ⟨hstate, hreplies⟩ := replies_grantingVault versions signer.keyRequest
    rw [hstate]
    intro reply body hreply hstatus htext
    obtain ⟨v, hv, version, hversion, rfl⟩ := hreplies reply body hreply hstatus htext
    exact ⟨_, hv, version, hversion, describes_info version versions.length⟩
  signs body versions := by
    obtain ⟨hstate, hreplies⟩ := replies_grantingVault versions (signer.signRequest body)
    rw [hstate]
    intro reply text hreply hstatus htext
    obtain ⟨v, hv, version, hversion, rfl⟩ := hreplies reply text hreply hstatus htext
    exact ⟨_, hv, version, hversion, _, _, rfl, rfl, rfl⟩

/-- The reply that is granted, as the signer reads it. -/
lemma request_grantingVault {α : Type} {deserialize : Json → Option α} {version : key.Version}
    {number : ℕ} (hnumber : number < 2 ^ 64) {body : Option Json} {a : α}
    (h : deserialize (key.reply version number body) = some a) :
    VaultCredentialSigner.request (grantingVault key) deserialize
      ⟨⟨200, some "OK"⟩, .ok (Bytes.utf8 (SerdeJson.toString (key.reply version number body))),
        .ok (SerdeJson.toString (key.reply version number body))⟩ = .ok a :=
  VaultCredentialSigner.request_eq_ok_iff.mpr ⟨_, rfl, rfl,
    ((grantingVault key).serde.fromSlice_of_isText (isText_reply version hnumber body)).mpr h⟩

lemma exists_deserialize_info (version : key.Version) (number : ℕ) :
    ∃ data, deserializeData VaultKeyData.deserialize (key.reply version number none) =
      some data := by
  simp [deserializeData, TransitKey.reply, TransitKey.info, requiredField,
    VaultKeyData.deserialize, defaultField, Json.optional, VaultKeyData.deserializeKeys,
    VaultKeyVersion.deserialize]

section Granted

variable (key) (signer : VaultCredentialSigner) {versions : List key.Version}
  {version : key.Version} (hversion : versions.getLast? = some version)
  (hlength : versions.length < 2 ^ 64)

include hversion hlength

/-- The key is granted as it is published. -/
lemma publicKeyMultibase_grantingVault {bytes : Bytes}
    (hdecode : Base64.decode (key.publicKey version) = some bytes) (hbytes : bytes.length = 32) :
    signer.publicKeyMultibase (grantingVault key) versions =
      (.ok (Multibase.encode bytes), versions) := by
  obtain ⟨data, hdata⟩ := exists_deserialize_info version versions.length
  obtain ⟨-, hlatest, -, hpublic⟩ := (describes_info version versions.length).deserialize
    (isText_reply version hlength none).plain hdata
  have hmultibase : VaultCredentialSigner.multibaseOf (grantingVault key) data =
      .ok (Multibase.encode bytes) := by
    rw [VaultCredentialSigner.multibaseOf, hlatest, VaultCredentialSigner.versionText,
      VaultCredentialSigner.numberText_ofNat hlength, Except.ok_bind, hpublic, Except.okOr_some,
      Except.ok_bind, hdecode, Except.okOr_some, Except.ok_bind, if_neg (not_not.mpr hbytes)]
  have hsend := send_grantingVault hversion hlength signer.keyRequest
  have hrequest := request_grantingVault hlength hdata
  refine EffectM.mapError_bind_eq_ok_iff.mpr ⟨_, versions, hsend, ?_⟩
  refine EffectM.ofExcept_bind_eq_ok_iff.mpr ⟨data, hrequest, ?_⟩
  exact EffectM.ofExcept_eq_ok_iff.mpr ⟨hmultibase, rfl⟩

/-- The type of the key is granted. -/
lemma getKeyType_grantingVault :
    signer.getKeyType (grantingVault key) versions = (.ok key.keyType, versions) := by
  obtain ⟨data, hdata⟩ := exists_deserialize_info version versions.length
  obtain ⟨htype, -⟩ := (describes_info version versions.length).deserialize
    (isText_reply version hlength none).plain hdata
  have hsend := send_grantingVault hversion hlength signer.keyRequest
  have hrequest := request_grantingVault hlength hdata
  refine EffectM.mapError_bind_eq_ok_iff.mpr ⟨_, versions, hsend, ?_⟩
  refine EffectM.ofExcept_bind_eq_ok_iff.mpr ⟨data, hrequest, ?_⟩
  rw [htype]
  rfl

/-- Every signature is granted. -/
lemma sign_grantingVault (payload : Bytes) :
    signer.sign (grantingVault key) payload versions =
      (.ok ("u" ++ Base64.encodeUrl (key.signature version
        (VaultCredentialSigner.signBody key.keyType payload))), versions) := by
  let body := VaultCredentialSigner.signBody key.keyType payload
  have hkeyType := getKeyType_grantingVault key signer hversion hlength
  have hsend := send_grantingVault hversion hlength (signer.signRequest body)
  have hsigns : key.Signs version versions.length body
      (key.reply version versions.length (some body)) := ⟨_, _, rfl, rfl, rfl⟩
  have hsigned := hsigns.deserialize (isText_reply version hlength (some body)).plain
  have hrequest := request_grantingVault hlength hsigned
  have hdecode : Base64.decode (VaultCredentialSigner.lastPart ("vault:v" ++
      toString versions.length ++ ":" ++ Base64.encode (key.signature version body))) =
        some (key.signature version body) := by
    rw [VaultCredentialSigner.lastPart_signature, Base64.decode_encode]
  refine EffectM.bind_eq_ok_iff.mpr ⟨_, _, hkeyType, ?_⟩
  refine EffectM.mapError_bind_eq_ok_iff.mpr ⟨_, versions, hsend, ?_⟩
  refine EffectM.ofExcept_bind_eq_ok_iff.mpr ⟨_, hrequest, ?_⟩
  refine EffectM.ofExcept_bind_eq_ok_iff.mpr ⟨key.signature version body, ?_, rfl⟩
  rw [hdecode, Except.okOr_some]

end Granted

/-- With an Ed25519 key, it is the local signer of the latest version. -/
lemma perform_grantingVault (ed25519 : Ed25519) (signer : VaultCredentialSigner)
    {versions : List (FixedBytes 32)} {seed : FixedBytes 32}
    (hseed : versions.getLast? = some seed) (hlength : versions.length < 2 ^ 64)
    (call : SignerCall) :
    call.perform (signer.backend (grantingVault (.ed25519 ed25519))) versions =
      (versions, .ok (call.answer ed25519 ⟨seed⟩)) := by
  have hask : ∃ text, call.ask (signer.backend (grantingVault (.ed25519 ed25519))) versions =
      (.ok text, versions) := by
    cases call with
    | publicKeyMultibase =>
      exact ⟨_, publicKeyMultibase_grantingVault (.ed25519 ed25519) signer hseed hlength
        (Base64.decode_encode _) (ed25519.publicKey seed).2⟩
    | sign payload => exact ⟨_, sign_grantingVault (.ed25519 ed25519) signer hseed hlength payload⟩
  obtain ⟨text, hask⟩ := hask
  obtain ⟨seed', hseed', hreturns⟩ := exists_returns_of_ask
    (serves_grantingVault (.ed25519 ed25519) signer) (congrArg Prod.fst hask)
  have hlast : versions.getLast? = some seed' := by
    rw [hask] at hseed'
    exact hseed'
  obtain rfl : seed = seed' := Option.some.inj (hseed.symm.trans hlast)
  rw [← eq_answer_of_returns hreturns]
  exact congrArg Prod.swap hask

end Granting

/-! ## Vault and the local signer

What a run of calls to Vault has in common with a signer that keeps its key, for Ed25519 keys and
for keys of another kind. -/

section Main

variable {σ : Type} {stack : VaultStack σ} {signer : VaultCredentialSigner} {ed25519 : Ed25519}

/-- **Vault signs like a local signer.**  Over any run of calls, with the key rotated by others at
any time: every result is an error or what a local signer returns that has the seed of a version
from the latest at the start to the latest at the end.  If these are one version, every key that the
run published decodes to one public key, under which every proof value of the run verifies. -/
theorem trace_signerCalls {versions : σ → List (FixedBytes 32)}
    (hserves : (TransitKey.ed25519 ed25519).Serves stack signer versions)
    (base64Error : String → String) (calls : List SignerCall) (s : σ) :
    let step := SignerCall.perform (signer.backend stack)
    let current := (versions (Machine.run step s calls)).drop ((versions s).length - 1)
    (∀ e ∈ Machine.trace step s calls, ∀ text, e.2 = .ok text →
      ∃ seed ∈ current, e.1.ask (LocalCredentialSigner.backend ed25519 ⟨seed⟩) s = (.ok text, s)) ∧
    ((versions (Machine.run step s calls)).length = (versions s).length →
      ∀ key payload proof, (.publicKeyMultibase, .ok key) ∈ Machine.trace step s calls →
        (.sign payload, .ok proof) ∈ Machine.trace step s calls →
        ∃ publicKey : FixedBytes 32, Multibase.decode key = some publicKey.1 ∧
          LocalCredentialSigner.verify ed25519 base64Error publicKey payload proof = .ok ()) := by
  intro step current
  have htrace : ∀ e ∈ Machine.trace step s calls, ∀ text, e.2 = .ok text →
      ∃ seed ∈ current, text = e.1.answer ed25519 ⟨seed⟩ := by
    intro e he text htext
    obtain ⟨seed, hseed, hreturns⟩ := exists_returns_of_mem_trace hserves calls s e he text htext
    exact ⟨seed, hseed, eq_answer_of_returns hreturns⟩
  refine ⟨?_, ?_⟩
  · intro e he text htext
    obtain ⟨seed, hseed, rfl⟩ := htrace e he text htext
    exact ⟨seed, hseed, SignerCall.ask_local ed25519 ⟨seed⟩ e.1 s⟩
  · intro hlength key payload proof hkey hproof
    obtain ⟨seed, hseed, hpublished⟩ := htrace _ hkey key rfl
    obtain ⟨seed', hseed', hsigned⟩ := htrace _ hproof proof rfl
    -- the two versions are the one that was the latest all the time
    have hone : current.length ≤ 1 := by
      rw [List.length_drop, hlength]
      omega
    obtain rfl : seed = seed' := eq_of_length_le_one hone hseed hseed'
    refine ⟨ed25519.publicKey seed, ?_, ?_⟩
    · rw [hpublished]
      exact Multibase.decode_encode _
    · rw [hsigned]
      exact LocalCredentialSigner.verify_signValue ed25519 base64Error ⟨seed⟩ payload

/-- The signer of an issuer. -/
def issuerSigner : VaultCredentialSigner := ⟨"http://127.0.0.1:8200", "root", "issuer-key"⟩

/-- The public key of the issuer, as it is published. -/
def issuerMultibase : String := "zFVen3X669xLzsi6N2V91DoiyzHzg1uAgqiT8jZ9nS96Z"

lemma answer_publicKeyMultibase_issuer :
    SignerCall.answer issuerEd25519 ⟨issuerSeed⟩ .publicKeyMultibase = issuerMultibase := by
  change Multibase.encode (issuerEd25519.publicKey issuerSeed).1 = issuerMultibase
  rw [publicKey_issuerSeed]
  decide +kernel

lemma answer_sign_issuer :
    SignerCall.answer issuerEd25519 ⟨issuerSeed⟩ (.sign (Bytes.utf8 staffDocument)) =
      staffProofValue := signValue_staffDocument

/-- With the key of the issuer in Vault, its public key is published and the document of an
employee is signed, as Ed25519 makes the two, and they fit together. -/
theorem trace_signerCalls_granted :
    Machine.trace (SignerCall.perform (issuerSigner.backend
        (grantingVault (.ed25519 issuerEd25519)))) [issuerSeed]
        [.publicKeyMultibase, .sign (Bytes.utf8 staffDocument)] =
      [(.publicKeyMultibase, .ok issuerMultibase),
        (.sign (Bytes.utf8 staffDocument), .ok staffProofValue)] ∧
      ∃ publicKey : FixedBytes 32, Multibase.decode issuerMultibase = some publicKey.1 ∧
        LocalCredentialSigner.verify issuerEd25519 (fun _ => "Invalid padding") publicKey
          (Bytes.utf8 staffDocument) staffProofValue = .ok () := by
  have hstep : ∀ call : SignerCall, call.perform (issuerSigner.backend
      (grantingVault (.ed25519 issuerEd25519))) [issuerSeed] =
        ([issuerSeed], .ok (call.answer issuerEd25519 ⟨issuerSeed⟩)) :=
    perform_grantingVault issuerEd25519 issuerSigner rfl (Nat.one_lt_two_pow (by decide))
  obtain ⟨hrun, htrace⟩ := Machine.run_of_fixed hstep
    [.publicKeyMultibase, .sign (Bytes.utf8 staffDocument)]
  rw [List.map_cons, List.map_cons, List.map_nil, answer_publicKeyMultibase_issuer,
    answer_sign_issuer] at htrace
  refine ⟨htrace, ?_⟩
  obtain ⟨-, hverify⟩ := trace_signerCalls (serves_grantingVault _ issuerSigner)
    (fun _ => "Invalid padding") [.publicKeyMultibase, .sign (Bytes.utf8 staffDocument)]
    [issuerSeed]
  refine hverify (by rw [id_eq, id_eq, hrun]) issuerMultibase (Bytes.utf8 staffDocument)
    staffProofValue ?_ ?_
  · exact htrace ▸ List.mem_cons_self
  · exact htrace ▸ List.mem_cons_of_mem _ List.mem_cons_self

/-- **A key of another kind signs, and nothing accepts it.**  Where a key is published as PEM and
its signatures are not 64 bytes long (RSA), no call for the public key succeeds, and no proof value
that is returned verifies under any public key. -/
theorem trace_signerCalls_of_pem (ed25519 : Ed25519) {key : TransitKey}
    {versions : σ → List key.Version}
    (hserves : key.Serves stack signer versions)
    (hpem : ∀ version, Base64.decode (key.publicKey version) = none)
    (hlength : ∀ version body, (key.signature version body).length ≠ 64)
    (base64Error : String → String) (calls : List SignerCall) (s : σ) :
    let step := SignerCall.perform (signer.backend stack)
    (∀ result, (.publicKeyMultibase, result) ∈ Machine.trace step s calls →
      ∃ e, result = .error e) ∧
    ∀ payload proof, (.sign payload, .ok proof) ∈ Machine.trace step s calls →
      ∀ publicKey, LocalCredentialSigner.verify ed25519 base64Error publicKey payload proof ≠
        .ok () := by
  intro step
  have htrace := exists_returns_of_mem_trace hserves calls s
  constructor
  · intro result hresult
    cases result with
    | error e => exact ⟨e, rfl⟩
    | ok text =>
      obtain ⟨version, -, bytes, hbytes, -⟩ := htrace _ hresult text rfl
      rw [hpem] at hbytes
      cases hbytes
  · intro payload proof hproof publicKey hverify
    obtain ⟨version, -, hsigned⟩ := htrace _ hproof proof rfl
    rw [TransitKey.Returns] at hsigned
    rw [hsigned, LocalCredentialSigner.verify, Except.bind_eq_ok_iff] at hverify
    obtain ⟨-, -, hverify⟩ := hverify
    rw [LocalCredentialSigner.stripPrefix_append, Except.okOr_some, Except.ok_bind,
      Base64.decodeUrl_encodeUrl, Except.okOr_some, Except.ok_bind,
      LocalCredentialSigner.signatureOfSlice, dif_neg (hlength _ _)] at hverify
    cases hverify

/-- A key with one version, whose signatures have the length of an RSA key's. -/
def rsaKey : TransitKey where
  Version := Unit
  keyType := "rsa-2048"
  publicKey _ := "-----BEGIN PUBLIC KEY-----"
  signature _ _ := List.replicate 256 1

/-- With an RSA key in Vault, the document of an employee is signed, and no public key of Ed25519
accepts the proof value. -/
theorem trace_signerCalls_of_pem_rsa :
    ∃ proof, (.sign (Bytes.utf8 staffDocument), .ok proof) ∈
        Machine.trace (SignerCall.perform (issuerSigner.backend (grantingVault rsaKey))) [()]
          [.sign (Bytes.utf8 staffDocument), .publicKeyMultibase] ∧
      ∀ publicKey, LocalCredentialSigner.verify issuerEd25519 (fun _ => "Invalid padding")
        publicKey (Bytes.utf8 staffDocument) proof ≠ .ok () := by
  have hpem : ∀ version, Base64.decode (rsaKey.publicKey version) = none := by
    have hdash : Base64.value? '-' = none := by decide
    have htext : Base64.decode "-----BEGIN PUBLIC KEY-----" = none := by
      have hlist : "-----BEGIN PUBLIC KEY-----".toList =
        '-' :: '-' :: '-' :: '-' :: "-BEGIN PUBLIC KEY-----".toList := rfl
      rw [Base64.decode, hlist, Base64.decodeChars, hdash]
      rfl
    exact fun _ => htext
  have hlength : ∀ version body, (rsaKey.signature version body).length ≠ 64 := by
    intro version body
    change (List.replicate 256 (1 : UInt8)).length ≠ 64
    rw [List.length_replicate]
    decide
  have hlast : [()].getLast? = some () := rfl
  obtain ⟨proof, hproof⟩ : ∃ proof, issuerSigner.sign (grantingVault rsaKey)
      (Bytes.utf8 staffDocument) [()] = (.ok proof, [()]) :=
    ⟨_, sign_grantingVault rsaKey issuerSigner hlast (Nat.one_lt_two_pow (by decide)) _⟩
  have hmem : (.sign (Bytes.utf8 staffDocument), .ok proof) ∈ Machine.trace (SignerCall.perform
      (issuerSigner.backend (grantingVault rsaKey))) [()]
        [.sign (Bytes.utf8 staffDocument), .publicKeyMultibase] := by
    rw [Machine.trace_cons, SignerCall.perform_sign, hproof]
    exact List.mem_cons_self
  obtain ⟨-, hrefused⟩ := trace_signerCalls_of_pem issuerEd25519
    (serves_grantingVault rsaKey issuerSigner) hpem hlength (fun _ => "Invalid padding")
    [.sign (Bytes.utf8 staffDocument), .publicKeyMultibase] [()]
  exact ⟨proof, hmem, hrefused _ _ hmem⟩

end Main

end DZTA
