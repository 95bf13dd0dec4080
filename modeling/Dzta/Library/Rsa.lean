import Dzta.Library.Base64
import Dzta.Library.Rust
import Mathlib.Data.Bool.AllAny

/-!
# RSA-OAEP

Public-key encryption with OAEP, as its users meet it: keys travel as PEM texts, whose label says
how the key inside is laid out, and encryption and decryption each fix a digest.  The laws are those
that hold between *different* implementations: a reader of `SubjectPublicKeyInfo` takes no other
label, a message is accepted up to the length that the size of the key and the digest leave, and
**decryption inverts encryption exactly if both fix the same digest**.
-/

/-- The label in the first boundary of a PEM text. -/
def pemLabel (text : String) : Option String := go text.toList
where
  go : List Char → Option String
    | [] => none
    | c :: cs =>
      if "-----BEGIN ".toList <+: c :: cs then
        some (String.ofList (((c :: cs).drop 11).takeWhile (· ≠ '-')))
      else go cs

/-- A PEM text with a label. -/
def pemText (label body : String) : String :=
  "-----BEGIN " ++ (label ++ "-----\n" ++ body ++ "-----END " ++ label ++ "-----\n")

lemma pemLabel_pemText {label : String} (h : ∀ c ∈ label.toList, c ≠ '-') (body : String) :
    pemLabel (pemText label body) = some label := by
  have hlist : (pemText label body).toList = "-----BEGIN ".toList ++ (label.toList ++
      '-' :: ("----\n" ++ body ++ "-----END " ++ label ++ "-----\n").toList) := by
    simp [pemText, String.toList_append]
  have hbegin : "-----BEGIN ".toList <+: (pemText label body).toList := ⟨_, hlist.symm⟩
  have hdrop : (pemText label body).toList.drop 11 = label.toList ++
      '-' :: ("----\n" ++ body ++ "-----END " ++ label ++ "-----\n").toList := by
    rw [hlist]
    rfl
  have htake : ((pemText label body).toList.drop 11).takeWhile (· ≠ '-') = label.toList := by
    rw [hdrop, List.takeWhile_append_of_pos (fun c hc => decide_eq_true (h c hc))]
    simp
  rw [pemLabel]
  rcases hcs : (pemText label body).toList with _ | ⟨c, cs⟩
  · rw [hcs] at hlist
    cases hlist
  · rw [hcs] at hbegin htake
    rw [pemLabel.go, if_pos hbegin, htake, String.ofList_toList]

/-- The digest that OAEP is instantiated with, for the label and the mask. -/
inductive OaepDigest where
  | sha1
  | sha256
deriving DecidableEq

/-- The length of a digest in bytes. -/
def OaepDigest.size : OaepDigest → ℕ
  | sha1 => 20
  | sha256 => 32

/-- RSA keys and their texts. -/
structure Rsa where
  PublicKey : Type
  PrivateKey : Type
  publicKey : PrivateKey → PublicKey
  /-- The length of the modulus in bytes. -/
  size : PublicKey → ℕ
  publicKeyToPemPkcs1 : PublicKey → String
  fromPublicKeyPem : String → Except String PublicKey
  label_pkcs1 : ∀ pk, pemLabel (publicKeyToPemPkcs1 pk) = some "RSA PUBLIC KEY"
  label_spki : ∀ text pk, fromPublicKeyPem text = .ok pk → pemLabel text = some "PUBLIC KEY"

/-- **A key in PKCS#1 is no key** to a reader of `SubjectPublicKeyInfo`. -/
theorem Rsa.fromPublicKeyPem_pkcs1 (rsa : Rsa) (pk : rsa.PublicKey) :
    ∃ e, rsa.fromPublicKeyPem (rsa.publicKeyToPemPkcs1 pk) = .error e := by
  cases h : rsa.fromPublicKeyPem (rsa.publicKeyToPemPkcs1 pk) with
  | error e => exact ⟨e, rfl⟩
  | ok pk' =>
    have hlabel := rsa.label_spki _ _ h
    rw [rsa.label_pkcs1] at hlabel
    exact absurd (Option.some.inj hlabel) (by decide)

/-- OAEP over RSA keys: `encrypt` takes a random seed before the message. -/
structure Oaep (rsa : Rsa) where
  encrypt : OaepDigest → rsa.PublicKey → Bytes → Bytes → Option Bytes
  decrypt : OaepDigest → rsa.PrivateKey → Bytes → Option Bytes
  isSome_encrypt : ∀ digest pk seed message, (encrypt digest pk seed message).isSome ↔
    message.length + 2 * digest.size + 2 ≤ rsa.size pk
  decrypt_iff : ∀ digest digest' sk seed message c,
    encrypt digest (rsa.publicKey sk) seed message = some c →
    (decrypt digest' sk c = some message ↔ digest' = digest)

namespace Oaep

variable {rsa : Rsa} {oaep : Oaep rsa} {digest : OaepDigest} {message : Bytes}

/-- **What was wrapped for a key pair** is unwrapped by it. -/
theorem decrypt_encrypt {sk : rsa.PrivateKey} {seed c : Bytes}
    (h : oaep.encrypt digest (rsa.publicKey sk) seed message = some c) :
    oaep.decrypt digest sk c = some message := (oaep.decrypt_iff _ _ _ _ _ _ h).mpr rfl

/-- What fits one key fits a key that is as long. -/
lemma exists_encrypt_of_size_le {pk pk' : rsa.PublicKey} {seed c : Bytes}
    (h : oaep.encrypt digest pk seed message = some c) (hsize : rsa.size pk ≤ rsa.size pk')
    (seed' : Bytes) : ∃ c', oaep.encrypt digest pk' seed' message = some c' := by
  have hfits := (oaep.isSome_encrypt digest pk seed message).mp (by rw [h, Option.isSome_some])
  exact Option.isSome_iff_exists.mp
    ((oaep.isSome_encrypt digest pk' seed' message).mpr (hfits.trans hsize))

end Oaep

/-! ### Sealed boxes

Keys of 2048 bits in the encodings that they have, by their moduli alone: who knows a public key can
decrypt.  This is enough where nothing depends on secrecy. -/

/-- What stands before the modulus in a key of 2048 bits. -/
def rsaHeader : Bytes := [48, 130, 1, 10, 2, 130, 1, 1, 0]

/-- What stands after it, for the exponent 65537. -/
def rsaTrailer : Bytes := [2, 3, 1, 0, 1]

/-- What `SubjectPublicKeyInfo` puts before such a key. -/
def spkiHeader : Bytes :=
  [48, 130, 1, 34, 48, 13, 6, 9, 42, 134, 72, 134, 247, 13, 1, 1, 1, 5, 0, 3, 130, 1, 15, 0]

/-- The PEM text of a key as `SubjectPublicKeyInfo`, in one line. -/
def spkiPem (modulus : FixedBytes 256) : String :=
  pemText "PUBLIC KEY"
    (Base64.encode (spkiHeader ++ rsaHeader ++ (modulus.1 ++ rsaTrailer)) ++ "\n")

/-- The key of a PEM text: what stands in the place of the modulus, if it gives the text back. -/
def spkiKey? (text : String) : Option (FixedBytes 256) :=
  (Base64.decode (String.ofList ((text.toList.drop 27).takeWhile (· ≠ '\n')))).bind fun der =>
    if h : ((der.drop 33).take 256).length = 256 then
      if spkiPem ⟨_, h⟩ = text then some ⟨_, h⟩ else none
    else none

lemma spkiKey?_eq_some {text : String} {modulus : FixedBytes 256}
    (h : spkiKey? text = some modulus) : spkiPem modulus = text := by
  obtain ⟨der, -, hkey⟩ := Option.bind_eq_some_iff.mp h
  split at hkey
  · split at hkey
    · rename_i hpem
      rwa [← Option.some.inj hkey]
    · cases hkey
  · cases hkey

lemma spkiKey?_spkiPem (modulus : FixedBytes 256) :
    spkiKey? (spkiPem modulus) = some modulus := by
  have hbegin : "-----BEGIN PUBLIC KEY-----\n".toList.length = 27 := rfl
  have hlist : (spkiPem modulus).toList = "-----BEGIN PUBLIC KEY-----\n".toList ++
      ((Base64.encode (spkiHeader ++ rsaHeader ++ (modulus.1 ++ rsaTrailer))).toList ++
        '\n' :: "-----END PUBLIC KEY-----\n".toList) := by
    simp [spkiPem, pemText, String.toList_append]
  have hbody : String.ofList (((spkiPem modulus).toList.drop 27).takeWhile (· ≠ '\n')) =
      Base64.encode (spkiHeader ++ rsaHeader ++ (modulus.1 ++ rsaTrailer)) := by
    rw [hlist, List.drop_left' hbegin, List.takeWhile_append_of_pos]
    · simp
    · intro c hc
      exact decide_eq_true fun h => absurd (h ▸ Base64.printable_encode _ c hc) (by decide)
  have hmodulus : ((spkiHeader ++ rsaHeader ++ (modulus.1 ++ rsaTrailer)).drop 33).take 256 =
      modulus.1 := by
    have hheader : (spkiHeader ++ rsaHeader).length = 33 := rfl
    rw [List.drop_left' hheader, List.take_left' modulus.2]
  rw [spkiKey?, hbody, Base64.decode_encode, Option.bind_some]
  simp only [hmodulus]
  rw [dif_pos modulus.2, if_pos trivial]

/-- Keys by their moduli. -/
def Rsa.moduli : Rsa where
  PublicKey := FixedBytes 256
  PrivateKey := FixedBytes 256
  publicKey sk := sk
  size _ := 256
  publicKeyToPemPkcs1 modulus :=
    pemText "RSA PUBLIC KEY" (Base64.encode (rsaHeader ++ (modulus.1 ++ rsaTrailer)) ++ "\n")
  fromPublicKeyPem text := Except.okOr "unexpected PEM label or key" (spkiKey? text)
  label_pkcs1 _ := pemLabel_pemText (List.all_iff_forall_prop.mp (by decide)) _
  label_spki text pk h := by
    rw [← spkiKey?_eq_some (Except.okOr_eq_ok_iff.mp h)]
    exact pemLabel_pemText (List.all_iff_forall_prop.mp (by decide)) _

lemma fromPublicKeyPem_spkiPem (modulus : FixedBytes 256) :
    Rsa.moduli.fromPublicKeyPem (spkiPem modulus) = .ok modulus := by
  simp only [Rsa.moduli, spkiKey?_spkiPem, Except.okOr]

/-- A message in a box: a tag, the key, and the message. -/
def box (digest : OaepDigest) (modulus : FixedBytes 256) (message : Bytes) : Bytes :=
  UInt8.ofNat digest.size :: (modulus.1 ++ message)

/-- Opens a box for a tag and a key. -/
def openBox (digest : OaepDigest) (modulus : FixedBytes 256) : Bytes → Option Bytes
  | tag :: rest =>
    if tag = UInt8.ofNat digest.size ∧ rest.take 256 = modulus.1 then some (rest.drop 256) else none
  | [] => none

lemma openBox_box (digest digest' : OaepDigest) (modulus : FixedBytes 256) (message : Bytes) :
    openBox digest' modulus (box digest modulus message) = some message ↔ digest' = digest := by
  simp only [openBox, box, List.take_left' modulus.2, List.drop_left' modulus.2]
  cases digest <;> cases digest' <;> simp [OaepDigest.size]

/-- OAEP up to secrecy: a ciphertext names its digest and its key. -/
def Oaep.boxes : Oaep .moduli where
  encrypt digest pk _ message :=
    if message.length + 2 * digest.size + 2 ≤ 256 then some (box digest pk message) else none
  decrypt digest sk c := openBox digest sk c
  isSome_encrypt digest pk seed message := by
    split
    · rename_i h
      exact iff_of_true rfl h
    · rename_i h
      exact iff_of_false (fun hsome => by cases hsome) h
  decrypt_iff digest digest' sk seed message c h := by
    split at h
    · cases h
      exact openBox_box digest digest' sk message
    · cases h
