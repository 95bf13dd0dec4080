import Dzta.Library.AesGcm
import Dzta.Library.Sha256
import Dzta.Shared.Models

/-!
# Encrypted wallet records

The envelope in which the wallet keeps a record and which the enclave opens: five bytes of magic,
a nonce of 12 bytes, the ciphertext, and a tag of 16 bytes, under the hash of the passphrase.  The
cipher and the hash function are parameters.

**`decryptWalletRecord_eq_ok_iff`** says that the slices of the reader are the pieces of the writer.
So the codec is exact (`walletRecord_codec`): an envelope opens to a plaintext if and only if it is
what sealing that plaintext under some nonce gives, and everything else is an error.  With indexing
written out, where a slice out of range would panic, **nothing panics**.
-/

namespace DZTA

/-! ## The envelope

A mark, a nonce, and what the cipher returns. -/

/-- `WALLET_RECORD_MAGIC`: the bytes of `DZTA1`. -/
def walletRecordMagic : Bytes := [0x44, 0x5a, 0x54, 0x41, 0x31]

/-- The bytes from `i` up to `j`. -/
def slice (i j : ℕ) (b : Bytes) : Bytes := (b.drop i).take (j - i)

lemma length_slice {i j : ℕ} {b : Bytes} (h : j ≤ b.length) : (slice i j b).length = j - i := by
  simp only [slice, List.length_take, List.length_drop]
  omega

/-- A slice of three pieces that starts and ends where the middle one does is the middle one. -/
lemma slice_middle {i j : ℕ} {x y z : Bytes} (hi : x.length = i) (hj : i + y.length = j) :
    slice i j (x ++ y ++ z) = y := by
  rw [slice, List.append_assoc, List.drop_append_of_le_length (by omega), ← hi, List.drop_length,
    List.nil_append, List.take_append_of_le_length (by omega), List.take_of_length_le (by omega)]

/-- Two slices that meet are one. -/
lemma slice_append {i j k : ℕ} {b : Bytes} (hij : i ≤ j) (hjk : j ≤ k) :
    slice i j b ++ slice j k b = slice i k b := by
  obtain ⟨m, rfl⟩ := Nat.exists_eq_add_of_le hij
  obtain ⟨n, rfl⟩ := Nat.exists_eq_add_of_le hjk
  have hlength : i + m + n - (i + m) = n := by omega
  have htotal : i + m + n - i = m + n := by omega
  rw [slice, slice, slice, hlength, htotal, Nat.add_sub_cancel_left, List.take_add, List.drop_drop]

lemma slice_length (b : Bytes) : slice 0 b.length b = b := by
  rw [slice, List.drop_zero, Nat.sub_zero, List.take_length]

lemma eq_slice_of_prefix {x b : Bytes} (h : x <+: b) : x = slice 0 x.length b := by
  rw [slice, List.drop_zero, Nat.sub_zero]
  exact List.prefix_iff_eq_take.mp h

section Cipher

variable (cipher : Aead) (digest : Bytes → FixedBytes 32)

/-- `encrypt_wallet_record`, with what the random generator returned for the nonce. -/
def encryptWalletRecord (random : Except String (FixedBytes 12)) (plaintext passphrase : Bytes) :
    WalletResult Bytes :=
  match random with
  | .error e => .error (.executionFailed ("Failed to generate nonce: " ++ e))
  | .ok nonce =>
    let (ciphertext, tag) := cipher.encrypt (digest passphrase) nonce plaintext
    .ok (walletRecordMagic ++ nonce.1 ++ ciphertext ++ tag.1)

lemma exists_encryptWalletRecord (nonce : FixedBytes 12) (plaintext passphrase : Bytes) :
    ∃ envelope, encryptWalletRecord cipher digest (.ok nonce) plaintext passphrase = .ok envelope :=
  ⟨_, rfl⟩

/-- `decrypt_wallet_record`: an envelope is taken apart and opened with the key of the
passphrase. -/
def decryptWalletRecord (envelope passphrase : Bytes) : WalletResult Bytes :=
  if h : envelope.length < walletRecordMagic.length + 12 + 16 ∨
      walletRecordMagic.isPrefixOf envelope = false then
    .error (.executionFailed "Invalid wallet record envelope")
  else
    have hlength : 33 ≤ envelope.length := Nat.not_lt.mp fun hlt => h (.inl hlt)
    let nonce : FixedBytes 12 := ⟨slice 5 17 envelope, length_slice (by omega)⟩
    let tagStart := envelope.length - 16
    let tag : FixedBytes 16 :=
      ⟨slice tagStart envelope.length envelope, by rw [length_slice le_rfl]; omega⟩
    match cipher.decrypt (digest passphrase) nonce (slice 17 tagStart envelope) tag with
    | some plaintext => .ok plaintext
    | none => .error (.executionFailed "Wallet record authentication failed")

variable {cipher digest}

/-- The pieces of an envelope stand where the opening looks for them. -/
lemma slices_envelope (nonce : FixedBytes 12) (ciphertext : Bytes) (tag : FixedBytes 16) :
    let envelope := walletRecordMagic ++ nonce.1 ++ ciphertext ++ tag.1
    envelope.length = 33 + ciphertext.length ∧ slice 5 17 envelope = nonce.1 ∧
      slice 17 (33 + ciphertext.length - 16) envelope = ciphertext ∧
      slice (33 + ciphertext.length - 16) (33 + ciphertext.length) envelope = tag.1 := by
  have hnonce := nonce.2
  have htag := tag.2
  have hmagic : walletRecordMagic.length = 5 := rfl
  refine ⟨?_, ?_, ?_, ?_⟩
  · simp only [List.length_append]
    omega
  · rw [List.append_assoc]
    exact slice_middle hmagic (by omega)
  · exact slice_middle (by rw [List.length_append]; omega) (by omega)
  · rw [← List.append_nil (_ ++ tag.1)]
    exact slice_middle (by simp only [List.length_append]; omega) (by omega)

/-- An envelope that is long enough is made of the slices that the opening takes. -/
lemma append_slices {envelope : Bytes} (hmin : 33 ≤ envelope.length)
    (hmagic : walletRecordMagic <+: envelope) :
    envelope = walletRecordMagic ++ slice 5 17 envelope ++
      slice 17 (envelope.length - 16) envelope ++
      slice (envelope.length - 16) envelope.length envelope := by
  have hstart : walletRecordMagic = slice 0 5 envelope := eq_slice_of_prefix hmagic
  rw [hstart, slice_append (by omega) (by omega), slice_append (by omega) (by omega),
    slice_append (by omega) (by omega), slice_length]

/-- **What opens**: an envelope of four pieces, of which the cipher opens the last two. -/
theorem decryptWalletRecord_eq_ok_iff {envelope passphrase plaintext : Bytes} :
    decryptWalletRecord cipher digest envelope passphrase = .ok plaintext ↔
      ∃ (nonce : FixedBytes 12) (ciphertext : Bytes) (tag : FixedBytes 16),
        envelope = walletRecordMagic ++ nonce.1 ++ ciphertext ++ tag.1 ∧
        cipher.decrypt (digest passphrase) nonce ciphertext tag = some plaintext := by
  constructor
  · intro h
    rw [decryptWalletRecord] at h
    split at h
    · cases h
    · rename_i hguard
      rw [not_or, not_lt, Bool.not_eq_false, List.isPrefixOf_iff_prefix] at hguard
      obtain ⟨hlength, hmagic⟩ := hguard
      dsimp only at h
      split at h
      · rename_i plaintext' hopen
        obtain rfl := Except.ok.inj h
        exact ⟨_, _, _, append_slices hlength hmagic, hopen⟩
      · cases h
  · rintro ⟨nonce, ciphertext, tag, rfl, hopen⟩
    obtain ⟨hlength, hnonce, hciphertext, htag⟩ := slices_envelope nonce ciphertext tag
    have hmagic : walletRecordMagic.length = 5 := rfl
    have hstart : walletRecordMagic.isPrefixOf
        (walletRecordMagic ++ nonce.1 ++ ciphertext ++ tag.1) = true := by
      rw [List.isPrefixOf_iff_prefix, List.append_assoc, List.append_assoc]
      exact List.prefix_append _ _
    rw [decryptWalletRecord, dif_neg]
    · simp only [hlength, hnonce, hciphertext, htag, Subtype.coe_eta, hopen]
    · rw [hstart, hlength, hmagic]
      simp

/-- What is sealed is an envelope of four pieces. -/
lemma encryptWalletRecord_eq_ok_iff {nonce : FixedBytes 12}
    {plaintext passphrase envelope : Bytes} :
    encryptWalletRecord cipher digest (.ok nonce) plaintext passphrase = .ok envelope ↔
      ∃ (ciphertext : Bytes) (tag : FixedBytes 16),
        envelope = walletRecordMagic ++ nonce.1 ++ ciphertext ++ tag.1 ∧
        cipher.encrypt (digest passphrase) nonce plaintext = (ciphertext, tag) := by
  obtain ⟨⟨ciphertext, tag⟩, hseal⟩ :
      ∃ sealed, cipher.encrypt (digest passphrase) nonce plaintext = sealed := ⟨_, rfl⟩
  simp only [encryptWalletRecord, hseal, Except.ok.injEq]
  constructor
  · rintro rfl
    exact ⟨ciphertext, tag, rfl, rfl⟩
  · rintro ⟨_, _, rfl, hsealed⟩
    cases hsealed
    rfl

variable (cipher digest)

/-- **What was sealed opens**, to the same plaintext under the same passphrase. -/
theorem decryptWalletRecord_encryptWalletRecord {nonce : FixedBytes 12}
    {plaintext passphrase envelope : Bytes}
    (h : encryptWalletRecord cipher digest (.ok nonce) plaintext passphrase = .ok envelope) :
    decryptWalletRecord cipher digest envelope passphrase = .ok plaintext := by
  obtain ⟨ciphertext, tag, henvelope, hseal⟩ := encryptWalletRecord_eq_ok_iff.mp h
  exact decryptWalletRecord_eq_ok_iff.mpr
    ⟨nonce, ciphertext, tag, henvelope, (cipher.decrypt_eq_some_iff _ _ _ _ _).mpr hseal⟩

end Cipher

/-! ## Indexing

The same with the slices of Rust, none of which is out of range. -/

/-- `&b[i..j]`; `none` is a panic. -/
def slice? (i j : ℕ) (b : Bytes) : Option Bytes :=
  if i ≤ j ∧ j ≤ b.length then some (slice i j b) else none

/-- The difference of two lengths; `none` is an overflow. -/
def sub? (m n : ℕ) : Option ℕ := if n ≤ m then some (m - n) else none

/-- A byte string as one of `n` bytes. -/
def fixed? (n : ℕ) (b : Bytes) : Option (FixedBytes n) :=
  if h : b.length = n then some ⟨b, h⟩ else none

/-- The buffer for the output of a `Crypter`: one block longer than the input. -/
def crypterBuffer (inputLength : ℕ) : Bytes :=
  let blockSize := 1
  List.replicate (inputLength + blockSize) 0

section Indexed

variable (cipher : Aead) (digest : Bytes → FixedBytes 32)

/-- `encrypt_wallet_record` with its indexing. -/
def encryptWalletRecordIndexed (random : Except String (FixedBytes 12))
    (plaintext passphrase : Bytes) : Option (WalletResult Bytes) :=
  match random with
  | .error e => some (.error (.executionFailed ("Failed to generate nonce: " ++ e)))
  | .ok nonce => do
    let (ciphertext, tag) := cipher.encrypt (digest passphrase) nonce plaintext
    let buffer := crypterBuffer plaintext.length
    -- `update` writes a byte for every byte, and `finalize` gets the rest of the buffer
    let count := plaintext.length
    let _ ← slice? count buffer.length buffer
    some (.ok (walletRecordMagic ++ nonce.1 ++ ciphertext.take count ++ tag.1))

/-- `decrypt_wallet_record` with its indexing. -/
def decryptWalletRecordIndexed (envelope passphrase : Bytes) : Option (WalletResult Bytes) :=
  let minimumLength := walletRecordMagic.length + 12 + 16
  if envelope.length < minimumLength ∨ walletRecordMagic.isPrefixOf envelope = false then
    some (.error (.executionFailed "Invalid wallet record envelope"))
  else do
    let nonceStart := walletRecordMagic.length
    let nonceEnd := nonceStart + 12
    let tagStart ← sub? envelope.length 16
    let nonce ← (slice? nonceStart nonceEnd envelope).bind (fixed? 12)
    let tag ← (slice? tagStart envelope.length envelope).bind (fixed? 16)
    let ciphertext ← slice? nonceEnd tagStart envelope
    let buffer := crypterBuffer ciphertext.length
    let count := ciphertext.length
    let _ ← slice? count buffer.length buffer
    match cipher.decrypt (digest passphrase) nonce ciphertext tag with
    | some plaintext => some (.ok (plaintext.take count))
    | none => some (.error (.executionFailed "Wallet record authentication failed"))

lemma slice?_of_le {i j : ℕ} {b : Bytes} (hij : i ≤ j) (hj : j ≤ b.length) :
    slice? i j b = some (slice i j b) :=
  if_pos ⟨hij, hj⟩

lemma fixed?_slice {n i j : ℕ} {b : Bytes} (hij : i ≤ j) (hj : j ≤ b.length) (hn : j - i = n) :
    (slice? i j b).bind (fixed? n) = some ⟨slice i j b, (length_slice hj).trans hn⟩ := by
  rw [slice?_of_le hij hj, Option.bind_some, fixed?, dif_pos]

lemma slice?_crypterBuffer (n : ℕ) :
    ∃ rest, slice? n (crypterBuffer n).length (crypterBuffer n) = some rest :=
  ⟨_, slice?_of_le (by simp [crypterBuffer]) le_rfl⟩

variable {cipher}

lemma encryptWalletRecordIndexed_eq (hlength : cipher.LengthPreserving)
    (random : Except String (FixedBytes 12)) (plaintext passphrase : Bytes) :
    encryptWalletRecordIndexed cipher digest random plaintext passphrase =
      some (encryptWalletRecord cipher digest random plaintext passphrase) := by
  cases random with
  | error e => rfl
  | ok nonce =>
    obtain ⟨rest, hrest⟩ := slice?_crypterBuffer plaintext.length
    have htake : (cipher.encrypt (digest passphrase) nonce plaintext).1.take plaintext.length =
        (cipher.encrypt (digest passphrase) nonce plaintext).1 :=
      List.take_of_length_le (hlength _ _ _).le
    simp only [encryptWalletRecordIndexed, encryptWalletRecord, hrest, htake, bind,
      Option.bind_some]

/-- **No index is out of range**, whatever the length of the envelope. -/
lemma decryptWalletRecordIndexed_eq (hlength : cipher.LengthPreserving)
    (envelope passphrase : Bytes) :
    decryptWalletRecordIndexed cipher digest envelope passphrase =
      some (decryptWalletRecord cipher digest envelope passphrase) := by
  by_cases hguard : envelope.length < walletRecordMagic.length + 12 + 16 ∨
      walletRecordMagic.isPrefixOf envelope = false
  · rw [decryptWalletRecordIndexed, if_pos hguard, decryptWalletRecord, dif_pos hguard]
  · have hmin : 33 ≤ envelope.length := Nat.not_lt.mp fun h => hguard (.inl h)
    have hmagic : walletRecordMagic.length = 5 := rfl
    obtain ⟨rest, hrest⟩ :=
      slice?_crypterBuffer (slice 17 (envelope.length - 16) envelope).length
    have hsub : sub? envelope.length 16 = some (envelope.length - 16) := if_pos (by omega)
    have hnonce := fixed?_slice (n := 12) (i := 5) (j := 17) (b := envelope) (by decide)
      (by omega) rfl
    have htag := fixed?_slice (n := 16) (i := envelope.length - 16) (j := envelope.length)
      (b := envelope) (by omega) le_rfl (by omega)
    have hciphertext := slice?_of_le (i := 17) (j := envelope.length - 16) (b := envelope)
      (by omega) (by omega)
    rw [decryptWalletRecordIndexed, if_neg hguard, decryptWalletRecord, dif_neg hguard]
    simp only [hmagic, Nat.reduceAdd, hsub, hnonce, htag, hciphertext, hrest, bind,
      Option.bind_some]
    split
    · rename_i plaintext hopen
      have hsame := hlength.length_eq hopen
      simp only [hopen]
      rw [List.take_of_length_le hsame.ge]
    · rename_i hopen
      simp only [hopen]

/-- **The codec is exact**, for a cipher that adds nothing to the length of a plaintext.  A byte
string opens to a plaintext if and only if it is the envelope of that plaintext under some nonce,
and then it is 33 bytes longer; everything else is an error; and neither side ever indexes out of
range. -/
theorem walletRecord_codec (hlength : cipher.LengthPreserving)
    (envelope passphrase plaintext : Bytes) :
    (decryptWalletRecord cipher digest envelope passphrase = .ok plaintext ↔
      ∃ nonce, encryptWalletRecord cipher digest (.ok nonce) plaintext passphrase =
        .ok envelope) ∧
    (decryptWalletRecord cipher digest envelope passphrase = .ok plaintext →
      envelope.length = plaintext.length + 33) ∧
    ((¬ ∃ plaintext' nonce, encryptWalletRecord cipher digest (.ok nonce) plaintext' passphrase =
        .ok envelope) → ∃ e, decryptWalletRecord cipher digest envelope passphrase = .error e) ∧
    decryptWalletRecordIndexed cipher digest envelope passphrase =
      some (decryptWalletRecord cipher digest envelope passphrase) ∧
    ∀ random, encryptWalletRecordIndexed cipher digest random plaintext passphrase =
      some (encryptWalletRecord cipher digest random plaintext passphrase) := by
  have hexact : ∀ plaintext', decryptWalletRecord cipher digest envelope passphrase =
      .ok plaintext' ↔ ∃ nonce, encryptWalletRecord cipher digest (.ok nonce) plaintext'
        passphrase = .ok envelope := by
    intro plaintext'
    simp only [decryptWalletRecord_eq_ok_iff, encryptWalletRecord_eq_ok_iff,
      cipher.decrypt_eq_some_iff]
  refine ⟨hexact plaintext, ?_, ?_, decryptWalletRecordIndexed_eq digest hlength _ _,
    fun random => encryptWalletRecordIndexed_eq digest hlength random _ _⟩
  · intro h
    obtain ⟨nonce, ciphertext, tag, rfl, hopen⟩ := decryptWalletRecord_eq_ok_iff.mp h
    have hsame := hlength.length_eq hopen
    have hnonce := nonce.2
    have htag := tag.2
    have hmagic : walletRecordMagic.length = 5 := rfl
    simp only [List.length_append]
    omega
  · intro h
    cases hdecrypt : decryptWalletRecord cipher digest envelope passphrase with
    | error e => exact ⟨e, rfl⟩
    | ok plaintext' => exact absurd ⟨plaintext', (hexact plaintext').mp hdecrypt⟩ h

/-- A record that is sealed and opened again. -/
theorem walletRecord_codec_opened :
    ∃ envelope, encryptWalletRecord .aes256Gcm sha256 (.ok ⟨List.replicate 12 9, rfl⟩)
        (Bytes.utf8 "alice, clearance 3") (Bytes.utf8 "correct horse") = .ok envelope ∧
      decryptWalletRecord .aes256Gcm sha256 envelope (Bytes.utf8 "correct horse") =
        .ok (Bytes.utf8 "alice, clearance 3") ∧
      envelope.length = 51 := by
  obtain ⟨envelope, hencrypt⟩ := exists_encryptWalletRecord .aes256Gcm sha256
    ⟨List.replicate 12 9, rfl⟩ (Bytes.utf8 "alice, clearance 3") (Bytes.utf8 "correct horse")
  obtain ⟨hexact, hlength, -⟩ := walletRecord_codec sha256 Aead.lengthPreserving_aes256Gcm
    envelope (Bytes.utf8 "correct horse") (Bytes.utf8 "alice, clearance 3")
  have hdecrypt := hexact.mpr ⟨_, hencrypt⟩
  exact ⟨envelope, hencrypt, hdecrypt, (hlength hdecrypt).trans (by decide)⟩

end Indexed

end DZTA
