import Dzta.Library.Bytes

/-!
# Authenticated encryption: AES-256-GCM

An authenticated cipher (`Aead`) takes a key, a nonce and a plaintext to a ciphertext and a tag.
Opening gives the plaintext back and **opens nothing else**: what opens to a plaintext is exactly
what encrypting that plaintext gives (`decrypt_eq_some_iff`).  That is a statement about one key and
one nonce, not about how hard it is to forge.

The instance is AES-256 in Galois counter mode without associated data, executable and total: the
block cipher of FIPS 197, counter mode, and the tag over the ciphertext in the field of `2 ^ 128`
elements.  Counter mode is an exclusive or with a stream that does not depend on the data, so it is
its own inverse (`ctr_ctr`).
-/

/-- A cipher with keys of 32 bytes, nonces of 12 and tags of 16. -/
structure Aead where
  encrypt : FixedBytes 32 → FixedBytes 12 → Bytes → Bytes × FixedBytes 16
  decrypt : FixedBytes 32 → FixedBytes 12 → Bytes → FixedBytes 16 → Option Bytes
  decrypt_eq_some_iff : ∀ key nonce ciphertext tag plaintext,
    decrypt key nonce ciphertext tag = some plaintext ↔
      encrypt key nonce plaintext = (ciphertext, tag)

/-- A cipher that adds nothing to the length of a plaintext. -/
def Aead.LengthPreserving (cipher : Aead) : Prop :=
  ∀ key nonce plaintext, (cipher.encrypt key nonce plaintext).1.length = plaintext.length

lemma Aead.LengthPreserving.length_eq {cipher : Aead} (h : cipher.LengthPreserving)
    {key : FixedBytes 32} {nonce : FixedBytes 12} {ciphertext plaintext : Bytes}
    {tag : FixedBytes 16} (hopen : cipher.decrypt key nonce ciphertext tag = some plaintext) :
    ciphertext.length = plaintext.length := by
  have hlength := h key nonce plaintext
  rwa [(cipher.decrypt_eq_some_iff _ _ _ _ _).mp hopen] at hlength

namespace Aes

/-! ## The block cipher

AES with keys of 256 bits, byte by byte. -/

/-- The substitution box. -/
def sbox : List UInt8 :=
  [0x63, 0x7c, 0x77, 0x7b, 0xf2, 0x6b, 0x6f, 0xc5, 0x30, 0x01, 0x67, 0x2b, 0xfe, 0xd7, 0xab, 0x76,
   0xca, 0x82, 0xc9, 0x7d, 0xfa, 0x59, 0x47, 0xf0, 0xad, 0xd4, 0xa2, 0xaf, 0x9c, 0xa4, 0x72, 0xc0,
   0xb7, 0xfd, 0x93, 0x26, 0x36, 0x3f, 0xf7, 0xcc, 0x34, 0xa5, 0xe5, 0xf1, 0x71, 0xd8, 0x31, 0x15,
   0x04, 0xc7, 0x23, 0xc3, 0x18, 0x96, 0x05, 0x9a, 0x07, 0x12, 0x80, 0xe2, 0xeb, 0x27, 0xb2, 0x75,
   0x09, 0x83, 0x2c, 0x1a, 0x1b, 0x6e, 0x5a, 0xa0, 0x52, 0x3b, 0xd6, 0xb3, 0x29, 0xe3, 0x2f, 0x84,
   0x53, 0xd1, 0x00, 0xed, 0x20, 0xfc, 0xb1, 0x5b, 0x6a, 0xcb, 0xbe, 0x39, 0x4a, 0x4c, 0x58, 0xcf,
   0xd0, 0xef, 0xaa, 0xfb, 0x43, 0x4d, 0x33, 0x85, 0x45, 0xf9, 0x02, 0x7f, 0x50, 0x3c, 0x9f, 0xa8,
   0x51, 0xa3, 0x40, 0x8f, 0x92, 0x9d, 0x38, 0xf5, 0xbc, 0xb6, 0xda, 0x21, 0x10, 0xff, 0xf3, 0xd2,
   0xcd, 0x0c, 0x13, 0xec, 0x5f, 0x97, 0x44, 0x17, 0xc4, 0xa7, 0x7e, 0x3d, 0x64, 0x5d, 0x19, 0x73,
   0x60, 0x81, 0x4f, 0xdc, 0x22, 0x2a, 0x90, 0x88, 0x46, 0xee, 0xb8, 0x14, 0xde, 0x5e, 0x0b, 0xdb,
   0xe0, 0x32, 0x3a, 0x0a, 0x49, 0x06, 0x24, 0x5c, 0xc2, 0xd3, 0xac, 0x62, 0x91, 0x95, 0xe4, 0x79,
   0xe7, 0xc8, 0x37, 0x6d, 0x8d, 0xd5, 0x4e, 0xa9, 0x6c, 0x56, 0xf4, 0xea, 0x65, 0x7a, 0xae, 0x08,
   0xba, 0x78, 0x25, 0x2e, 0x1c, 0xa6, 0xb4, 0xc6, 0xe8, 0xdd, 0x74, 0x1f, 0x4b, 0xbd, 0x8b, 0x8a,
   0x70, 0x3e, 0xb5, 0x66, 0x48, 0x03, 0xf6, 0x0e, 0x61, 0x35, 0x57, 0xb9, 0x86, 0xc1, 0x1d, 0x9e,
   0xe1, 0xf8, 0x98, 0x11, 0x69, 0xd9, 0x8e, 0x94, 0x9b, 0x1e, 0x87, 0xe9, 0xce, 0x55, 0x28, 0xdf,
   0x8c, 0xa1, 0x89, 0x0d, 0xbf, 0xe6, 0x42, 0x68, 0x41, 0x99, 0x2d, 0x0f, 0xb0, 0x54, 0xbb, 0x16]

def subBytes (bs : Bytes) : Bytes := bs.map fun b => sbox.getD b.toNat 0

/-- Bytewise exclusive or. -/
def xor (x y : Bytes) : Bytes := List.zipWith (· ^^^ ·) x y

/-- Multiplication by `x` in the field of 256 elements. -/
def xtime (b : UInt8) : UInt8 := (b <<< 1) ^^^ (if b < 0x80 then 0 else 0x1b)

/-- The word before and the word eight places before determine the next word of the key schedule,
which is kept with its last word first. -/
def nextWord (i : ℕ) (ws : List Bytes) : Bytes :=
  let last := ws.getD 0 []
  let mixed :=
    if i % 8 = 0 then
      xor (subBytes (last.rotateLeft 1)) [UInt8.ofNat (2 ^ (i / 8 - 1)), 0, 0, 0]
    else if i % 8 = 4 then subBytes last
    else last
  xor (ws.getD 7 []) mixed

/-- Extends a key schedule of `i` words by `n`. -/
def expand : (n i : ℕ) → List Bytes → List Bytes
  | 0, _, ws => ws
  | n + 1, i, ws => expand n (i + 1) (nextWord i ws :: ws)

/-- A byte string cut into `n` pieces of `k` bytes. -/
def chunks (k : ℕ) : (n : ℕ) → Bytes → List Bytes
  | 0, _ => []
  | n + 1, bs => bs.take k :: chunks k n (bs.drop k)

/-- The fifteen round keys. -/
def roundKeys (key : FixedBytes 32) : List Bytes :=
  chunks 16 15 (expand 52 8 (chunks 4 8 key.1).reverse).reverse.flatten

/-- Row `r` of the state, which is kept column by column, is rotated by `r`. -/
def shiftRows (s : Bytes) : Bytes := (List.range 16).map fun i => s.getD ((i + 4 * (i % 4)) % 16) 0

def mixColumn : Bytes → Bytes
  | [a, b, c, d] =>
    [xtime a ^^^ xtime b ^^^ b ^^^ c ^^^ d, a ^^^ xtime b ^^^ xtime c ^^^ c ^^^ d,
     a ^^^ b ^^^ xtime c ^^^ xtime d ^^^ d, xtime a ^^^ a ^^^ b ^^^ c ^^^ xtime d]
  | column => column

def mixColumns (s : Bytes) : Bytes := (chunks 4 4 s).flatMap mixColumn

def round (s key : Bytes) : Bytes := xor (mixColumns (shiftRows (subBytes s))) key

/-- One block of 16 bytes under a key. -/
def encryptBlock (key : FixedBytes 32) (block : Bytes) : Bytes :=
  match roundKeys key with
  | [] => block
  | first :: rest =>
    let s := rest.dropLast.foldl round (xor block first)
    xor (shiftRows (subBytes s)) (rest.getLastD [])

end Aes

namespace AesGcm

/-! ## Galois counter mode

Counters for the text, and a tag over all of it. -/

/-- The number a byte string denotes, most significant byte first. -/
def beNat (b : Bytes) : ℕ := Bytes.leNat b.reverse

/-- The `k` low bytes of a number, most significant first. -/
def beBytes (k n : ℕ) : Bytes := (Bytes.leBytes k n).reverse

/-- Multiplication in the field of `2 ^ 128` elements, where the highest bit is the coefficient of
1: adds the multiples of `v` that the `n` low bits of `x` select. -/
def mulFrom (x : ℕ) : (n z v : ℕ) → ℕ
  | 0, z, _ => z
  | n + 1, z, v =>
    mulFrom x n (if x.testBit n then z ^^^ v else z)
      ((v >>> 1) ^^^ (if v.testBit 0 then 0xe1 <<< 120 else 0))

def mul (x y : ℕ) : ℕ := mulFrom x 128 0 y

/-- Hashes blocks of 16 bytes; the last one is padded with zeros. -/
def ghash (h : ℕ) (y : ℕ) (blocks : List Bytes) : ℕ :=
  blocks.foldl (fun y b => mul (y ^^^ beNat (b ++ List.replicate (16 - b.length) 0)) h) y

/-- The counter block with a number. -/
def counterBlock (nonce : FixedBytes 12) (i : ℕ) : Bytes := nonce.1 ++ beBytes 4 i

/-- The key stream for `n` bytes. -/
def keyStream (key : FixedBytes 32) (nonce : FixedBytes 12) (n : ℕ) : Bytes :=
  (List.range ((n + 15) / 16)).flatMap fun i => Aes.encryptBlock key (counterBlock nonce (i + 2))

/-- Counter mode. -/
def ctr (key : FixedBytes 32) (nonce : FixedBytes 12) (data : Bytes) : Bytes :=
  let stream := keyStream key nonce data.length
  data.mapIdx fun i b => b ^^^ stream.getD i 0

/-- The tag of a ciphertext. -/
def tag (key : FixedBytes 32) (nonce : FixedBytes 12) (ciphertext : Bytes) : FixedBytes 16 :=
  let h := beNat (Aes.encryptBlock key (List.replicate 16 0))
  let blocks := Aes.chunks 16 ((ciphertext.length + 15) / 16) ciphertext
  let hash := mul (ghash h 0 blocks ^^^ (8 * ciphertext.length)) h
  ⟨beBytes 16 (hash ^^^ beNat (Aes.encryptBlock key (counterBlock nonce 1))), by simp [beBytes]⟩

/-- **Counter mode is its own inverse.** -/
@[simp] theorem ctr_ctr (key : FixedBytes 32) (nonce : FixedBytes 12) (data : Bytes) :
    ctr key nonce (ctr key nonce data) = data := by
  simp only [ctr, List.length_mapIdx, List.mapIdx_mapIdx]
  refine List.ext_getElem (by simp) fun i h _ => ?_
  simp only [List.getElem_mapIdx, Function.comp_apply, UInt8.xor_assoc, UInt8.xor_self,
    UInt8.xor_zero]

def encrypt (key : FixedBytes 32) (nonce : FixedBytes 12) (plaintext : Bytes) :
    Bytes × FixedBytes 16 :=
  let ciphertext := ctr key nonce plaintext
  (ciphertext, tag key nonce ciphertext)

def decrypt (key : FixedBytes 32) (nonce : FixedBytes 12) (ciphertext : Bytes)
    (expected : FixedBytes 16) : Option Bytes :=
  if tag key nonce ciphertext = expected then some (ctr key nonce ciphertext) else none

end AesGcm

/-- **AES-256-GCM opens exactly what it sealed.** -/
def Aead.aes256Gcm : Aead where
  encrypt := AesGcm.encrypt
  decrypt := AesGcm.decrypt
  decrypt_eq_some_iff key nonce ciphertext tag plaintext := by
    constructor
    · intro h
      rw [AesGcm.decrypt] at h
      split at h
      · rename_i htag
        obtain rfl := Option.some.inj h
        rw [AesGcm.encrypt, AesGcm.ctr_ctr, htag]
      · cases h
    · intro h
      obtain ⟨rfl, rfl⟩ := Prod.mk.inj h
      rw [AesGcm.decrypt, if_pos rfl, AesGcm.ctr_ctr]

lemma Aead.lengthPreserving_aes256Gcm : Aead.aes256Gcm.LengthPreserving := by
  intro key nonce plaintext
  exact List.length_mapIdx

example : AesGcm.encrypt ⟨List.replicate 32 0, rfl⟩ ⟨List.replicate 12 0, rfl⟩
      (List.replicate 16 0) =
    ([0xce, 0xa7, 0x40, 0x3d, 0x4d, 0x60, 0x6b, 0x6e, 0x07, 0x4e, 0xc5, 0xd3, 0xba, 0xf3, 0x9d,
      0x18],
     ⟨[0xd0, 0xd1, 0xc8, 0xa7, 0x99, 0x99, 0x6b, 0xf0, 0x26, 0x5b, 0x98, 0xb5, 0xd4, 0x8a, 0xb9,
       0x19], rfl⟩) := by
  decide +kernel
