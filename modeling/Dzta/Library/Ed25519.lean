import Dzta.Library.Sha256

/-!
# Ed25519

Signatures with keys that are made from a seed.  Key, signature and seed have fixed lengths, a
verifier may refuse a byte string of the right length that is no key, and **what a seed signs is
accepted** under its key.  Nothing is assumed about what else is accepted.
-/

/-- Ed25519.  An error carries its text. -/
structure Ed25519 where
  publicKey : (seed : FixedBytes 32) → FixedBytes 32
  sign : (seed : FixedBytes 32) → Bytes → FixedBytes 64
  checkKey : FixedBytes 32 → Except String Unit
  verify : FixedBytes 32 → Bytes → FixedBytes 64 → Except String Unit
  checkKey_publicKey : ∀ seed, checkKey (publicKey seed) = .ok ()
  verify_sign : ∀ seed message, verify (publicKey seed) message (sign seed message) = .ok ()

namespace Ed25519

/-- The signature of a message under a key: that of a table, and otherwise the key and the digest of
the message. -/
def tabled (signatures : List ((FixedBytes 32 × Bytes) × FixedBytes 64)) (key : FixedBytes 32)
    (message : Bytes) : FixedBytes 64 :=
  (signatures.lookup (key, message)).getD
    ⟨key.1 ++ (sha256 message).1, by simp [key.2, (sha256 message).2]⟩

/-- Keys and signatures from tables, which hold what was computed for the seeds and messages of a
test.  The key of another seed is its digest. -/
def ofTables (keys : List (FixedBytes 32 × FixedBytes 32))
    (signatures : List ((FixedBytes 32 × Bytes) × FixedBytes 64)) : Ed25519 where
  publicKey seed := (keys.lookup seed).getD (sha256 seed.1)
  sign seed := tabled signatures ((keys.lookup seed).getD (sha256 seed.1))
  checkKey _ := .ok ()
  verify key message signature :=
    if signature = tabled signatures key message then .ok () else .error "signature error"
  checkKey_publicKey _ := rfl
  verify_sign _ _ := if_pos rfl

end Ed25519
