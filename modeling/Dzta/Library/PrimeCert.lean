import Mathlib.NumberTheory.LucasPrimality
import Mathlib.Data.Nat.Size

/-!
# Primality certificates

A number is proved prime from a primitive root and the factorization of its predecessor (Lucas).
The powers that the test asks for are computed by `powMod`, which squares and reduces, so that the
kernel evaluates them on numbers of a few hundred bits; **`prime_of_certificate`** turns the
computation into a proof.
-/

namespace PrimeCert

/-- `a ^ n % m`, by squaring, for exponents of at most `k` bits. -/
def powMod (m : ℕ) : (k : ℕ) → ℕ → ℕ → ℕ
  | 0, _, _ => 1 % m
  | k + 1, a, n =>
    if n % 2 = 0 then powMod m k (a * a % m) (n / 2)
    else a * powMod m k (a * a % m) (n / 2) % m

lemma powMod_eq (m k a n : ℕ) (h : n < 2 ^ k) : powMod m k a n = a ^ n % m := by
  induction k generalizing a n with
  | zero =>
    obtain rfl : n = 0 := by simpa using h
    rw [powMod, pow_zero]
  | succ k ih =>
    have hhalf : n / 2 < 2 ^ k := by
      rw [pow_succ] at h
      omega
    have hsquare : (a * a % m) ^ (n / 2) % m = a ^ (2 * (n / 2)) % m := by
      rw [← Nat.pow_mod, pow_mul, pow_two]
    rw [powMod, ih _ _ hhalf, hsquare]
    split
    · rename_i heven
      rw [show 2 * (n / 2) = n by omega]
    · rename_i hodd
      rw [Nat.mul_mod_mod, ← pow_succ', show 2 * (n / 2) + 1 = n by omega]

/-- The powers of the test, computed: `a` to the power `p - 1` is one, and to the power
`(p - 1) / q` it is not, for each of the factors. -/
def test (p a : ℕ) (factors : List ℕ) : Bool :=
  powMod p p.size a (p - 1) = 1 ∧ ∀ q ∈ factors, powMod p p.size a ((p - 1) / q) ≠ 1

/-- **Lucas's test.**  If the powers are right for a list that holds every prime factor of
`p - 1`, then `p` is prime. -/
theorem prime_of_certificate {p a : ℕ} {factors : List ℕ} (hp : 1 < p)
    (hfactors : ∀ q, q.Prime → q ∣ p - 1 → q ∈ factors) (htest : test p a factors = true) :
    p.Prime := by
  have hpow : ∀ n, n ≤ p - 1 → ((a : ZMod p) ^ n = 1 ↔ powMod p p.size a n = 1) := by
    intro n hn
    have hsize : n < 2 ^ p.size := lt_of_le_of_lt (by omega) (Nat.lt_size_self p)
    rw [powMod_eq _ _ _ _ hsize, ← Nat.cast_pow, ← Nat.cast_one, ZMod.natCast_eq_natCast_iff',
      Nat.mod_eq_of_lt hp]
  obtain ⟨hone, hne⟩ := of_decide_eq_true htest
  refine lucas_primality p a ((hpow _ le_rfl).mpr hone) fun q hq hdvd hroot => ?_
  exact hne q (hfactors q hq hdvd) ((hpow _ (Nat.div_le_self _ _)).mp hroot)

/-- The prime factors of a product of prime powers are among the primes. -/
lemma mem_of_dvd_prod {factors : List (ℕ × ℕ)} (hprime : ∀ f ∈ factors, f.1.Prime) {q : ℕ}
    (hq : q.Prime) (hdvd : q ∣ (factors.map fun f => f.1 ^ f.2).prod) :
    q ∈ factors.map Prod.fst := by
  obtain ⟨x, hx, hqx⟩ := (Nat.Prime.prime hq).dvd_prod_iff.mp hdvd
  obtain ⟨f, hf, rfl⟩ := List.mem_map.mp hx
  have heq := (Nat.prime_dvd_prime_iff_eq hq (hprime f hf)).mp (hq.dvd_of_dvd_pow hqx)
  exact List.mem_map.mpr ⟨f, hf, heq.symm⟩

end PrimeCert
