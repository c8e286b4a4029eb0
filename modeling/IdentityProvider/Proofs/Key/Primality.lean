import Mathlib.NumberTheory.LucasPrimality
import Mathlib.Tactic.NormNum.Prime
import IdentityProvider.Proofs.Key.Material
/-! Primes that are seen to be prime by the powers of one number, and a key made of two of them. -/

namespace IdentityProvider

lemma prime_of_powMod {p : Nat} (a : Nat) (hp : 1 < p) (ha : powMod a (p - 1) p = 1)
    (hd : ∀ q : Nat, q.Prime → q ∣ p - 1 → powMod a ((p - 1) / q) p ≠ 1) : p.Prime := by
  have hcast : ∀ n : Nat, (a : ZMod p) ^ n = 1 ↔ powMod a n p = 1 := by
    intro n
    have hone : (1 : ZMod p) = ((1 : Nat) : ZMod p) := Nat.cast_one.symm
    rw [hone, ← Nat.cast_pow, ZMod.natCast_eq_natCast_iff', powMod_eq, Nat.mod_eq_of_lt hp]
  apply lucas_primality p a ((hcast _).mpr ha)
  intro q hq hqd h
  exact hd q hq hqd ((hcast _).mp h)

lemma prime_of_two_factors {p a r k l : Nat} (hr : r.Prime) (hp : p = r ^ k * 2 ^ l + 1)
    (ha : powMod a (p - 1) p = 1) (har : powMod a ((p - 1) / r) p ≠ 1) (ha2 : powMod a ((p - 1) / 2) p ≠ 1) :
    p.Prime := by
  have hpos : 0 < r ^ k * 2 ^ l := Nat.mul_pos (Nat.pow_pos hr.pos) (Nat.pow_pos (by omega))
  have hsub : p - 1 = r ^ k * 2 ^ l := by omega
  apply prime_of_powMod a (by omega) ha
  intro q hq hd
  rw [hsub, hq.dvd_mul] at hd
  rcases hd with hd | hd
  · rw [(Nat.prime_dvd_prime_iff_eq hq hr).mp (hq.dvd_of_dvd_pow hd)]
    exact har
  · rw [(Nat.prime_dvd_prime_iff_eq hq Nat.prime_two).mp (hq.dvd_of_dvd_pow hd)]
    exact ha2

namespace RsaPrivateKey

structure SignsAll (key : RsaPrivateKey) : Prop where
  usable : key.isUsable = true
  usableWithSha1 : key.isUsableWithSha1 = true
  primes : key.HasPrimes

def sample : RsaPrivateKey :=
  let p := 11 ^ 3 * 2 ^ 1013 + 1
  let q := 3931 ^ 1 * 2 ^ 1012 + 1
  { modulus := p * q, publicExponent := 3, privateExponent := (2 * (11 ^ 3 * 3931 * 2 ^ 1013) + 1) / 3
    prime1 := p, prime2 := q, exponent1 := (2 * (p - 1) + 1) / 3, exponent2 := (2 * (q - 1) + 1) / 3
    coefficient := powMod q (p - 2) p }

set_option maxRecDepth 20000 in
lemma sample_hasPrimes : sample.HasPrimes where
  first := prime_of_two_factors (a := 3) (r := 11) (k := 3) (l := 1013) (by decide) rfl (by decide +kernel)
    (by decide +kernel) (by decide +kernel)
  second := prime_of_two_factors (a := 3) (r := 3931) (k := 1) (l := 1012) (by norm_num) rfl
    (by decide +kernel) (by decide +kernel) (by decide +kernel)
  distinct := by decide +kernel

set_option maxRecDepth 20000 in
lemma sample_signsAll : sample.SignsAll where
  usable := by decide +kernel
  usableWithSha1 := by decide +kernel
  primes := sample_hasPrimes

end RsaPrivateKey

end IdentityProvider
