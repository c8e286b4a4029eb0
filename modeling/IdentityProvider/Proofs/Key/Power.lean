import Mathlib.FieldTheory.Finite.Basic
import IdentityProvider.Key.Rsa
/-! Powers modulo a product of two primes: the two exponents of a key undo each other. -/

namespace IdentityProvider

lemma powMod_eq (base exponent modulus : Nat) : powMod base exponent modulus = base ^ exponent % modulus := by
  induction exponent using Nat.strongRecOn with
  | _ n ih =>
    rw [powMod]
    by_cases hn : n = 0
    · rw [if_pos hn, hn, Nat.pow_zero]
    · rw [if_neg hn]
      have hsquare : powMod base (n / 2) modulus * powMod base (n / 2) modulus % modulus =
          base ^ (2 * (n / 2)) % modulus := by
        rw [ih (n / 2) (by omega), ← Nat.mul_mod, ← Nat.pow_add, Nat.two_mul]
      dsimp only
      rw [hsquare]
      rcases Nat.mod_two_eq_zero_or_one n with h | h
      · have he : 2 * (n / 2) = n := by omega
        rw [if_pos h, he]
      · have ho : 2 * (n / 2) + 1 = n := by omega
        rw [if_neg (by omega), Nat.mod_mul_mod, ← Nat.pow_succ, Nat.succ_eq_add_one, ho]

lemma powMod_powMod (base d e modulus : Nat) :
    powMod (powMod base d modulus) e modulus = base ^ (d * e) % modulus := by
  rw [powMod_eq, powMod_eq, ← Nat.pow_mod, Nat.pow_mul]

lemma pow_modEq_self {p a : Nat} (hp : p.Prime) (ha : 0 < a) (hd : p - 1 ∣ a - 1) (x : Nat) :
    x ^ a ≡ x [MOD p] := by
  have hfact : Fact p.Prime := ⟨hp⟩
  obtain ⟨k, hk⟩ := hd
  have ha' : a = (p - 1) * k + 1 := by omega
  rw [← ZMod.natCast_eq_natCast_iff, Nat.cast_pow, ha', pow_succ, pow_mul]
  by_cases hx : (x : ZMod p) = 0
  · rw [hx, mul_zero]
  · rw [ZMod.pow_card_sub_one_eq_one hx, one_pow, one_mul]

lemma pow_mod_self {p q a x : Nat} (hp : p.Prime) (hq : q.Prime) (hne : p ≠ q) (ha : 0 < a)
    (hpd : p - 1 ∣ a - 1) (hqd : q - 1 ∣ a - 1) (hx : x < p * q) : x ^ a % (p * q) = x := by
  have hm : x ^ a ≡ x [MOD p * q] :=
    (Nat.modEq_and_modEq_iff_modEq_mul ((Nat.coprime_primes hp hq).mpr hne)).mp
      ⟨pow_modEq_self hp ha hpd x, pow_modEq_self hq ha hqd x⟩
  exact Nat.mod_eq_of_modEq hm hx

namespace RsaPrivateKey

structure HasPrimes (key : RsaPrivateKey) : Prop where
  first : key.prime1.Prime
  second : key.prime2.Prime
  distinct : key.prime1 ≠ key.prime2

lemma powMod_apply {key : RsaPrivateKey} (hf : key.fitsTogether = true) (hp : key.HasPrimes) {m : Nat}
    (hm : m < key.modulus) : powMod (key.apply m) key.publicExponent key.modulus = m := by
  simp only [fitsTogether, Bool.and_eq_true, decide_eq_true_eq, beq_iff_eq] at hf
  obtain ⟨⟨⟨⟨_, hn⟩, hpos⟩, h1⟩, h2⟩ := hf
  rw [apply, powMod_powMod, ← hn]
  rw [← hn] at hm
  exact pow_mod_self hp.first hp.second hp.distinct hpos (Nat.dvd_of_mod_eq_zero h1) (Nat.dvd_of_mod_eq_zero h2) hm

end RsaPrivateKey

end IdentityProvider
