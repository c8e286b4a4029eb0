import Mathlib.Tactic.Common
import Mathlib.Tactic.Ring
import IdentityProvider.Bytes.Basic

namespace IdentityProvider.Bytes

lemma toNat_ofNat_of_lt {n : Nat} (h : n < 256) : (UInt8.ofNat n).toNat = n := by
  rw [UInt8.toNat_ofNat']
  exact Nat.mod_eq_of_lt h

lemma toNat_foldl (n : Nat) (bs : Bytes) :
    bs.foldl (fun n b => 256 * n + b.toNat) n = n * 256 ^ bs.length + toNat bs := by
  induction bs generalizing n with
  | nil => simp [toNat]
  | cons b bs ih =>
    have hb : toNat (b :: bs) = b.toNat * 256 ^ bs.length + toNat bs := by
      rw [toNat, List.foldl_cons, ih]
      simp
    rw [List.foldl_cons, ih, hb, List.length_cons, Nat.pow_succ]
    ring

lemma toNat_append (xs ys : Bytes) : toNat (xs ++ ys) = toNat xs * 256 ^ ys.length + toNat ys := by
  rw [toNat, List.foldl_append]
  exact toNat_foldl _ ys

lemma toNat_cons (b : UInt8) (bs : Bytes) : toNat (b :: bs) = b.toNat * 256 ^ bs.length + toNat bs := by
  have ha := toNat_append [b] bs
  simpa [toNat] using ha

lemma toNat_lt (bs : Bytes) : toNat bs < 256 ^ bs.length := by
  induction bs with
  | nil => simp [toNat]
  | cons b bs ih =>
    have hb : b.toNat + 1 ≤ 256 := b.toNat_lt
    have hm := Nat.mul_le_mul_right (256 ^ bs.length) hb
    rw [toNat_cons, List.length_cons, Nat.pow_succ]
    rw [Nat.add_mul] at hm
    omega

lemma ofNatOnto_zero (written : Bytes) : ofNatOnto written 0 = written := by
  rw [ofNatOnto, if_pos rfl]

lemma ofNatOnto_of_ne_zero (written : Bytes) {n : Nat} (h : n ≠ 0) :
    ofNatOnto written n = ofNatOnto (UInt8.ofNat (n % 256) :: written) (n / 256) := by
  rw [ofNatOnto, if_neg h]

lemma ofNatOnto_eq (written : Bytes) (n : Nat) : ofNatOnto written n = ofNat n ++ written := by
  induction n using Nat.strongRecOn generalizing written with
  | _ n ih =>
    rw [ofNat]
    by_cases hn : n = 0
    · subst hn
      rw [ofNatOnto_zero, ofNatOnto_zero, List.nil_append]
    · have hlt : n / 256 < n := by omega
      rw [ofNatOnto_of_ne_zero _ hn, ofNatOnto_of_ne_zero _ hn, ih _ hlt, ih _ hlt [UInt8.ofNat (n % 256)]]
      simp

lemma ofNat_zero : ofNat 0 = [] :=
  ofNatOnto_zero []

lemma ofNat_of_ne_zero {n : Nat} (h : n ≠ 0) : ofNat n = ofNat (n / 256) ++ [UInt8.ofNat (n % 256)] := by
  rw [ofNat, ofNatOnto_of_ne_zero _ h, ofNatOnto_eq]

lemma toNat_ofNat (n : Nat) : toNat (ofNat n) = n := by
  induction n using Nat.strongRecOn with
  | _ n ih =>
    by_cases hn : n = 0
    · subst hn
      rw [ofNat_zero]
      rfl
    · have hd : toNat [UInt8.ofNat (n % 256)] = n % 256 := by simp [toNat]
      rw [ofNat_of_ne_zero hn, toNat_append, ih _ (by omega), hd, List.length_singleton, Nat.pow_one]
      omega

lemma ofNat_ne_nil {n : Nat} (h : n ≠ 0) : ofNat n ≠ [] := by
  rw [ofNat_of_ne_zero h]
  simp

lemma ofNat_length_le {n width : Nat} (h : n < 256 ^ width) : (ofNat n).length ≤ width := by
  induction width generalizing n with
  | zero =>
    have hn : n = 0 := by simpa using h
    simp [hn, ofNat_zero]
  | succ width ih =>
    by_cases hn : n = 0
    · simp [hn, ofNat_zero]
    · have hd : n / 256 < 256 ^ width := by
        rw [Nat.pow_succ] at h
        omega
      rw [ofNat_of_ne_zero hn, List.length_append, List.length_singleton]
      exact Nat.succ_le_succ (ih hd)

lemma ofNat_head (n : Nat) : (ofNat n).head? ≠ some 0 := by
  induction n using Nat.strongRecOn with
  | _ n ih =>
    by_cases hn : n = 0
    · simp [hn, ofNat_zero]
    · rw [ofNat_of_ne_zero hn]
      by_cases hd : n / 256 = 0
      · rw [hd, ofNat_zero, List.nil_append, List.head?_cons, ne_eq, Option.some.injEq]
        intro hz
        have ht := congrArg UInt8.toNat hz
        simp at ht
        omega
      · rw [List.head?_append]
        have hh := ih (n / 256) (by omega)
        cases hc : ofNat (n / 256) with
        | nil => exact absurd hc (ofNat_ne_nil hd)
        | cons d ds =>
          rw [hc] at hh
          simpa using hh

lemma ofNatPadded_length {width n : Nat} (h : n < 256 ^ width) : (ofNatPadded width n).length = width := by
  have hl := ofNat_length_le h
  simp only [ofNatPadded, List.length_append, List.length_replicate]
  omega

lemma toNat_replicate_zero (k : Nat) : toNat (List.replicate k 0) = 0 := by
  induction k with
  | zero => rfl
  | succ k ih => rw [List.replicate_succ, toNat_cons, ih]; simp

lemma toNat_ofNatPadded (width n : Nat) : toNat (ofNatPadded width n) = n := by
  rw [ofNatPadded, toNat_append, toNat_replicate_zero, toNat_ofNat]
  omega

end IdentityProvider.Bytes
