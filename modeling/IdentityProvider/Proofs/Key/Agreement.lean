import IdentityProvider.Proofs.Key.Primality
/-! Signatures with SHA-1 are made by a path of their own. Where it takes the keys that the other algorithms,
the public key and the verifier take, and where it does not. -/

namespace IdentityProvider

namespace RsaPrivateKey

variable {key : RsaPrivateKey}

lemma publicKey_isUsable_iff (h : key.isUsableWithSha1 = true) :
    key.publicKey.isUsable = true ↔ 2048 ≤ bitLength key.modulus ∧ bitLength key.modulus ≤ 8192 := by
  obtain ⟨_, hodd, hodd', htwo, hlarge, _⟩ := isUsableWithSha1_iff.mp h
  have hthree : 3 ≤ key.publicExponent := by omega
  have hexponent : bitLength key.publicExponent ≤ 33 := bitLength_le_iff.mpr hlarge
  rw [RsaPublicKey.isUsable_iff]
  exact ⟨fun hu => ⟨hu.1, hu.2.1⟩, fun hsize => ⟨hsize.1, hsize.2, hodd, hodd', hthree, hexponent⟩⟩

lemma isUsable_iff_of_sha1 (h : key.isUsableWithSha1 = true) : key.isUsable = true ↔
    (2048 ≤ bitLength key.modulus ∧ bitLength key.modulus ≤ 8192) ∧ key.privateExponent < key.modulus ∧
      key.isPrecomputed = true := by
  rw [isUsable_iff, publicKey_isUsable_iff h, and_iff_right (isUsableWithSha1_iff.mp h).1]

lemma isUsableWithSha1_of_isUsable (h : key.isUsable = true) : key.isUsableWithSha1 = true := by
  obtain ⟨hpublic, hfits, _, _⟩ := isUsable_iff.mp h
  obtain ⟨hmin, _, hodd, hodd', hthree, hexponent⟩ := RsaPublicKey.isUsable_iff.mp hpublic
  have hlarge : key.publicExponent < 2 ^ 33 := lt_of_bitLength_le hexponent
  have hmodulus : ¬ key.modulus < 2 ^ 33 := by
    rw [← bitLength_le_iff]
    exact Nat.not_le.mpr (Nat.lt_of_lt_of_le (by omega) hmin)
  exact isUsableWithSha1_iff.mpr ⟨hfits, hodd, hodd', Nat.le_trans (by omega) hthree, hlarge, by omega⟩

end RsaPrivateKey

namespace Rsa

variable {der : PrivateKeyDer} {algorithm : DigestAlgorithm}

def Takes (der : PrivateKeyDer) (algorithm : DigestAlgorithm) : Prop :=
  ∀ message detail, sign der message algorithm ≠ .error (.invalidKey detail)

/-- The key is taken with SHA-1 alone: its size is out of bounds, or a number is wrong in it that SHA-1 does not
look at. -/
def OnlyWithSha1 (der : PrivateKeyDer) : Prop :=
  ∃ key, RsaPrivateKey.ofDer? true der = some key ∧ key.isUsableWithSha1 = true ∧
    (bitLength key.modulus < 2048 ∨ 8192 < bitLength key.modulus ∨ key.modulus ≤ key.privateExponent ∨
      key.isPrecomputed = false)

/-- The key is taken with all algorithms but SHA-1: its encoding holds more than a key. -/
def AllButSha1 (der : PrivateKeyDer) : Prop :=
  ∃ key, RsaPrivateKey.ofDer? false der = some key ∧ key.isUsable = true ∧ RsaPrivateKey.ofDer? true der = none

lemma load_error {f : KeyError} (h : (if algorithm = .sha1 then loadKeyForSha1 der else loadKey der) = .error f) :
    ∃ detail, f = .invalidKey detail := by
  rw [loadKeyForSha1, loadKey] at h
  split_ifs at h <;> split at h <;> cases h <;> exact ⟨_, rfl⟩

lemma takes_iff :
    Takes der algorithm ↔ ∃ key, (if algorithm = .sha1 then loadKeyForSha1 der else loadKey der) = .ok key := by
  cases h : (if algorithm = .sha1 then loadKeyForSha1 der else loadKey der) with
  | error f =>
    obtain ⟨detail, rfl⟩ := load_error h
    refine iff_of_false (fun ht => ht [] detail ?_) nofun
    rw [sign_eq, h]
    rfl
  | ok key =>
    refine iff_of_true ?_ ⟨key, rfl⟩
    intro message detail
    rw [sign_eq, h]
    cases hs : (padded? key.publicKey.size algorithm message).bind (signPadded? key) <;>
      simp [bind, Except.bind, hs]

lemma publicKeyDer_isOk_iff : (∃ pub, publicKeyDer der = .ok pub) ↔ ∃ key, loadKey der = .ok key := by
  constructor
  · rintro ⟨pub, h⟩
    obtain ⟨key, hk, _⟩ := bind_ok_iff.mp h
    exact ⟨key, hk⟩
  · rintro ⟨key, hk⟩
    exact ⟨_, bind_ok_iff.mpr ⟨key, hk, rfl⟩⟩

lemma exists_defect_iff {read usable defect : RsaPrivateKey → Prop} {refused : Prop}
    (h : ∀ key, read key → usable key → (refused ↔ defect key)) :
    (∃ key, read key ∧ usable key ∧ defect key) ↔ (∃ key, read key ∧ usable key) ∧ refused := by
  constructor
  · rintro ⟨key, hd, hu, hkey⟩
    exact ⟨⟨key, hd, hu⟩, (h key hd hu).mpr hkey⟩
  · rintro ⟨⟨key, hd, hu⟩, hrefused⟩
    exact ⟨key, hd, hu, (h key hd hu).mp hrefused⟩

lemma onlyWithSha1_iff :
    OnlyWithSha1 der ↔ (∃ key, loadKeyForSha1 der = .ok key) ∧ ¬ ∃ key, loadKey der = .ok key := by
  have hrefused : ∀ key, RsaPrivateKey.ofDer? true der = some key → key.isUsableWithSha1 = true →
      ((¬ ∃ key, loadKey der = .ok key) ↔
        bitLength key.modulus < 2048 ∨ 8192 < bitLength key.modulus ∨ key.modulus ≤ key.privateExponent ∨
          key.isPrecomputed = false) := by
    intro key hd hu
    simp only [loadKey_ok_iff, RsaPrivateKey.ofDer_of_strict hd, Option.some.injEq, exists_eq_left',
      RsaPrivateKey.isUsable_iff_of_sha1 hu, and_assoc]
    rw [not_and_or, not_and_or, not_and_or, Nat.not_le, Nat.not_le, Nat.not_lt, Bool.not_eq_true]
  rw [exists_congr fun key => loadKeyForSha1_ok_iff]
  exact exists_defect_iff hrefused

lemma allButSha1_iff :
    AllButSha1 der ↔ (∃ key, loadKey der = .ok key) ∧ ¬ ∃ key, loadKeyForSha1 der = .ok key := by
  have hrefused : ∀ key, RsaPrivateKey.ofDer? false der = some key → key.isUsable = true →
      ((¬ ∃ key, loadKeyForSha1 der = .ok key) ↔ RsaPrivateKey.ofDer? true der = none) := by
    intro key hd hu
    simp only [loadKeyForSha1_ok_iff]
    cases hstrict : RsaPrivateKey.ofDer? true der with
    | none => simp
    | some k =>
      obtain rfl : key = k := Option.some.inj (hd.symm.trans (RsaPrivateKey.ofDer_of_strict hstrict))
      simp [RsaPrivateKey.isUsableWithSha1_of_isUsable hu]
  rw [exists_congr fun key => loadKey_ok_iff]
  exact exists_defect_iff hrefused

lemma verify_own_iff {message signature : Bytes} (h : sign der message algorithm = .ok signature) :
    ∃ key, RsaPrivateKey.ofDer? false der = some key ∧
      (verify key.publicKey.toDer message signature algorithm = true ↔
      ¬ (algorithm = .sha1 ∧ (bitLength key.modulus < 2048 ∨ 8192 < bitLength key.modulus))) := by
  obtain ⟨key, hload, hsigned⟩ := sign_ok_iff.mp h
  obtain ⟨hd, hf⟩ := loaded hload
  have hpos := RsaPrivateKey.modulus_pos hf
  refine ⟨key, hd, ?_⟩
  by_cases ha : algorithm = .sha1
  · rw [if_pos ha] at hload
    have hu := (loadKeyForSha1_ok_iff.mp hload).2
    obtain ⟨_, _, _, _, hlarge, _⟩ := RsaPrivateKey.isUsableWithSha1_iff.mp hu
    by_cases hbits : bitLength key.modulus ≤ 8192
    · rw [verify_eq_isUsable hbits (bitLength_le_iff.mpr hlarge) hpos hsigned,
        RsaPrivateKey.publicKey_isUsable_iff hu]
      simp [ha, hbits]
    · have hlong : 1024 < signature.length := by
        rw [signed_length hpos hsigned, RsaPublicKey.size, RsaPrivateKey.publicKey]
        dsimp only
        omega
      rw [verify_long hlong]
      simp [ha, Nat.not_le.mp hbits]
  · rw [if_neg ha] at hload
    have hpublic := (RsaPrivateKey.isUsable_iff.mp (loadKey_ok_iff.mp hload).2).1
    obtain ⟨_, hbits, _, _, _, hexponent⟩ := RsaPublicKey.isUsable_iff.mp hpublic
    rw [verify_eq_isUsable hbits hexponent hpos hsigned, hpublic]
    simp [ha]

/-- What is signed verifies under the public key, and a key is taken with every algorithm or with none, but for
the two kinds of keys on which SHA-1 and the other algorithms differ. -/
theorem sign_verify_agree (der : PrivateKeyDer) :
    (∀ message algorithm signature, sign der message algorithm = .ok signature →
      ((∃ pub, publicKeyDer der = .ok pub ∧ verify pub message signature algorithm = true) ↔
        ¬ (algorithm = .sha1 ∧ OnlyWithSha1 der)) ∧
      ∃ key, RsaPrivateKey.ofDer? false der = some key ∧
        (verify key.publicKey.toDer message signature algorithm = true ↔
        ¬ (algorithm = .sha1 ∧ (bitLength key.modulus < 2048 ∨ 8192 < bitLength key.modulus)))) ∧
    ∀ algorithm, Takes der algorithm ↔
      ((∃ pub, publicKeyDer der = .ok pub) ∧ ¬ (algorithm = .sha1 ∧ AllButSha1 der)) ∨
        (algorithm = .sha1 ∧ OnlyWithSha1 der) := by
  constructor
  · intro message algorithm signature h
    have hpub : (∃ pub, publicKeyDer der = .ok pub ∧ verify pub message signature algorithm = true) ↔
        ∃ key, loadKey der = .ok key := by
      rw [← publicKeyDer_isOk_iff]
      exact exists_congr fun pub => and_iff_left_of_imp fun hp => verify_sign hp h
    obtain ⟨key, hload, _⟩ := sign_ok_iff.mp h
    refine ⟨?_, verify_own_iff h⟩
    rw [hpub, onlyWithSha1_iff]
    by_cases ha : algorithm = .sha1
    · rw [if_pos ha] at hload
      have hsha1 : ∃ key, loadKeyForSha1 der = .ok key := ⟨key, hload⟩
      tauto
    · rw [if_neg ha] at hload
      exact iff_of_true ⟨key, hload⟩ fun hc => ha hc.1
  · intro algorithm
    rw [takes_iff, publicKeyDer_isOk_iff, onlyWithSha1_iff, allButSha1_iff]
    by_cases ha : algorithm = .sha1
    · rw [if_pos ha]
      tauto
    · rw [if_neg ha]
      tauto

end Rsa

namespace RsaPrivateKey

def ofPrimes (p q : Nat) : RsaPrivateKey where
  modulus := p * q
  publicExponent := 3
  privateExponent := (2 * Nat.lcm (p - 1) (q - 1) + 1) / 3
  prime1 := p
  prime2 := q
  exponent1 := (2 * (p - 1) + 1) / 3
  exponent2 := (2 * (q - 1) + 1) / 3
  coefficient := powMod q (p - 2) p

def short : RsaPrivateKey :=
  ofPrimes (43 ^ 3 * 2 ^ 496 + 1) (127 ^ 1 * 2 ^ 504 + 1)

set_option maxRecDepth 20000 in
lemma short_hasPrimes : short.HasPrimes where
  first := prime_of_two_factors (a := 3) (r := 43) (k := 3) (l := 496) (by decide) rfl (by decide +kernel)
    (by decide +kernel) (by decide +kernel)
  second := prime_of_two_factors (a := 3) (r := 127) (k := 1) (l := 504) (by norm_num) rfl (by decide +kernel)
    (by decide +kernel) (by decide +kernel)
  distinct := by decide +kernel

end RsaPrivateKey

namespace Rsa

theorem sign_verify_differ :
    ∃ der signature, privateKeyDer RsaPrivateKey.short.toPem = .ok der ∧ sign der [] .sha1 = .ok signature ∧
      ¬ ∃ pub, publicKeyDer der = .ok pub ∧ verify pub [] signature .sha1 = true := by
  have hread := RsaPrivateKey.ofDer_toDer .short (by decide +kernel)
  have husable : RsaPrivateKey.short.isUsableWithSha1 = true := by decide +kernel
  have hload := loadKeyForSha1_ok_iff.mpr ⟨hread true, husable⟩
  obtain ⟨signature, hsign⟩ := @sign_isOk _ _ .sha1 hload RsaPrivateKey.short_hasPrimes (by decide +kernel) []
  refine ⟨_, signature, RsaPrivateKey.privateKeyDer_toPem _, hsign, ?_⟩
  rw [((sign_verify_agree _).1 _ _ _ hsign).1]
  exact not_not.mpr ⟨rfl, _, hread true, husable, Or.inl (by decide +kernel)⟩

end Rsa

end IdentityProvider
