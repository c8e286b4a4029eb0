import IdentityProvider.Key.Rsa
import IdentityProvider.Proofs.Key.Der
import IdentityProvider.Proofs.Key.Power
import IdentityProvider.Proofs.Outcome
/-! What a private key signs, its public key verifies. -/

namespace IdentityProvider

lemma powMod_lt {modulus : Nat} (h : 0 < modulus) (base exponent : Nat) :
    powMod base exponent modulus < modulus := by
  rw [powMod]
  split
  · exact Nat.mod_lt _ h
  · dsimp only
    split <;> exact Nat.mod_lt _ h

lemma lt_two_pow_bitLength (n : Nat) : n < 2 ^ bitLength n := by
  rw [bitLength]
  split
  · omega
  · exact Nat.lt_log2_self

lemma lt_of_bitLength_le {n bits : Nat} (h : bitLength n ≤ bits) : n < 2 ^ bits :=
  Nat.lt_of_lt_of_le (lt_two_pow_bitLength n) (Nat.pow_le_pow_right (by omega) h)

lemma bitLength_le_iff {n bits : Nat} : bitLength n ≤ bits ↔ n < 2 ^ bits := by
  refine ⟨lt_of_bitLength_le, ?_⟩
  intro h
  rw [bitLength]
  split_ifs with hn
  · omega
  · exact (Nat.log2_lt hn).mpr h

lemma ofNat_length_of_lt {n width : Nat} (h : n < 2 ^ (8 * width)) : (Bytes.ofNat n).length ≤ width := by
  apply Bytes.ofNat_length_le
  rwa [Nat.pow_mul] at h

lemma ofNat_length_of_bitLength {n width : Nat} (h : bitLength n ≤ 8 * width) : (Bytes.ofNat n).length ≤ width :=
  ofNat_length_of_lt (lt_of_bitLength_le h)

namespace RsaPublicKey

variable {key : RsaPublicKey}

lemma isUsable_iff : key.isUsable = true ↔ 2048 ≤ bitLength key.modulus ∧ bitLength key.modulus ≤ 8192 ∧
    key.modulus % 2 = 1 ∧ key.exponent % 2 = 1 ∧ 3 ≤ key.exponent ∧ bitLength key.exponent ≤ 33 := by
  simp only [isUsable, Bool.and_eq_true, decide_eq_true_eq, beq_iff_eq, and_assoc]

lemma modulus_lt_size (key : RsaPublicKey) : key.modulus < 256 ^ key.size := by
  have hb : bitLength key.modulus ≤ 8 * key.size := by
    rw [size]
    omega
  have hl := lt_of_bitLength_le hb
  rwa [Nat.pow_mul] at hl

lemma ofDer_toDer (hm : bitLength key.modulus ≤ 8192) (he : bitLength key.exponent ≤ 33) :
    ofDer? key.toDer = some key := by
  have hm' : (Bytes.ofNat key.modulus).length ≤ 1024 := ofNat_length_of_bitLength (by omega)
  have he' : (Bytes.ofNat key.exponent).length ≤ 5 := ofNat_length_of_bitLength (by omega)
  have hml := Der.writeUnsigned_length (n := key.modulus) (by omega)
  have hel := Der.writeUnsigned_length (n := key.exponent) (by omega)
  have hlen : (Der.writeUnsigned key.modulus ++ Der.writeUnsigned key.exponent).length < 256 ^ 4 := by
    rw [List.length_append]
    omega
  have ht : Der.sequenceTag &&& 0x1F ≠ 0x1F := by decide
  have hs := Der.expect_write ht hlen []
  have hrm := Der.readUnsigned_writeUnsigned (n := key.modulus) (by omega) (Der.writeUnsigned key.exponent)
  have hre := Der.readUnsigned_writeUnsigned (n := key.exponent) (by omega) []
  rw [List.append_nil] at hs hre
  simp [ofDer?, ofPkcs1?, toDer, hs, hrm, hre, guard]

end RsaPublicKey

namespace RsaPrivateKey

lemma isUsable_iff {key : RsaPrivateKey} : key.isUsable = true ↔ key.publicKey.isUsable = true ∧
    key.fitsTogether = true ∧
    key.privateExponent < key.modulus ∧ key.isPrecomputed = true := by
  simp only [isUsable, Bool.and_eq_true, decide_eq_true_eq, and_assoc]

lemma isUsableWithSha1_iff {key : RsaPrivateKey} : key.isUsableWithSha1 = true ↔ key.fitsTogether = true ∧
    key.modulus % 2 = 1 ∧ key.publicExponent % 2 = 1 ∧ 2 ≤ key.publicExponent ∧
    key.publicExponent < 2 ^ 33 ∧ key.publicExponent < key.modulus := by
  simp only [isUsableWithSha1, Bool.and_eq_true, decide_eq_true_eq, beq_iff_eq, and_assoc, Nat.reducePow]

lemma modulus_pos {key : RsaPrivateKey} (h : key.fitsTogether = true) : 0 < key.modulus := by
  simp only [fitsTogether, Bool.and_eq_true, decide_eq_true_eq, beq_iff_eq] at h
  obtain ⟨⟨⟨⟨⟨h1, h2⟩, hn⟩, _⟩, _⟩, _⟩ := h
  rw [← hn]
  exact Nat.mul_pos (by omega) (by omega)

lemma ofPkcs8_of_strict {der : Bytes} {key : RsaPrivateKey} (h : ofPkcs8? true der = some key) :
    ofPkcs8? false der = some key := by
  rw [ofPkcs8?] at h ⊢
  simp only [Option.bind_eq_bind, Option.bind_eq_some_iff] at h ⊢
  obtain ⟨outer, houter, version, hversion, u, hv, algorithm, halgorithm, v, ha, inner, hinner, w, _, hkey⟩ := h
  exact ⟨outer, houter, version, hversion, u, hv, algorithm, halgorithm, v, ha, inner, hinner, (), rfl, hkey⟩

lemma ofDer_of_strict {der : PrivateKeyDer} {key : RsaPrivateKey} (h : ofDer? true der = some key) :
    ofDer? false der = some key := by
  cases der with
  | pkcs8 der => exact ofPkcs8_of_strict h
  | pkcs1 der =>
    simp only [ofDer?, Option.bind_eq_bind, Option.bind_eq_some_iff] at h ⊢
    obtain ⟨⟨k, rest⟩, hr, u, hg, hk⟩ := h
    exact ⟨⟨k, rest⟩, hr, (), rfl, hk⟩

end RsaPrivateKey

namespace Rsa

lemma filtered_ok_iff {read : Option RsaPrivateKey} {usable : RsaPrivateKey → Bool} {e : KeyError}
    {key : RsaPrivateKey} :
    (match read.filter usable with
      | some key => Except.ok key
      | none => Except.error e) = .ok key ↔ read = some key ∧ usable key = true := by
  rw [← Option.filter_eq_some_iff]
  cases read.filter usable with
  | none => exact iff_of_false nofun nofun
  | some k => exact ⟨fun h => congrArg some (Except.ok.inj h), fun h => congrArg Except.ok (Option.some.inj h)⟩

lemma loadKey_ok_iff {der : PrivateKeyDer} {key : RsaPrivateKey} :
    loadKey der = .ok key ↔ RsaPrivateKey.ofDer? false der = some key ∧ key.isUsable = true :=
  filtered_ok_iff

lemma loadKeyForSha1_ok_iff {der : PrivateKeyDer} {key : RsaPrivateKey} :
    loadKeyForSha1 der = .ok key ↔ RsaPrivateKey.ofDer? true der = some key ∧ key.isUsableWithSha1 = true :=
  filtered_ok_iff

lemma publicKeyDer_ok {der : PrivateKeyDer} {pub : Bytes} (h : publicKeyDer der = .ok pub) :
    ∃ key, RsaPrivateKey.ofDer? false der = some key ∧ key.isUsable = true ∧ pub = key.publicKey.toDer := by
  obtain ⟨key, hk, hkey⟩ := bind_ok_iff.mp h
  obtain ⟨hd, hu⟩ := loadKey_ok_iff.mp hk
  exact ⟨key, hd, hu, (Except.ok.inj hkey).symm⟩

lemma sign_eq (der : PrivateKeyDer) (message : Bytes) (algorithm : DigestAlgorithm) : sign der message algorithm =
    (if algorithm = .sha1 then loadKeyForSha1 der else loadKey der) >>= fun key =>
      match (padded? key.publicKey.size algorithm message).bind (signPadded? key) with
      | some signature => .ok signature
      | none =>
        .error (.signing ((if algorithm = .sha1 then "RSA-SHA1 signing failed: " else "RSA signing failed: ") ++
          "the key is too small or does not sign")) := by
  rw [sign]
  split_ifs <;> rfl

lemma sign_ok_iff {der : PrivateKeyDer} {message signature : Bytes} {algorithm : DigestAlgorithm} :
    sign der message algorithm = .ok signature ↔
      ∃ key, (if algorithm = .sha1 then loadKeyForSha1 der else loadKey der) = .ok key ∧
        (padded? key.publicKey.size algorithm message).bind (signPadded? key) = some signature := by
  rw [sign_eq, bind_ok_iff]
  refine exists_congr fun key => and_congr_right fun _ => ?_
  cases (padded? key.publicKey.size algorithm message).bind (signPadded? key) with
  | none => exact iff_of_false nofun nofun
  | some s => exact ⟨fun h => congrArg some (Except.ok.inj h), fun h => congrArg Except.ok (Option.some.inj h)⟩

lemma loaded {der : PrivateKeyDer} {key : RsaPrivateKey} {algorithm : DigestAlgorithm}
    (h : (if algorithm = .sha1 then loadKeyForSha1 der else loadKey der) = .ok key) :
    RsaPrivateKey.ofDer? false der = some key ∧ key.fitsTogether = true := by
  by_cases ha : algorithm = .sha1
  · rw [if_pos ha] at h
    obtain ⟨hd, hu⟩ := loadKeyForSha1_ok_iff.mp h
    exact ⟨RsaPrivateKey.ofDer_of_strict hd, (RsaPrivateKey.isUsableWithSha1_iff.mp hu).1⟩
  · rw [if_neg ha] at h
    obtain ⟨hd, hu⟩ := loadKey_ok_iff.mp h
    exact ⟨hd, (RsaPrivateKey.isUsable_iff.mp hu).2.1⟩

lemma verify_eq_isUsable {key : RsaPrivateKey} {message signature : Bytes} {algorithm : DigestAlgorithm}
    (hm : bitLength key.modulus ≤ 8192) (he : bitLength key.publicExponent ≤ 33) (hpos : 0 < key.modulus)
    (hs : (padded? key.publicKey.size algorithm message).bind (signPadded? key) = some signature) :
    verify key.publicKey.toDer message signature algorithm = key.publicKey.isUsable := by
  obtain ⟨padded, hpad, hsp⟩ := Option.bind_eq_some_iff.mp hs
  rw [verify, RsaPublicKey.ofDer_toDer hm he, Option.filter_some]
  cases hu : key.publicKey.isUsable with
  | false => rfl
  | true =>
    unfold signPadded? at hsp
    dsimp only at hsp
    split at hsp
    · rename_i hcheck
      cases hsp
      have hlt : key.apply (Bytes.toNat padded) < key.modulus := powMod_lt hpos _ _
      have hsize := Nat.lt_trans hlt (RsaPublicKey.modulus_lt_size key.publicKey)
      simp only [if_true, hpad, Bytes.toNat_ofNatPadded, Bytes.ofNatPadded_length hsize, BEq.rfl, Bool.true_and,
        Bool.and_eq_true, decide_eq_true_eq, beq_iff_eq]
      exact ⟨hlt, hcheck⟩
    · cases hsp

lemma verify_long {publicKey message signature : Bytes} {algorithm : DigestAlgorithm}
    (h : 1024 < signature.length) :
    verify publicKey message signature algorithm = false := by
  rw [verify]
  cases hk : (RsaPublicKey.ofDer? publicKey).filter RsaPublicKey.isUsable with
  | none => rfl
  | some key =>
    have hbits := (RsaPublicKey.isUsable_iff.mp (Option.filter_eq_some_iff.mp hk).2).2.1
    have hsize : signature.length ≠ key.size := by
      rw [RsaPublicKey.size]
      omega
    dsimp only
    cases padded? key.size algorithm message with
    | none => rfl
    | some padded => simp [hsize]

lemma signed_length {key : RsaPrivateKey} {message signature : Bytes} {algorithm : DigestAlgorithm}
    (hpos : 0 < key.modulus)
    (hs : (padded? key.publicKey.size algorithm message).bind (signPadded? key) = some signature) :
    signature.length = key.publicKey.size := by
  obtain ⟨padded, _, hsp⟩ := Option.bind_eq_some_iff.mp hs
  unfold signPadded? at hsp
  dsimp only at hsp
  split at hsp
  · cases hsp
    have hlt : key.apply (Bytes.toNat padded) < key.modulus := powMod_lt hpos _ _
    exact Bytes.ofNatPadded_length (Nat.lt_trans hlt (RsaPublicKey.modulus_lt_size key.publicKey))
  · cases hsp

theorem verify_sign {der : PrivateKeyDer} {pub message signature : Bytes} {algorithm : DigestAlgorithm}
    (hp : publicKeyDer der = .ok pub) (hs : sign der message algorithm = .ok signature) :
    verify pub message signature algorithm = true := by
  obtain ⟨key, hd, hu, rfl⟩ := publicKeyDer_ok hp
  obtain ⟨key', hload, hsigned⟩ := sign_ok_iff.mp hs
  obtain ⟨hd', hf⟩ := loaded hload
  rw [hd] at hd'
  cases hd'
  have hpub := (RsaPrivateKey.isUsable_iff.mp hu).1
  obtain ⟨_, hm, _, _, _, he⟩ := RsaPublicKey.isUsable_iff.mp hpub
  rw [verify_eq_isUsable hm he (RsaPrivateKey.modulus_pos hf) hsigned, hpub]

lemma hash_length (algorithm : DigestAlgorithm) (message : Bytes) :
    (algorithm.hash message).length = algorithm.outputLength := by
  cases algorithm <;>
    simp [DigestAlgorithm.hash, DigestAlgorithm.outputLength, Sha1.digest, Sha256.digest, Sha512.digest,
      Sha512.digest384, Sha512.hashFrom, Sha.bytes32, Sha512.bytes]

lemma padded_isSome_iff {size : Nat} {algorithm : DigestAlgorithm} {message : Bytes} :
    (padded? size algorithm message).isSome = true ↔
      (digestHeader algorithm).length + algorithm.outputLength + 11 ≤ size := by
  unfold padded?
  dsimp only
  rw [List.length_append, hash_length]
  split
  · rename_i hfit
    exact iff_of_true rfl hfit
  · rename_i hfit
    exact iff_of_false nofun hfit

lemma pow_size_le {key : RsaPublicKey} (hpos : 0 < key.modulus) : 256 ^ (key.size - 1) ≤ key.modulus := by
  have hb : 8 * (key.size - 1) ≤ bitLength key.modulus - 1 := by
    rw [RsaPublicKey.size]
    omega
  have hl : bitLength key.modulus - 1 = Nat.log2 key.modulus := by
    rw [bitLength, if_neg (by omega), Nat.add_sub_cancel]
  have hm : (256 : Nat) ^ (key.size - 1) = 2 ^ (8 * (key.size - 1)) := by
    rw [Nat.pow_mul]
  rw [hm]
  refine Nat.le_trans (Nat.pow_le_pow_right (by omega) hb) ?_
  rw [hl]
  exact Nat.log2_self_le (by omega)

lemma padded_lt {key : RsaPublicKey} (hpos : 0 < key.modulus) {algorithm : DigestAlgorithm}
    {message padded : Bytes} (h : padded? key.size algorithm message = some padded) :
    Bytes.toNat padded < key.modulus := by
  unfold padded? at h
  dsimp only at h
  split at h
  · rename_i hsize
    cases h
    rw [Bytes.toNat_cons, UInt8.toNat_zero, Nat.zero_mul, Nat.zero_add]
    -- The leading zero leaves one byte less than the modulus has.
    refine Nat.lt_of_lt_of_le (Bytes.toNat_lt _) (Nat.le_trans (Nat.le_of_eq ?_) (pow_size_le hpos))
    congr 1
    simp only [List.length_cons, List.length_append, List.length_replicate] at hsize ⊢
    omega
  · cases h

lemma fits_of_isUsable {key : RsaPublicKey} (h : key.isUsable = true) (algorithm : DigestAlgorithm) :
    (digestHeader algorithm).length + algorithm.outputLength + 11 ≤ key.size := by
  have hd : (digestHeader algorithm).length + algorithm.outputLength ≤ 83 := by
    cases algorithm <;> decide
  have hbits := (RsaPublicKey.isUsable_iff.mp h).1
  rw [RsaPublicKey.size]
  omega

theorem sign_isOk {der : PrivateKeyDer} {key : RsaPrivateKey} {algorithm : DigestAlgorithm}
    (hk : (if algorithm = .sha1 then loadKeyForSha1 der else loadKey der) = .ok key) (hp : key.HasPrimes)
    (hfit : (digestHeader algorithm).length + algorithm.outputLength + 11 ≤ key.publicKey.size) (message : Bytes) :
    ∃ signature, sign der message algorithm = .ok signature := by
  obtain ⟨padded, hpad⟩ : ∃ padded, padded? key.publicKey.size algorithm message = some padded :=
    Option.isSome_iff_exists.mp (padded_isSome_iff.mpr hfit)
  have hf := (loaded hk).2
  have hpos : 0 < key.publicKey.modulus := RsaPrivateKey.modulus_pos hf
  refine ⟨Bytes.ofNatPadded key.publicKey.size (key.apply (Bytes.toNat padded)), sign_ok_iff.mpr ⟨key, hk, ?_⟩⟩
  rw [hpad, Option.bind_some, signPadded?]
  exact if_pos (RsaPrivateKey.powMod_apply hf hp (padded_lt hpos hpad))

theorem sign_again {der : PrivateKeyDer} {message signature : Bytes} {algorithm : DigestAlgorithm}
    (h : sign der message algorithm = .ok signature)
    (hp : ∀ key, RsaPrivateKey.ofDer? false der = some key → key.HasPrimes) (another : Bytes) :
    ∃ signature, sign der another algorithm = .ok signature := by
  obtain ⟨key, hk, hs⟩ := sign_ok_iff.mp h
  obtain ⟨padded, hpad, _⟩ := Option.bind_eq_some_iff.mp hs
  apply sign_isOk hk (hp key (loaded hk).1)
  exact padded_isSome_iff.mp (Option.isSome_iff_exists.mpr ⟨padded, hpad⟩)

end Rsa

end IdentityProvider
