import IdentityProvider.Proofs.Key.Pem
import IdentityProvider.Proofs.Key.Rsa
/-! Private keys as text: what is written of a key is the key that signs. -/

namespace IdentityProvider

namespace RsaPrivateKey

variable {key : RsaPrivateKey}

def numbers (key : RsaPrivateKey) : List Nat :=
  [0, key.modulus, key.publicExponent, key.privateExponent, key.prime1, key.prime2, key.exponent1, key.exponent2,
    key.coefficient]

def toDer (key : RsaPrivateKey) : Bytes :=
  Der.write Der.sequenceTag (key.numbers.flatMap Der.writeUnsigned)

def toPem (key : RsaPrivateKey) : String :=
  Pem.write "RSA PRIVATE KEY" key.toDer

lemma numbers_lt (h : key.isUsable = true) : ∀ n ∈ key.numbers, n < 2 ^ (8 * 1024) := by
  obtain ⟨hpublic, hfits, hd, hpre⟩ := isUsable_iff.mp h
  simp only [fitsTogether, Bool.and_eq_true, decide_eq_true_eq, beq_iff_eq] at hfits
  simp only [isPrecomputed, Bool.and_eq_true, decide_eq_true_eq, beq_iff_eq] at hpre
  obtain ⟨_, hm, _, _, _, he⟩ := RsaPublicKey.isUsable_iff.mp hpublic
  obtain ⟨⟨⟨⟨⟨h1, h2⟩, hn⟩, _⟩, _⟩, _⟩ := hfits
  obtain ⟨⟨⟨⟨⟨_, hx1⟩, _⟩, hx2⟩, _⟩, hc⟩ := hpre
  have hmbits : bitLength key.modulus ≤ 8 * 1024 := hm
  have hebits : bitLength key.publicExponent ≤ 8 * 1024 := Nat.le_trans he (by decide)
  have hmodulus := lt_of_bitLength_le hmbits
  have hexponent := lt_of_bitLength_le hebits
  have hp1 : key.prime1 ≤ key.modulus := by
    rw [← hn]
    exact Nat.le_mul_of_pos_right _ (by omega)
  have hp2 : key.prime2 ≤ key.modulus := by
    rw [← hn]
    exact Nat.le_mul_of_pos_left _ (by omega)
  simp only [numbers, List.forall_mem_cons, List.not_mem_nil, false_imp_iff, implies_true, and_true]
  generalize (2 : Nat) ^ (8 * 1024) = bound at *
  omega

lemma flatMap_writeUnsigned_length {ns : List Nat} (h : ∀ n ∈ ns, n < 2 ^ (8 * 1024)) :
    (ns.flatMap Der.writeUnsigned).length ≤ ns.length * 1031 := by
  induction ns with
  | nil => exact Nat.le_refl 0
  | cons n ns ih =>
    rw [List.forall_mem_cons] at h
    have hn := ofNat_length_of_lt h.1
    have hl := Der.writeUnsigned_length (n := n) (by omega)
    have hs := ih h.2
    rw [List.flatMap_cons, List.length_append, List.length_cons]
    omega

lemma readPkcs1_toDer (hsmall : ∀ n ∈ key.numbers, n < 2 ^ (8 * 1024)) :
    readPkcs1? key.toDer = some (key, []) := by
  have hlength := flatMap_writeUnsigned_length hsmall
  have hcount : key.numbers.length = 9 := rfl
  have ht : Der.sequenceTag &&& 0x1F ≠ 0x1F := by decide
  have hlt : (key.numbers.flatMap Der.writeUnsigned).length < 256 ^ 4 := by omega
  have hsequence := Der.expect_write ht hlt []
  rw [List.append_nil] at hsequence
  have hread : ∀ n ∈ key.numbers, ∀ rest, Der.readUnsigned? (Der.writeUnsigned n ++ rest) = some (n, rest) := by
    intro n hn rest
    have hl := ofNat_length_of_lt (hsmall n hn)
    exact Der.readUnsigned_writeUnsigned (by omega) rest
  simp only [numbers, List.forall_mem_cons, List.not_mem_nil, false_imp_iff, implies_true, and_true] at hread
  obtain ⟨h0, h1, h2, h3, h4, h5, h6, h7, h8⟩ := hread
  rw [readPkcs1?, toDer, hsequence]
  simp only [numbers, List.flatMap_cons, List.flatMap_nil, h0, h1, h2, h3, h4, h5, h6, h7, h8, bind, Option.bind]
  rfl

lemma ofDer_toDer (key : RsaPrivateKey) (h : ∀ n ∈ key.numbers, n < 2 ^ (8 * 1024)) (strict : Bool) :
    ofDer? strict (.pkcs1 key.toDer) = some key := by
  rw [ofDer?, readPkcs1_toDer h]
  cases strict <;> rfl

lemma privateKeyDer_toPem (key : RsaPrivateKey) : privateKeyDer key.toPem = .ok (.pkcs1 key.toDer) := by
  have hp : Pem.parse key.toPem = .ok ⟨"RSA PRIVATE KEY", key.toDer⟩ :=
    Pem.parse_write (by decide) (by decide) (List.cons_ne_nil _ _)
  rw [privateKeyDer, readPem, hp]
  rfl

lemma publicKeyDer_toPem (h : key.isUsable = true) :
    (privateKeyDer key.toPem >>= Rsa.publicKeyDer) = .ok key.publicKey.toDer := by
  have hl := Rsa.loadKey_ok_iff.mpr ⟨ofDer_toDer key (numbers_lt h) false, h⟩
  rw [privateKeyDer_toPem]
  simp only [bind, Except.bind, Rsa.publicKeyDer, hl]
  rfl

end RsaPrivateKey

end IdentityProvider
