import IdentityProvider.Key.Der
import IdentityProvider.Proofs.Bytes.Number

namespace IdentityProvider.Der

lemma readLength_length {n : Nat} (h : n < 256 ^ 4) (rest : Bytes) :
    readLength? (length n ++ rest) = some (n, rest) := by
  by_cases hs : n < 0x80
  · have hb : UInt8.ofNat n < 0x80 := by
      rw [UInt8.lt_iff_toNat_lt, Bytes.toNat_ofNat_of_lt (by omega)]
      exact hs
    rw [length, if_pos hs, List.singleton_append, readLength?, if_pos hb, Bytes.toNat_ofNat_of_lt (by omega)]
  · have hne : Bytes.ofNat n ≠ [] := Bytes.ofNat_ne_nil (by omega)
    have hpos : 0 < (Bytes.ofNat n).length := List.length_pos_iff.mpr hne
    have hle : (Bytes.ofNat n).length ≤ 4 := Bytes.ofNat_length_le h
    have ht : (UInt8.ofNat (0x80 + (Bytes.ofNat n).length)).toNat = 0x80 + (Bytes.ofNat n).length :=
      Bytes.toNat_ofNat_of_lt (by omega)
    have hb : ¬ UInt8.ofNat (0x80 + (Bytes.ofNat n).length) < 0x80 := by
      rw [UInt8.lt_iff_toNat_lt, ht]
      exact Nat.not_lt.mpr (Nat.le_add_right _ _)
    have hh : (Bytes.ofNat n ++ rest).head? ≠ some 0 := by
      cases hc : Bytes.ofNat n with
      | nil => exact absurd hc hne
      | cons d ds => simpa [hc] using Bytes.ofNat_head n
    have hw : (UInt8.ofNat (0x80 + (Bytes.ofNat n).length)).toNat - 0x80 = (Bytes.ofNat n).length := by
      omega
    rw [length, if_neg hs, List.cons_append, readLength?, if_neg hb]
    simp only [hw, List.take_left, List.drop_left, Bytes.toNat_ofNat, List.length_append]
    exact if_pos ⟨hpos, hle, by omega, by omega, hh⟩

lemma length_length {n : Nat} (h : n < 256 ^ 4) : (length n).length ≤ 5 := by
  have hl := Bytes.ofNat_length_le h
  rw [length]
  split
  · simp
  · rw [List.length_cons]
    omega

lemma read_write {tag : UInt8} (ht : tag &&& 0x1F ≠ 0x1F) {content : Bytes} (h : content.length < 256 ^ 4)
    (rest : Bytes) : read? (write tag content ++ rest) = some (⟨tag, content⟩, rest) := by
  rw [write, List.cons_append, List.append_assoc, read?, readLength_length h]
  simp [guard, ht]

lemma expect_write {tag : UInt8} (ht : tag &&& 0x1F ≠ 0x1F) {content : Bytes}
    (h : content.length < 256 ^ 4) (rest : Bytes) :
    expect? tag (write tag content ++ rest) = some (content, rest) := by
  rw [expect?, read_write ht h]
  simp [guard]

lemma write_length (tag : UInt8) {content : Bytes} (h : content.length < 256 ^ 4) :
    (write tag content).length ≤ content.length + 6 := by
  have hl := length_length h
  simp only [write, List.length_cons, List.length_append]
  omega

def unsignedContent (n : Nat) : Bytes :=
  match Bytes.ofNat n with
  | [] => [0]
  | d :: ds => if d < 0x80 then d :: ds else 0 :: d :: ds

lemma writeUnsigned_eq (n : Nat) : writeUnsigned n = write integerTag (unsignedContent n) := by
  unfold writeUnsigned unsignedContent
  cases Bytes.ofNat n <;> rfl

lemma unsignedContent_length (n : Nat) : (unsignedContent n).length ≤ (Bytes.ofNat n).length + 1 := by
  rw [unsignedContent]
  split
  · simp
  · rename_i d ds hd
    split <;> simp [hd]

lemma unsigned_content (n : Nat) : unsigned? (unsignedContent n) = some n := by
  have hn := Bytes.toNat_ofNat n
  have hh := Bytes.ofNat_head n
  rw [unsignedContent]
  cases hd : Bytes.ofNat n with
  | nil =>
    rw [hd] at hn
    subst hn
    rfl
  | cons d ds =>
    rw [hd] at hn hh
    have hz : d ≠ 0 := by simpa using hh
    by_cases hs : d < 0x80
    · have hge : ¬ 0x80 ≤ d := UInt8.not_le.mpr hs
      simp only [if_pos hs]
      cases ds with
      | nil =>
        rw [unsigned?, if_pos hs, ← hn]
        simp [Bytes.toNat]
      | cons e ds => rw [unsigned?, if_neg (by simp [hge, hz]), hn]
    · have hzero : Bytes.toNat (0 :: d :: ds) = n := by
        rw [Bytes.toNat_cons, hn]
        simp
      have h0 : ¬ (0x80 : UInt8) ≤ 0 := by decide
      simp only [if_neg hs]
      rw [unsigned?, if_neg (by simp [hs, h0]), hzero]

lemma readUnsigned_writeUnsigned {n : Nat} (h : (Bytes.ofNat n).length + 1 < 256 ^ 4) (rest : Bytes) :
    readUnsigned? (writeUnsigned n ++ rest) = some (n, rest) := by
  have hl := unsignedContent_length n
  have ht : integerTag &&& 0x1F ≠ 0x1F := by decide
  rw [readUnsigned?, writeUnsigned_eq, expect_write ht (by omega)]
  simp [unsigned_content]

lemma writeUnsigned_length {n : Nat} (h : (Bytes.ofNat n).length + 1 < 256 ^ 4) :
    (writeUnsigned n).length ≤ (Bytes.ofNat n).length + 7 := by
  have hl := unsignedContent_length n
  have hb : (unsignedContent n).length < 256 ^ 4 := by omega
  have hw := write_length integerTag hb
  rw [writeUnsigned_eq]
  omega

end IdentityProvider.Der
