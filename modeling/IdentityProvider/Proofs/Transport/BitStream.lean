import Mathlib.Tactic.Common
import Mathlib.Tactic.Ring
import IdentityProvider.Transport.Deflate
/-! What a reader takes from the front of the bits that a source holds. -/

namespace IdentityProvider.Deflate

def bitsOf (bs : Bytes) : List Bool :=
  bs.flatMap bitsOfByte

def bitsValue (bits : List Bool) : Nat :=
  bits.foldr (fun bit n => bit.toNat + 2 * n) 0

def lowBits (width n : Nat) : List Bool :=
  (List.range width).map n.testBit

lemma bitsOf_cons (b : UInt8) (bs : Bytes) : bitsOf (b :: bs) = bitsOfByte b ++ bitsOf bs :=
  List.flatMap_cons

lemma bitsOf_append (xs ys : Bytes) : bitsOf (xs ++ ys) = bitsOf xs ++ bitsOf ys :=
  List.flatMap_append

lemma bitsOfByte_eq (b : UInt8) : bitsOfByte b = lowBits 8 b.toNat := rfl

lemma lowBits_length (width n : Nat) : (lowBits width n).length = width := by
  rw [lowBits, List.length_map, List.length_range]

lemma bitsOf_length (bs : Bytes) : (bitsOf bs).length = 8 * bs.length := by
  induction bs with
  | nil => rfl
  | cons b bs ih =>
    rw [bitsOf_cons, List.length_append, bitsOfByte_eq, lowBits_length, ih, List.length_cons]
    omega

lemma bitsValue_testBit (n k : Nat) : bitsValue ((List.range k).map n.testBit) = n % 2 ^ k := by
  induction k generalizing n with
  | zero => simp [bitsValue, Nat.mod_one]
  | succ k ih =>
    have hs : (List.range k).map (fun i => n.testBit (i + 1)) = (List.range k).map (n / 2).testBit := by
      apply List.map_congr_left
      intro i _
      rw [Nat.testBit_succ]
    have hv : bitsValue ((List.range (k + 1)).map n.testBit) = (n.testBit 0).toNat + 2 * (n / 2 % 2 ^ k) := by
      rw [← ih, ← hs, List.range_succ_eq_map, List.map_cons, List.map_map]
      rfl
    have hb : (n.testBit 0).toNat = n % 2 := by
      rcases Nat.mod_two_eq_zero_or_one n with h | h <;> simp [Nat.testBit_zero, h]
    rw [hv, hb, Nat.pow_succ, Nat.mul_comm (2 ^ k) 2, Nat.mod_mul]

lemma bitsValue_bitsOfByte (b : UInt8) : bitsValue (bitsOfByte b) = b.toNat := by
  have hv := bitsValue_testBit b.toNat 8
  rw [Nat.mod_eq_of_lt b.toNat_lt] at hv
  exact hv

lemma bitsValue_lowBits {width n : Nat} (h : n < 2 ^ width) : bitsValue (lowBits width n) = n := by
  rw [lowBits, bitsValue_testBit, Nat.mod_eq_of_lt h]

lemma bitsOfByte_injective {a b : UInt8} (h : bitsOfByte a = bitsOfByte b) : a = b := by
  apply UInt8.toNat_inj.mp
  rw [← bitsValue_bitsOfByte a, h, bitsValue_bitsOfByte]

lemma bitsOf_eq_append {bs xs : Bytes} {rest : List Bool} (h : bitsOf bs = bitsOf xs ++ rest) :
    ∃ ys, bs = xs ++ ys ∧ bitsOf ys = rest := by
  induction xs generalizing bs with
  | nil => exact ⟨bs, rfl, h⟩
  | cons x xs ih =>
    cases bs with
    | nil =>
      have hl := congrArg List.length h
      simp only [List.length_append, bitsOf_length, List.length_cons, List.length_nil] at hl
      omega
    | cons b bs =>
      rw [bitsOf_cons, bitsOf_cons, List.append_assoc] at h
      obtain ⟨hb, hrest⟩ := List.append_inj h
        (by rw [bitsOfByte_eq, bitsOfByte_eq, lowBits_length, lowBits_length])
      obtain ⟨ys, rfl, hys⟩ := ih hrest
      exact ⟨ys, by rw [bitsOfByte_injective hb, List.cons_append], hys⟩

/-- The bits that a source has left. Of its last byte less than the whole is held back. -/
structure BitSource.Holds (s : BitSource) (bits : List Bool) : Prop where
  held : s.held.length < 8
  left : s.held ++ bitsOf s.bytes = bits

lemma BitSource.holds_bytes (bs : Bytes) : BitSource.Holds ⟨[], bs⟩ (bitsOf bs) :=
  ⟨Nat.zero_lt_succ 7, rfl⟩

lemma BitSource.Holds.size {s : BitSource} {bits : List Bool} (h : s.Holds bits) : s.size = bits.length := by
  rw [← h.left, BitSource.size, List.length_append, bitsOf_length]

section Reader

variable {α β : Type} {x : BitReader α} {f : α → BitReader β} {s s' : BitSource}

lemma reader_pure (a : α) (s : BitSource) : (pure a : BitReader α) s = .ok (a, s) := rfl

lemma reader_bind {a : α} (h : x s = .ok (a, s')) : (x >>= f) s = f a s' := by
  change Except.bind (x s) (fun p => f p.1 p.2) = _
  rw [h]
  rfl

end Reader

def Takes {α : Type} (x : BitReader α) (word : List Bool) (a : α) : Prop :=
  ∀ s rest, s.Holds (word ++ rest) → ∃ s', x s = .ok (a, s') ∧ s'.Holds rest

namespace Takes

variable {α β : Type} {x : BitReader α} {f : α → BitReader β} {v w : List Bool} {a : α} {b : β}

lemma pure (a : α) : Takes (pure a) [] a := by
  intro s rest hs
  exact ⟨s, reader_pure a s, hs⟩

lemma bind (hx : Takes x v a) (hf : Takes (f a) w b) : Takes (x >>= f) (v ++ w) b := by
  intro s rest hs
  rw [List.append_assoc] at hs
  obtain ⟨s₁, h₁, hs₁⟩ := hx s _ hs
  obtain ⟨s₂, h₂, hs₂⟩ := hf s₁ rest hs₁
  exact ⟨s₂, by rw [reader_bind h₁, h₂], hs₂⟩

lemma bind_pure (hx : Takes x v a) {g : α → β} : Takes (x >>= fun a => Pure.pure (g a)) v (g a) := by
  have hb := hx.bind (f := fun a => Pure.pure (g a)) (Takes.pure (g a))
  rwa [List.append_nil] at hb

end Takes

lemma takes_readBit (bit : Bool) : Takes readBit [bit] bit := by
  rintro ⟨held, bytes⟩ rest ⟨hheld, hleft⟩
  cases held with
  | cons c held =>
    simp only [List.cons_append, List.nil_append, List.cons.injEq] at hleft
    obtain ⟨rfl, hleft⟩ := hleft
    simp only [List.length_cons] at hheld
    exact ⟨⟨held, bytes⟩, rfl, by simp only; omega, hleft⟩
  | nil =>
    cases bytes with
    | nil => cases hleft
    | cons b bytes =>
      have hb : bitsOfByte b = b.toNat.testBit 0 :: (bitsOfByte b).tail := rfl
      rw [List.nil_append, bitsOf_cons, hb] at hleft
      simp only [List.cons_append, List.nil_append, List.cons.injEq] at hleft
      obtain ⟨rfl, hleft⟩ := hleft
      exact ⟨⟨(bitsOfByte b).tail, bytes⟩, rfl, by simp [bitsOfByte], hleft⟩

lemma takes_readBits (word : List Bool) : Takes (readBits word.length) word (bitsValue word) := by
  induction word with
  | nil => exact Takes.pure 0
  | cons bit word ih => exact (takes_readBit bit).bind ih.bind_pure

lemma takes_lowBits (width : Nat) {n : Nat} (h : n < 2 ^ width) : Takes (readBits width) (lowBits width n) n := by
  have ht := takes_readBits (lowBits width n)
  rwa [lowBits_length, bitsValue_lowBits h] at ht

lemma takes_alignToByte (padding : List Bool) (hp : padding.length < 8) {s : BitSource} {rest : List Bool}
    (hr : rest.length % 8 = 0) (hs : s.Holds (padding ++ rest)) :
    alignToByte s = .ok ((), ⟨[], s.bytes⟩) ∧ bitsOf s.bytes = rest := by
  refine ⟨rfl, ?_⟩
  have hl := congrArg List.length hs.left
  simp only [List.length_append, bitsOf_length] at hl
  have hheld := hs.held
  exact (List.append_inj hs.left (by omega)).2

end IdentityProvider.Deflate
