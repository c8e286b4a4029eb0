import Mathlib.Data.Option.Basic
import Mathlib.Tactic.Common
import IdentityProvider.Bytes.Base64
import IdentityProvider.Proofs.Bytes.Number
import IdentityProvider.Text.Blank

namespace IdentityProvider

lemma Bytes.toText_ofText (s : String) : Bytes.toText? (Bytes.ofText s) = some s := by
  have ha : (⟨(Bytes.ofText s).toArray⟩ : ByteArray) = s.toByteArray := rfl
  rw [Bytes.toText?, ha, String.fromUTF8?, dif_pos s.isValidUTF8]
  rfl

lemma Bytes.ofText_injective {s t : String} (h : ofText s = ofText t) : s = t := by
  have ht := toText_ofText s
  rw [h, toText_ofText, Option.some.injEq] at ht
  exact ht.symm

namespace Base64

lemma value_digit {n : Nat} (h : n < 64) : value? (digit n) = some n := by
  have ha : ∀ m : Fin 64, value? (digit m) = some m.1 := by decide
  exact ha ⟨n, h⟩

lemma digit_ne_equals {n : Nat} (h : n < 64) : digit n ≠ '=' := by
  intro he
  have hv := value_digit h
  rw [he] at hv
  cases hv

lemma digit_not_blank {n : Nat} (h : n < 64) : Text.isBlank (digit n) = false := by
  have ha : ∀ m : Fin 64, Text.isBlank (digit m) = false := by decide
  exact ha ⟨n, h⟩

def digits : Bytes → List Char
  | [] => []
  | [a] => [digit (a.toNat / 4), digit (a.toNat % 4 * 16), '=', '=']
  | [a, b] => [digit (a.toNat / 4), digit (a.toNat % 4 * 16 + b.toNat / 16), digit (b.toNat % 16 * 4), '=']
  | a :: b :: c :: rest =>
    digit (a.toNat / 4) :: digit (a.toNat % 4 * 16 + b.toNat / 16) ::
      digit (b.toNat % 16 * 4 + c.toNat / 64) :: digit (c.toNat % 64) :: digits rest

lemma encodeOnto_eq (written : List Char) (bs : Bytes) :
    encodeOnto written bs = written.reverse ++ digits bs := by
  fun_induction encodeOnto written bs with
  | case1 written => simp [digits]
  | case2 written a => simp [digits]
  | case3 written a b => simp [digits]
  | case4 written a b c rest ih => simp [digits, ih]

lemma toList_encode (bs : Bytes) : (encode bs).toList = digits bs := by
  simp [encode, encodeOnto_eq]

lemma decodeOnto_digits (read : Bytes) (rest : List Char) {x y z w : Nat} (hx : x < 64) (hy : y < 64)
    (hz : z < 64) (hw : w < 64) :
    decodeOnto read (digit x :: digit y :: digit z :: digit w :: rest) =
      decodeOnto (UInt8.ofNat (z % 4 * 64 + w) :: UInt8.ofNat (y % 16 * 16 + z / 4) ::
        UInt8.ofNat (x * 4 + y / 16) :: read) rest := by
  have he := digit_ne_equals hw
  cases rest <;> simp [decodeOnto, value_digit hx, value_digit hy, value_digit hz, value_digit hw, he]

lemma decodeOnto_one (read : Bytes) {x y : Nat} (hx : x < 64) (hy : y < 64) (h : y % 16 = 0) :
    decodeOnto read [digit x, digit y, '=', '='] = some (UInt8.ofNat (x * 4 + y / 16) :: read).reverse := by
  simp [decodeOnto, value_digit hx, value_digit hy, h, guard]

lemma decodeOnto_two (read : Bytes) {x y z : Nat} (hx : x < 64) (hy : y < 64) (hz : z < 64) (h : z % 4 = 0) :
    decodeOnto read [digit x, digit y, digit z, '='] =
      some (UInt8.ofNat (y % 16 * 16 + z / 4) :: UInt8.ofNat (x * 4 + y / 16) :: read).reverse := by
  simp [decodeOnto, value_digit hx, value_digit hy, value_digit hz, h, guard, digit_ne_equals hz]

lemma ofNat_of_toNat {n : Nat} {a : UInt8} (h : n = a.toNat) : UInt8.ofNat n = a := by
  rw [h, UInt8.ofNat_toNat]

lemma decodeOnto_digitsOf (read bs : Bytes) : decodeOnto read (digits bs) = some (read.reverse ++ bs) := by
  fun_induction digits bs generalizing read with
  | case1 => simp [decodeOnto]
  | case2 a =>
    have ha := a.toNat_lt
    rw [decodeOnto_one read (by omega) (by omega) (by omega), ofNat_of_toNat (a := a) (by omega)]
    simp
  | case3 a b =>
    have ha := a.toNat_lt
    have hb := b.toNat_lt
    rw [decodeOnto_two read (by omega) (by omega) (by omega) (by omega), ofNat_of_toNat (a := b) (by omega),
      ofNat_of_toNat (a := a) (by omega)]
    simp
  | case4 a b c rest ih =>
    have ha := a.toNat_lt
    have hb := b.toNat_lt
    have hc := c.toNat_lt
    rw [decodeOnto_digits read _ (by omega) (by omega) (by omega) (by omega), ih,
      ofNat_of_toNat (a := c) (by omega), ofNat_of_toNat (a := b) (by omega), ofNat_of_toNat (a := a) (by omega)]
    simp

lemma digits_forall {P : Char → Prop} (hd : ∀ n, n < 64 → P (digit n)) (he : P '=') (bs : Bytes) :
    ∀ c ∈ digits bs, P c := by
  fun_induction digits bs with
  | case1 => simp
  | case2 a =>
    have ha := a.toNat_lt
    simp only [List.forall_mem_cons]
    exact ⟨hd _ (by omega), hd _ (by omega), he, he, by simp⟩
  | case3 a b =>
    have ha := a.toNat_lt
    have hb := b.toNat_lt
    simp only [List.forall_mem_cons]
    exact ⟨hd _ (by omega), hd _ (by omega), hd _ (by omega), he, by simp⟩
  | case4 a b c rest ih =>
    have ha := a.toNat_lt
    have hb := b.toNat_lt
    have hc := c.toNat_lt
    simp only [List.forall_mem_cons]
    exact ⟨hd _ (by omega), hd _ (by omega), hd _ (by omega), hd _ (by omega), ih⟩

lemma removeBlanks_encode (bs : Bytes) : Text.removeBlanks (encode bs) = digits bs := by
  rw [Text.removeBlanks, toList_encode, List.filter_eq_self]
  exact digits_forall (fun n hn => by simp [digit_not_blank hn]) (by decide) bs

theorem decode_removeBlanks_encode (bs : Bytes) : decode (Text.removeBlanks (encode bs)) = some bs := by
  rw [removeBlanks_encode, decode, decodeOnto_digitsOf, List.reverse_nil, List.nil_append]

lemma digit_of_value {c : Char} {n : Nat} (h : value? c = some n) : n < 64 ∧ digit n = c := by
  simp only [value?] at h
  have hchar : ∀ {m : Nat}, m = c.toNat → Char.ofNat m = c := by
    rintro m rfl
    exact c.ofNat_toNat
  have hrange : ∀ {a b : Char}, (decide (a ≤ c) && decide (c ≤ b)) = true → a.toNat ≤ c.toNat ∧
    c.toNat ≤ b.toNat := by
    intro a b hab
    simp only [Bool.and_eq_true, decide_eq_true_eq] at hab
    exact hab
  split at h
  case isTrue hu =>
    obtain ⟨hl, hh⟩ : 65 ≤ c.toNat ∧ c.toNat ≤ 90 := hrange hu
    injection h with h
    refine ⟨by omega, ?_⟩
    rw [digit, if_pos (by omega)]
    exact hchar (by omega)
  split at h
  case isTrue hu =>
    obtain ⟨hl, hh⟩ : 97 ≤ c.toNat ∧ c.toNat ≤ 122 := hrange hu
    injection h with h
    refine ⟨by omega, ?_⟩
    rw [digit, if_neg (by omega), if_pos (by omega)]
    exact hchar (by omega)
  split at h
  case isTrue hu =>
    obtain ⟨hl, hh⟩ : 48 ≤ c.toNat ∧ c.toNat ≤ 57 := hrange hu
    injection h with h
    refine ⟨by omega, ?_⟩
    rw [digit, if_neg (by omega), if_neg (by omega), if_pos (by omega)]
    exact hchar (by omega)
  split at h
  case isTrue hu =>
    injection h with h
    subst h
    exact ⟨by decide, (beq_iff_eq.mp hu).symm⟩
  split at h
  case isTrue hu =>
    injection h with h
    subst h
    exact ⟨by decide, (beq_iff_eq.mp hu).symm⟩
  cases h

lemma digits_one {x y : Nat} (hx : x < 64) (hy : y < 64) (h : y % 16 = 0) :
    digits [UInt8.ofNat (x * 4 + y / 16)] = [digit x, digit y, '=', '='] := by
  rw [digits, Bytes.toNat_ofNat_of_lt (by omega), show (x * 4 + y / 16) / 4 = x by omega,
    show (x * 4 + y / 16) % 4 * 16 = y by omega]

lemma digits_two {x y z : Nat} (hx : x < 64) (hy : y < 64) (hz : z < 64) (h : z % 4 = 0) :
    digits [UInt8.ofNat (x * 4 + y / 16), UInt8.ofNat (y % 16 * 16 + z / 4)] =
      [digit x, digit y, digit z, '='] := by
  rw [digits, Bytes.toNat_ofNat_of_lt (by omega), Bytes.toNat_ofNat_of_lt (by omega),
    show (x * 4 + y / 16) / 4 = x by omega,
    show (x * 4 + y / 16) % 4 * 16 + (y % 16 * 16 + z / 4) / 16 = y by omega,
    show (y % 16 * 16 + z / 4) % 16 * 4 = z by omega]

lemma digits_three (rest : Bytes) {x y z w : Nat} (hx : x < 64) (hy : y < 64) (hz : z < 64) (hw : w < 64) :
    digits (UInt8.ofNat (x * 4 + y / 16) :: UInt8.ofNat (y % 16 * 16 + z / 4) :: UInt8.ofNat
      (z % 4 * 64 + w) :: rest) =
      digit x :: digit y :: digit z :: digit w :: digits rest := by
  rw [digits, Bytes.toNat_ofNat_of_lt (by omega), Bytes.toNat_ofNat_of_lt (by omega),
    Bytes.toNat_ofNat_of_lt (by omega), show (x * 4 + y / 16) / 4 = x by omega,
    show (x * 4 + y / 16) % 4 * 16 + (y % 16 * 16 + z / 4) / 16 = y by omega,
    show (y % 16 * 16 + z / 4) % 16 * 4 + (z % 4 * 64 + w) / 64 = z by omega,
    show (z % 4 * 64 + w) % 64 = w by omega]

lemma digits_of_decodeOnto {read bs : Bytes} {cs : List Char} (h : decodeOnto read cs = some bs) :
    ∃ rest, bs = read.reverse ++ rest ∧ digits rest = cs := by
  fun_induction decodeOnto read cs with
  | case1 read =>
    injection h with h
    exact ⟨[], by rw [List.append_nil, h], rfl⟩
  | case2 read a b =>
    simp only [Option.bind_eq_bind, Option.bind_eq_some_iff, Option.guard_eq_some'] at h
    obtain ⟨x, hx, y, hy, _, hz, hb⟩ := h
    obtain ⟨hxl, rfl⟩ := digit_of_value hx
    obtain ⟨hyl, rfl⟩ := digit_of_value hy
    injection hb with hb
    refine ⟨[UInt8.ofNat (x * 4 + y / 16)], ?_, digits_one hxl hyl hz⟩
    rw [← hb, List.reverse_cons]
  | case3 read a b c =>
    simp only [Option.bind_eq_bind, Option.bind_eq_some_iff, Option.guard_eq_some'] at h
    obtain ⟨x, hx, y, hy, z, hz, _, hw, hb⟩ := h
    obtain ⟨hxl, rfl⟩ := digit_of_value hx
    obtain ⟨hyl, rfl⟩ := digit_of_value hy
    obtain ⟨hzl, rfl⟩ := digit_of_value hz
    injection hb with hb
    refine ⟨[UInt8.ofNat (x * 4 + y / 16), UInt8.ofNat (y % 16 * 16 + z / 4)], ?_, digits_two hxl hyl hzl hw⟩
    rw [← hb, List.reverse_cons, List.reverse_cons, List.append_assoc]
    rfl
  | case4 read a b c d rest _ _ ih =>
    simp only [Option.bind_eq_bind, Option.bind_eq_some_iff] at h
    obtain ⟨x, hx, y, hy, z, hz, w, hw, hb⟩ := h
    obtain ⟨later, rfl, hl⟩ := ih x y z w hb
    obtain ⟨hxl, rfl⟩ := digit_of_value hx
    obtain ⟨hyl, rfl⟩ := digit_of_value hy
    obtain ⟨hzl, rfl⟩ := digit_of_value hz
    obtain ⟨hwl, rfl⟩ := digit_of_value hw
    refine ⟨UInt8.ofNat (x * 4 + y / 16) :: UInt8.ofNat (y % 16 * 16 + z / 4) :: UInt8.ofNat
      (z % 4 * 64 + w) :: later, ?_, ?_⟩
    · simp only [List.reverse_cons, List.append_assoc, List.cons_append, List.nil_append]
    · rw [digits_three later hxl hyl hzl hwl, hl]
  | case5 => cases h

theorem decode_eq_some_iff {cs : List Char} {bs : Bytes} : decode cs = some bs ↔ cs = digits bs := by
  constructor
  · intro h
    obtain ⟨rest, hb, hd⟩ := digits_of_decodeOnto h
    rw [hb, List.reverse_nil, List.nil_append, hd]
  · rintro rfl
    exact decodeOnto_digitsOf [] bs

end Base64

end IdentityProvider
