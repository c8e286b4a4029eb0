import IdentityProvider.Proofs.Transport.Payload
/-! Texts with characters as triplets and with blanks in between, decoded again. -/

namespace IdentityProvider

lemma Bytes.ofText_ofList (cs : List Char) : ofText (String.ofList cs) = cs.flatMap String.utf8EncodeChar := by
  rw [ofText, String.toUTF8_eq_toByteArray, String.toByteArray_ofList, List.utf8Encode, List.data_toByteArray]

namespace Percent

inductive Triplets : Bytes → List Char → Prop
  | nil : Triplets [] []
  | cons (b : UInt8) (u v : Bool) {bs : Bytes} {w : List Char} (h : Triplets bs w) :
    Triplets (b :: bs) ('%' :: Text.hexDigit u (b.toNat / 16) :: Text.hexDigit v (b.toNat % 16) :: w)

inductive Written (c : Char) : List Char → Prop
  | plain : Written c [c]
  | triplets {w : List Char} (h : Triplets (String.utf8EncodeChar c) w) : Written c w

/-- A text with any of its characters as triplets, and with blanks inserted that may be triplets too. -/
inductive Disguises : List Char → List Char → Prop
  | nil : Disguises [] []
  | keep {c : Char} {cs v w : List Char} (hc : Written c v) (h : Disguises cs w) : Disguises (c :: cs) (v ++ w)
  | blank {c : Char} {cs v w : List Char} (hb : Text.isBlank c = true) (hc : Written c v) (h : Disguises cs w) :
    Disguises cs (v ++ w)

lemma Disguises.refl (cs : List Char) : Disguises cs cs := by
  induction cs with
  | nil => exact .nil
  | cons c cs ih => exact .keep .plain ih

def Reads (w : List Char) (bs : Bytes) : Prop :=
  ∀ read rest, decodeOnto read (w.flatMap String.utf8EncodeChar ++ rest) = decodeOnto (bs.reverse ++ read) rest

lemma reads_nil : Reads [] [] := fun _ _ => rfl

lemma Reads.append {v w : List Char} {xs ys : Bytes} (hv : Reads v xs) (hw : Reads w ys) :
    Reads (v ++ w) (xs ++ ys) := by
  intro read rest
  rw [List.flatMap_append, List.append_assoc, hv, hw, List.reverse_append, List.append_assoc]

lemma decodeOnto_cons {b : UInt8} (h : b ≠ 37) (read rest : Bytes) :
    decodeOnto read (b :: rest) = decodeOnto (b :: read) rest := by
  rcases rest with _ | ⟨x, _ | ⟨y, rest⟩⟩
  · rfl
  · rfl
  · rw [decodeOnto, if_neg h]

lemma decodeOnto_plain {bs : Bytes} (h : ∀ b ∈ bs, b ≠ 37) (read rest : Bytes) :
    decodeOnto read (bs ++ rest) = decodeOnto (bs.reverse ++ read) rest := by
  induction bs generalizing read with
  | nil => rfl
  | cons b bs ih =>
    rw [List.forall_mem_cons] at h
    rw [List.cons_append, decodeOnto_cons h.1, ih h.2, List.reverse_cons, List.append_assoc]
    rfl

lemma ofNat_ne_percent {n : Nat} (h : n % 256 ≠ 37) : UInt8.ofNat n ≠ 37 := by
  intro he
  have ht := congrArg UInt8.toNat he
  rw [UInt8.toNat_ofNat'] at ht
  exact h ht

lemma utf8EncodeChar_ne_percent {c : Char} (h : c ≠ '%') : ∀ b ∈ String.utf8EncodeChar c, b ≠ 37 := by
  have hc : c.val.toNat ≠ 37 := fun hv => h (Char.ext (UInt32.toNat_inj.mp hv))
  simp only [String.utf8EncodeChar]
  generalize c.val.toNat = n at hc
  split
  case isTrue hn =>
    simp only [List.forall_mem_cons, List.not_mem_nil, false_implies, implies_true, and_true]
    exact ofNat_ne_percent (by omega)
  split
  case isTrue =>
    simp only [List.forall_mem_cons, List.not_mem_nil, false_implies, implies_true, and_true]
    exact ⟨ofNat_ne_percent (by omega), ofNat_ne_percent (by omega)⟩
  split
  case isTrue =>
    simp only [List.forall_mem_cons, List.not_mem_nil, false_implies, implies_true, and_true]
    exact ⟨ofNat_ne_percent (by omega), ofNat_ne_percent (by omega), ofNat_ne_percent (by omega)⟩
  case isFalse =>
    simp only [List.forall_mem_cons, List.not_mem_nil, false_implies, implies_true, and_true]
    exact ⟨ofNat_ne_percent (by omega), ofNat_ne_percent (by omega), ofNat_ne_percent (by omega),
      ofNat_ne_percent (by omega)⟩

lemma reads_plain {c : Char} (h : c ≠ '%') : Reads [c] (String.utf8EncodeChar c) := by
  intro read rest
  rw [List.flatMap_singleton]
  exact decodeOnto_plain (utf8EncodeChar_ne_percent h) read rest

lemma hexDigit_byte (u : Bool) {n : Nat} (h : n < 16) :
    ∃ b, String.utf8EncodeChar (Text.hexDigit u n) = [b] ∧ Text.hexValue (Char.ofNat b.toNat) = some n := by
  have ha : ∀ (u : Bool) (m : Fin 16),
      String.utf8EncodeChar (Text.hexDigit u m) = [UInt8.ofNat (Text.hexDigit u m).toNat] ∧
        Text.hexValue (Char.ofNat (UInt8.ofNat (Text.hexDigit u m).toNat).toNat) = some m.1 := by decide
  exact ⟨_, ha u ⟨n, h⟩⟩

lemma Triplets.reads {bs : Bytes} {w : List Char} (h : Triplets bs w) : Reads w bs := by
  induction h with
  | nil => exact reads_nil
  | @cons b u v bs w h ih =>
    have hb := b.toNat_lt
    obtain ⟨x, hx, hxv⟩ := hexDigit_byte u (show b.toNat / 16 < 16 by omega)
    obtain ⟨y, hy, hyv⟩ := hexDigit_byte v (show b.toNat % 16 < 16 by omega)
    have ht : triplet? x y = some b := by
      rw [triplet?, hxv, hyv]
      exact congrArg some (Base64.ofNat_of_toNat (Nat.div_add_mod b.toNat 16))
    have hpercent : String.utf8EncodeChar '%' = [37] := by decide
    intro read rest
    simp only [List.flatMap_cons, hpercent, hx, hy, List.reverse_cons, List.append_assoc, List.cons_append,
      List.nil_append]
    rw [decodeOnto, if_pos rfl, ht]
    exact ih (b :: read) rest

lemma Written.reads {c : Char} {w : List Char} (h : Written c w) (hc : c ≠ '%') :
    Reads w (String.utf8EncodeChar c) := by
  cases h with
  | plain => exact reads_plain hc
  | triplets h => exact h.reads

lemma Disguises.reads {cs w : List Char} (h : Disguises cs w) (hp : ∀ c ∈ cs, c ≠ '%') :
    ∃ ds, Text.Spaced cs ds ∧ Reads w (ds.flatMap String.utf8EncodeChar) := by
  induction h with
  | nil => exact ⟨[], .nil, reads_nil⟩
  | @keep c cs v w hc h ih =>
    rw [List.forall_mem_cons] at hp
    obtain ⟨ds, hs, hr⟩ := ih hp.2
    exact ⟨c :: ds, .keep c hs, (hc.reads hp.1).append hr⟩
  | @blank c cs v w hb hc h ih =>
    obtain ⟨ds, hs, hr⟩ := ih hp
    have hne : c ≠ '%' := by
      rintro rfl
      cases hb
    exact ⟨c :: ds, .blank hb hs, (hc.reads hne).append hr⟩

lemma decode_disguise {s t : String} (h : Disguises s.toList t.toList) (hp : ∀ c ∈ s.toList, c ≠ '%') :
    ∃ spaced : String, Text.Spaced s.toList spaced.toList ∧ decode? t = some spaced := by
  obtain ⟨ds, hs, hr⟩ := h.reads hp
  refine ⟨String.ofList ds, by rwa [String.toList_ofList], ?_⟩
  have ht : Bytes.ofText t = t.toList.flatMap String.utf8EncodeChar := by
    rw [← Bytes.ofText_ofList, String.ofList_toList]
  have hread := hr [] []
  rw [List.append_nil, List.append_nil, ← ht, ← Bytes.ofText_ofList] at hread
  rw [decode?, hread, decodeOnto, List.reverse_reverse, Bytes.toText_ofText]

end Percent

end IdentityProvider
