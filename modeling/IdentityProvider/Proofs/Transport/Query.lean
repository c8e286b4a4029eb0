import Mathlib.Data.List.TakeWhile
import IdentityProvider.Proofs.Transport.Disguise
import IdentityProvider.Proofs.Xml.Trimming
import IdentityProvider.Transport.Redirect
/-! The parameters in the query of a URL, and those that a message adds to it. -/

namespace IdentityProvider

namespace Percent

lemma decodeOnto_reads {w : List Char} {bs : Bytes} (h : Reads w bs) :
    decodeOnto [] (Bytes.ofText (String.ofList w)) = bs := by
  have hr := h [] []
  rwa [List.append_nil, List.append_nil, decodeOnto, List.reverse_reverse, ← Bytes.ofText_ofList] at hr

lemma reads_of_plain {w : List Char} (h : '%' ∉ w) : Reads w (Bytes.ofText (String.ofList w)) := by
  rw [Bytes.ofText_ofList]
  induction w with
  | nil => exact reads_nil
  | cons c w ih =>
    rw [List.mem_cons, not_or] at h
    exact (reads_plain (Ne.symm h.1)).append (ih h.2)

lemma unreserved_toNat {b : UInt8} (h : isUnreserved b = true) :
    b.toNat < 128 ∧ b.toNat ∉ [35, 37, 38, 61, 63] := by
  simp only [isUnreserved, Bool.or_eq_true, Bool.and_eq_true, decide_eq_true_eq, beq_iff_eq, UInt8.le_iff_toNat_le,
    ← UInt8.toNat_inj, UInt8.reduceToNat] at h
  simp only [List.mem_cons, List.not_mem_nil, or_false, not_or]
  omega

lemma toNat_charOfNat {n : Nat} (h : n < 128) : (Char.ofNat n).toNat = n := by
  have hn : n.isValidChar := Or.inl (by omega)
  rw [Char.ofNat, dif_pos hn]
  rfl

lemma utf8EncodeChar_ascii {n : Nat} (h : n < 128) : String.utf8EncodeChar (Char.ofNat n) = [UInt8.ofNat n] := by
  have hv : (Char.ofNat n).val.toNat = n := toNat_charOfNat h
  rw [String.utf8EncodeChar]
  simp only [hv]
  rw [if_pos (by omega)]

lemma reads_encodeByte (b : UInt8) : Reads (encodeByte b) [b] := by
  rw [encodeByte]
  split
  case isTrue h =>
    obtain ⟨hlt, hb⟩ := unreserved_toNat h
    have hp : b ≠ 37 := by
      rintro rfl
      exact hb (by decide)
    intro read rest
    rw [List.flatMap_singleton, utf8EncodeChar_ascii hlt, UInt8.ofNat_toNat]
    exact decodeOnto_cons hp read rest
  case isFalse => exact (Triplets.cons b true true .nil).reads

lemma reads_encode (s : String) : Reads (encode s).toList (Bytes.ofText s) := by
  rw [encode, String.toList_ofList]
  induction Bytes.ofText s with
  | nil => exact reads_nil
  | cons b bs ih => exact (reads_encodeByte b).append ih

def dividers : List Char :=
  ['#', '?', '&', '=']

lemma encodeByte_divides_nothing {c : Char} (hc : c ∈ dividers) (b : UInt8) : c ∉ encodeByte b := by
  have hpercent : '%' ∉ dividers := by decide
  have hreserved : ∀ c ∈ dividers, c.toNat ∈ [35, 37, 38, 61, 63] := by simp [dividers]
  have hdigit : ∀ n < 16, Text.hexDigit true n ∉ dividers := by decide
  have hne : ∀ d, d ∉ dividers → c ≠ d := by
    rintro d hd rfl
    exact hd hc
  rw [encodeByte]
  split
  case isTrue h =>
    rw [List.mem_singleton]
    rintro rfl
    obtain ⟨hlt, hb⟩ := unreserved_toNat h
    have hr := hreserved _ hc
    rw [toNat_charOfNat hlt] at hr
    exact hb hr
  case isFalse =>
    have hb := b.toNat_lt
    simp only [List.mem_cons, List.not_mem_nil, or_false, not_or]
    exact ⟨hne _ hpercent, hne _ (hdigit _ (by omega)), hne _ (hdigit _ (by omega))⟩

lemma encode_divides_nothing {c : Char} (hc : c ∈ dividers) (s : String) : c ∉ (encode s).toList := by
  rw [encode, String.toList_ofList, List.mem_flatMap]
  rintro ⟨b, _, hb⟩
  exact encodeByte_divides_nothing hc b hb

end Percent

namespace Url

def beforeQuery (url : List Char) : List Char :=
  (url.takeWhile (· != '#')).takeWhile (· != '?')

def query (url : List Char) : List Char :=
  ((url.takeWhile (· != '#')).dropWhile (· != '?')).drop 1

def decoded (w : List Char) : Bytes :=
  Percent.decodeOnto [] (Bytes.ofText (String.ofList w))

def parameter (piece : List Char) : Bytes × Bytes :=
  (decoded (piece.takeWhile (· != '=')), decoded ((piece.dropWhile (· != '=')).drop 1))

def parametersOf (query : List Char) : List (Bytes × Bytes) :=
  ((query.splitOn '&').filter fun piece => !piece.isEmpty).map parameter

def parameters (url : String) : List (Bytes × Bytes) :=
  parametersOf (query url.toList)

lemma parametersOf_nil : parametersOf [] = [] := rfl

lemma parametersOf_append (q r : List Char) : parametersOf (q ++ '&' :: r) = parametersOf q ++ parametersOf r := by
  rw [parametersOf, List.splitOn_append_cons_self, List.filter_append, List.map_append]
  rfl

lemma parametersOf_encoded {name : String} (hp : '%' ∉ name.toList) (ha : '&' ∉ name.toList)
    (he : '=' ∉ name.toList) (value : String) :
    parametersOf (name.toList ++ '=' :: (Percent.encode value).toList) =
      [(Bytes.ofText name, Bytes.ofText value)] := by
  have hv : '&' ∉ (Percent.encode value).toList := Percent.encode_divides_nothing (by decide) value
  have hs : '&' ∉ name.toList ++ '=' :: (Percent.encode value).toList := by simp [ha, hv]
  have hn : ∀ c ∈ name.toList, (c != '=') = true := by
    intro c hc
    rw [bne_iff_ne]
    rintro rfl
    exact he hc
  rw [parametersOf, List.splitOn_eq_singleton hs, List.filter_cons_of_pos (by simp), List.filter_nil,
    List.map_singleton, parameter, List.takeWhile_append_of_pos hn, List.dropWhile_append_of_pos hn]
  simp only [bne_self_eq_false, Bool.false_eq_true, not_false_eq_true, List.takeWhile_cons_of_neg,
    List.dropWhile_cons_of_neg, List.append_nil, List.drop_succ_cons, List.drop_zero, decoded]
  rw [Percent.decodeOnto_reads (Percent.reads_of_plain hp), Percent.decodeOnto_reads (Percent.reads_encode value),
    String.ofList_toList]

lemma takeWhile_append_of_mem {p : Char → Bool} {c : Char} {xs : List Char} (hc : c ∈ xs) (hp : p c = false)
    (ys : List Char) : (xs ++ ys).takeWhile p = xs.takeWhile p := by
  induction xs with
  | nil => cases hc
  | cons x xs ih =>
    rcases List.mem_cons.mp hc with rfl | hm
    · simp [hp]
    · rw [List.cons_append, List.takeWhile_cons, List.takeWhile_cons, ih hm]

lemma query_append_of_fragment {url : List Char} (h : '#' ∈ url) (added : List Char) :
    beforeQuery (url ++ added) = beforeQuery url ∧ query (url ++ added) = query url := by
  rw [beforeQuery, query, takeWhile_append_of_mem h rfl]
  exact ⟨rfl, rfl⟩

lemma takeWhile_of_not_mem {c : Char} {xs : List Char} (h : c ∉ xs) : xs.takeWhile (· != c) = xs := by
  rw [List.takeWhile_eq_self_iff]
  exact List.all_eq_true.mp (Text.all_ne_of_not_mem h)

lemma query_append_of_query {url : List Char} (added : List Char) (h : '#' ∉ url ++ added) (hq : '?' ∈ url) :
    beforeQuery (url ++ added) = beforeQuery url ∧ query (url ++ added) = query url ++ added := by
  have hu : '#' ∉ url := fun hm => h (List.mem_append_left _ hm)
  rw [beforeQuery, beforeQuery, query, query, takeWhile_of_not_mem h, takeWhile_of_not_mem hu]
  refine ⟨takeWhile_append_of_mem hq rfl added, ?_⟩
  obtain ⟨before, after, rfl, hb⟩ := List.eq_append_cons_of_mem hq
  have hbefore : ∀ c ∈ before, (c != '?') = true := List.takeWhile_eq_self_iff.mp (takeWhile_of_not_mem hb)
  rw [List.append_assoc, List.dropWhile_append_of_pos hbefore, List.dropWhile_append_of_pos hbefore]
  rfl

lemma query_append_of_none {url : List Char} (added : List Char) (h : '#' ∉ url ++ '?' :: added) (hq : '?' ∉ url) :
    beforeQuery (url ++ '?' :: added) = beforeQuery url ∧ query (url ++ '?' :: added) = added ∧
      query url = [] := by
  have hu : '#' ∉ url := fun hm => h (List.mem_append_left _ hm)
  have hbefore : ∀ c ∈ url, (c != '?') = true := List.takeWhile_eq_self_iff.mp (takeWhile_of_not_mem hq)
  rw [beforeQuery, beforeQuery, query, query, takeWhile_of_not_mem h, takeWhile_of_not_mem hu,
    List.takeWhile_append_of_pos hbefore, List.dropWhile_append_of_pos hbefore, takeWhile_of_not_mem hq,
    List.dropWhile_eq_nil_iff.mpr hbefore]
  simp

end Url

open Url

def messageParameters (type : MessageType) (payload : String) (relayState : Option String) :
    List (Bytes × Bytes) :=
  (Bytes.ofText type.parameter, Bytes.ofText payload) ::
    (relayState.map fun state => (Bytes.ofText "RelayState", Bytes.ofText state)).toList

def messageQuery (type : MessageType) (payload : String) (relayState : Option String) : List Char :=
  type.parameter.toList ++ '=' :: (Percent.encode payload).toList ++
    match relayState with
    | some state => '&' :: ("RelayState".toList ++ '=' :: (Percent.encode state).toList)
    | none => []

lemma redirectUrl_toList (destination : String) (type : MessageType) (payload : String)
    (relayState : Option String) :
    (redirectUrl destination type payload relayState).toList = destination.toList ++
      (if '?' ∈ destination.toList then '&' else '?') :: messageQuery type payload relayState := by
  cases relayState <;> by_cases hq : '?' ∈ destination.toList <;> simp [redirectUrl, messageQuery, hq]

lemma parametersOf_messageQuery (type : MessageType) (payload : String) (relayState : Option String) :
    parametersOf (messageQuery type payload relayState) = messageParameters type payload relayState := by
  have hm : parametersOf (type.parameter.toList ++ '=' :: (Percent.encode payload).toList) =
      [(Bytes.ofText type.parameter, Bytes.ofText payload)] := by
    apply parametersOf_encoded <;> cases type <;> decide
  cases relayState with
  | none => rw [messageQuery, List.append_nil, hm]; rfl
  | some state =>
    have hs : parametersOf ("RelayState".toList ++ '=' :: (Percent.encode state).toList) =
        [(Bytes.ofText "RelayState", Bytes.ofText state)] := by
      apply parametersOf_encoded <;> decide
    rw [messageQuery, parametersOf_append, hm, hs]
    rfl

lemma messageQuery_no_fragment (type : MessageType) (payload : String) (relayState : Option String) :
    '#' ∉ messageQuery type payload relayState := by
  have he : ∀ s, '#' ∉ (Percent.encode s).toList := Percent.encode_divides_nothing (by decide)
  have ht : '#' ∉ type.parameter.toList := by cases type <;> decide
  cases relayState <;> simp [messageQuery, he, ht]

/-- The URL keeps what stands before the query of the destination and the parameters in it. The message and the
relay state are read after those as they were given, unless the destination has a fragment: then they are put
into it, and are no parameters. -/
theorem redirectUrl_reads_back (destination : String) (type : MessageType) (payload : String)
    (relayState : Option String) :
    beforeQuery (redirectUrl destination type payload relayState).toList = beforeQuery destination.toList ∧
      parameters (redirectUrl destination type payload relayState) =
        parameters destination ++
          if '#' ∈ destination.toList then [] else messageParameters type payload relayState := by
  simp only [parameters, redirectUrl_toList]
  by_cases hf : '#' ∈ destination.toList
  · obtain ⟨hb, hq⟩ := query_append_of_fragment hf
      ((if '?' ∈ destination.toList then '&' else '?') :: messageQuery type payload relayState)
    rw [hb, hq, if_pos hf, List.append_nil]
    exact ⟨rfl, rfl⟩
  · have hm := messageQuery_no_fragment type payload relayState
    rw [if_neg hf]
    by_cases hq : '?' ∈ destination.toList
    · rw [if_pos hq]
      obtain ⟨hb, hr⟩ := query_append_of_query ('&' :: messageQuery type payload relayState) (by simp [hf, hm]) hq
      rw [hb, hr, parametersOf_append, parametersOf_messageQuery]
      exact ⟨rfl, rfl⟩
    · rw [if_neg hq]
      obtain ⟨hb, hr, hn⟩ := query_append_of_none (messageQuery type payload relayState) (by simp [hf, hm]) hq
      rw [hb, hr, hn, parametersOf_messageQuery, parametersOf_nil, List.nil_append]
      exact ⟨rfl, rfl⟩

theorem redirectUrl_lost_in_fragment :
    parameters (redirectUrl "https://sp.example/acs#top" .response "abc" none) ≠
      parameters "https://sp.example/acs#top" ++ messageParameters .response "abc" none := by
  decide

end IdentityProvider
