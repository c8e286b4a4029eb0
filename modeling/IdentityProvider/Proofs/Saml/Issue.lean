import IdentityProvider.Proofs.Outcome
import IdentityProvider.Proofs.Xml.Lookup
import IdentityProvider.Proofs.Xml.Rendering
import IdentityProvider.Saml.LegacyResponse

namespace IdentityProvider

open Xml

lemma returns_checkTexts {texts : List String} {j j' : Journal} {u : Unit} :
    (checkTexts texts).Returns j u j' ↔ (∀ t ∈ texts, isXmlText t = true) ∧ j' = j := by
  induction texts generalizing j with
  | nil =>
    have hp : checkTexts [] = pure () := rfl
    rw [hp, Recorded.returns_pure]
    simp
  | cons t texts ih =>
    have hc : checkTexts (t :: texts) = (do
      Recorded.liftError (fun e => .serialization e.message) (checkChars t.toList)
      checkTexts texts) := rfl
    rw [hc, Recorded.returns_bind]
    constructor
    · rintro ⟨u', j₁, hu, h⟩
      obtain ⟨hok, rfl⟩ := Recorded.returns_liftError.mp hu
      obtain ⟨hall, rfl⟩ := ih.mp h
      exact ⟨List.forall_mem_cons.mpr ⟨checkChars_ok_iff.mp hok, hall⟩, rfl⟩
    · rintro ⟨hall, rfl⟩
      rw [List.forall_mem_cons] at hall
      exact ⟨(), j', Recorded.returns_liftError.mpr ⟨checkChars_ok_iff.mpr hall.1, rfl⟩, ih.mpr ⟨hall.2, rfl⟩⟩

lemma returns_validityFrom {instant : Instant} {j j' : Journal} {v : Validity} :
    (validityFrom instant).Returns j v j' ↔ Validity.starting? instant = some v ∧ j' = j := by
  rw [validityFrom]
  cases Validity.starting? instant with
  | none => simp [Recorded.not_returns_throw]
  | some w => simp [Recorded.returns_pure, eq_comm]

lemma isXmlChar_of_isDigit {c : Char} (h : c.isDigit = true) : isXmlChar c = true := by
  simp only [Char.isDigit, Bool.and_eq_true, decide_eq_true_eq] at h
  simp only [isXmlChar, Bool.or_eq_true, Bool.and_eq_true, decide_eq_true_eq]
  have h1 : 48 ≤ c.toNat := h.1
  have h2 : c.toNat ≤ 57 := h.2
  omega

section Digits

variable {P : Char → Bool} (hd : ∀ c, c.isDigit = true → P c = true)

include hd

lemma toString_forall (n : Nat) : (toString n).toList.all P = true := by
  rw [List.all_eq_true]
  intro c hc
  have ht : (toString n).toList = Nat.toDigits 10 n := by simp [toString, Nat.repr]
  rw [ht] at hc
  exact hd c (Nat.isDigit_of_mem_toDigits (by decide) (by decide) hc)

lemma paddedDecimal_forall (width n : Nat) : (Text.paddedDecimal width n).all P = true := by
  have ht : (Text.decimal n).all P = true := toString_forall hd n
  simp [Text.paddedDecimal, List.all_append, ht, hd '0' (by decide)]

lemma Instant.text_forall (hc : ['-', '+', 'T', ':', 'Z'].all P = true) (instant : Instant) :
    instant.text.toList.all P = true := by
  simp only [List.all_cons, List.all_nil, Bool.and_eq_true] at hc
  obtain ⟨hm, hp, ht, hs, hz, _⟩ := hc
  have hpadded := paddedDecimal_forall hd
  have hyear : ∀ year, (yearText year).all P = true := by
    intro year
    rw [yearText]
    split
    · exact hpadded 4 _
    · split <;> simp [hpadded, hm, hp]
  simp [text, hyear, hpadded, hm, ht, hs, hz]

end Digits

lemma Validity.isXmlText {instant : Instant} {v : Validity} (h : Validity.starting? instant = some v) :
    Xml.isXmlText v.issued = true ∧ Xml.isXmlText v.expires = true := by
  obtain ⟨expiry, _, rfl⟩ := Option.map_eq_some_iff.mp h
  have ht := Instant.text_forall (fun _ => isXmlChar_of_isDigit) (by decide)
  exact ⟨ht instant, ht expiry⟩

def Identifiers.Suit (ids : Identifiers) : Prop :=
  ∀ n, ids.nth n ≠ "" ∧ Xml.isXmlText (ids.nth n) = true

structure Identifiers.SuitNext (ids : Identifiers) (count : Nat) : Prop where
  nonempty : ids.current ≠ ""
  written : ∀ i < count, Xml.isXmlText (ids.nth (ids.drawn + i)) = true

lemma Identifiers.Suit.next {ids : Identifiers} (h : ids.Suit) (count : Nat) : ids.SuitNext count where
  nonempty := (h ids.drawn).1
  written := fun i _ => (h (ids.drawn + i)).2

lemma Identifiers.sequential_suit {stem : String} (hne : stem ≠ "") (hs : Xml.isXmlText stem = true) :
    (Identifiers.sequential stem).Suit := by
  intro n
  have hn : (Identifiers.sequential stem).nth n = stem ++ toString ((n + 1) % UInt64.size) := rfl
  rw [hn]
  constructor
  · intro h
    exact hne (String.append_eq_empty_iff.mp h).1
  · have ht := toString_forall (fun _ => isXmlChar_of_isDigit) ((n + 1) % UInt64.size)
    rw [Xml.isXmlText] at hs ⊢
    rw [String.toList_append, List.all_append, hs, ht, Bool.and_self]

lemma hexDigits_forall (n : Nat) : ∀ c ∈ Text.hexDigits false n, isXmlChar c = true := by
  have hd : ∀ d : Fin 16, isXmlChar (Text.hexDigit false d) = true := by decide
  induction n using Nat.strongRecOn with
  | _ n ih =>
    rw [Text.hexDigits]
    by_cases hn : n < 16
    · rw [if_pos hn, List.forall_mem_singleton]
      exact hd ⟨n, hn⟩
    · rw [if_neg hn, List.forall_mem_append, List.forall_mem_singleton]
      exact ⟨ih (n / 16) (by omega), hd ⟨n % 16, Nat.mod_lt n (by decide)⟩⟩

theorem Identifiers.random_suit (bits : Nat → Nat) : (Identifiers.random bits).Suit := by
  intro n
  have hn : (Identifiers.random bits).nth n = String.ofList ('_' :: randomUuid (bits n)) := rfl
  have hvariant : isXmlChar (Text.hexDigit false (8 + (bits n >>> 62) % 4)) = true := by
    apply hexDigits_forall (8 + (bits n >>> 62) % 4)
    rw [Text.hexDigits, if_pos (by omega), List.mem_singleton]
  rw [hn]
  constructor
  · intro h
    cases String.ofList_eq_empty_iff.mp h
  · rw [Xml.isXmlText, String.toList_ofList, List.all_eq_true, randomUuid]
    generalize hhex : Text.paddedHex false 32 (bits n % (1 <<< 128)) = hex
    have hall : ∀ c ∈ hex, isXmlChar c = true := by
      rw [← hhex, Text.paddedHex, List.forall_mem_append]
      refine ⟨?_, hexDigits_forall _⟩
      intro c hc
      rw [List.eq_of_mem_replicate hc]
      decide
    have hdrop : ∀ i, ∀ c ∈ hex.drop i, isXmlChar c = true := fun i c hc => hall c (List.mem_of_mem_drop hc)
    have htake : ∀ i k, ∀ c ∈ (hex.drop i).take k, isXmlChar c = true :=
      fun i k c hc => hdrop i c (List.mem_of_mem_take hc)
    have hmarks : isXmlChar '_' = true ∧ isXmlChar '-' = true ∧ isXmlChar '4' = true := by decide
    simp only [List.forall_mem_append, List.forall_mem_cons]
    exact ⟨hmarks.1, ⟨⟨⟨htake 0 8, hmarks.2.1, htake 8 4⟩, hmarks.2.1, hmarks.2.2, htake 13 3⟩,
      hmarks.2.1, hvariant, htake 17 3⟩, hmarks.2.1, hdrop 20⟩

namespace Response

lemma issue_returns {r : Response} {instant : Instant} {j j' : Journal} {document : Element}
    (h : (r.issue instant).Returns j document j') :
    r.destination ≠ "" ∧ (∀ t ∈ r.texts, isXmlText t = true) ∧ ∃ v, Validity.starting? instant = some v ∧
      document = r.document j.identifiers.current j.identifiers.advance.current
        j.identifiers.advance.advance.current v := by
  rw [issue] at h
  by_cases hd : r.destination = ""
  · simp only [hd, if_true] at h
    obtain ⟨_, _, ht, _⟩ := Recorded.returns_bind.mp h
    exact absurd ht Recorded.not_returns_throw
  · simp only [hd, if_false] at h
    obtain ⟨v, j₁, hv, h₁⟩ := Recorded.returns_bind.mp h
    obtain ⟨id, j₂, hid, h₂⟩ := Recorded.returns_bind.mp h₁
    obtain ⟨assertionId, j₃, haid, h₃⟩ := Recorded.returns_bind.mp h₂
    obtain ⟨sessionIndex, j₄, hsid, h₄⟩ := Recorded.returns_bind.mp h₃
    obtain ⟨_, j₅, ht, h₅⟩ := Recorded.returns_bind.mp h₄
    rw [returns_validityFrom] at hv
    rw [Recorded.returns_drawId] at hid haid hsid
    obtain ⟨hv, rfl⟩ := hv
    obtain ⟨rfl, rfl⟩ := hid
    obtain ⟨rfl, rfl⟩ := haid
    obtain ⟨rfl, rfl⟩ := hsid
    exact ⟨hd, (returns_checkTexts.mp ht).1, v, hv, (Recorded.returns_pure.mp h₅).1⟩

lemma document_isNamed (r : Response) (id assertionId sessionIndex : String) (v : Validity) :
    (r.document id assertionId sessionIndex v).IsNamed := by
  have haudiences : (r.audiences.map (Element.ofText "saml:Audience" [])).all
      (fun e => e.toNode.all isNamedTag fun _ => true) = true := by
    simp only [List.all_map, Function.comp_def, all_ofText, isNamedTag, List.map_nil, List.all_eq_true]
    intro _ _
    decide +kernel
  simp only [Element.IsNamed, document, assertion, subject, conditions, authnStatement, attributeStatement,
    attributeElement, all_ofElements, all_ofText, all_childless, haudiences, isNamedTag, List.map_cons,
    List.map_nil, List.all_cons, List.all_nil]
  decide +kernel

lemma document_unsigned (r : Response) (id assertionId sessionIndex : String) (v : Validity) :
    ∀ e ∈ (r.document id assertionId sessionIndex v).elements, e.localName ≠ "Signature" :=
  Element.localName_ne_of_names ["saml:Issuer", "samlp:Status", "saml:Assertion"] rfl (by decide)

lemma document_isWritable {r : Response} {id assertionId sessionIndex : String} {v : Validity}
    (hr : ∀ t ∈ r.texts, isXmlText t = true)
    (hids : ∀ i ∈ [id, assertionId, sessionIndex, v.issued, v.expires], isXmlText i = true) :
    (r.document id assertionId sessionIndex v).IsWritable := by
  simp only [texts, List.forall_mem_append, List.forall_mem_cons] at hr hids
  obtain ⟨⟨⟨hrequest, hdestination, hname, _⟩, haud⟩, hemail, _, hdisplay, hroles, hissuer, _⟩ := hr
  obtain ⟨hid, hassertion, hsession, hissued, hexpires, _⟩ := hids
  have haudiences : (r.audiences.map (Element.ofText "saml:Audience" [])).all
      (fun e => e.toNode.all isWritableTag isXmlText) = true := by
    simp only [List.all_map, Function.comp_def, all_ofText, List.all_eq_true, Bool.and_eq_true]
    intro a ha
    exact ⟨by decide, haud a ha⟩
  simp only [Element.IsWritable, document, assertion, subject, conditions, authnStatement, attributeStatement,
    attributeElement, all_ofElements, all_ofText, all_childless, haudiences, isWritableTag, List.all_cons,
    List.all_nil, hrequest, hdestination, hname, hemail, hdisplay, hroles, hissuer, hid, hassertion, hsession,
    hissued, hexpires]
  decide +kernel

end Response

namespace LegacyResponse

lemma issue_returns {r : LegacyResponse} {instant : Instant} {j j' : Journal} {document : Element}
    (h : (r.issue instant).Returns j document j') :
    (∀ t ∈ r.texts, isXmlText t = true) ∧ ∃ v, Validity.starting? instant = some v ∧
      document = r.document j.identifiers.current j.identifiers.advance.current v := by
  rw [issue] at h
  obtain ⟨v, j₁, hv, h₁⟩ := Recorded.returns_bind.mp h
  obtain ⟨id, j₂, hid, h₂⟩ := Recorded.returns_bind.mp h₁
  obtain ⟨assertionId, j₃, haid, h₃⟩ := Recorded.returns_bind.mp h₂
  obtain ⟨_, j₄, ht, h₄⟩ := Recorded.returns_bind.mp h₃
  rw [returns_validityFrom] at hv
  rw [Recorded.returns_drawId] at hid haid
  obtain ⟨hv, rfl⟩ := hv
  obtain ⟨rfl, rfl⟩ := hid
  obtain ⟨rfl, rfl⟩ := haid
  exact ⟨(returns_checkTexts.mp ht).1, v, hv, (Recorded.returns_pure.mp h₄).1⟩

lemma document_isNamed (r : LegacyResponse) (id assertionId : String) (v : Validity) :
    (r.document id assertionId v).IsNamed := by
  have hattributes : (r.attributes.map attributeElement).all
      (fun e => e.toNode.all isNamedTag fun _ => true) = true := by
    simp only [List.all_map, Function.comp_def, attributeElement, all_ofElements, all_ofText, isNamedTag,
      List.map_cons, List.map_nil, List.all_cons, List.all_nil, List.all_eq_true]
    intro _ _
    decide +kernel
  simp only [Element.IsNamed, document, assertion, subject, authenticationStatement, attributeStatement,
    all_ofElements, all_ofText, all_childless, hattributes, isNamedTag, List.map_cons, List.map_nil, List.all_cons,
    List.all_nil]
  decide +kernel

lemma document_unsigned (r : LegacyResponse) (id assertionId : String) (v : Validity) :
    ∀ e ∈ (r.document id assertionId v).elements, e.localName ≠ "Signature" :=
  Element.localName_ne_of_names ["samlp:Status", "saml:Assertion"] rfl (by decide)

lemma document_isWritable {r : LegacyResponse} {id assertionId : String} {v : Validity}
    (hnames : ∀ field ∈ r.attributes, isXmlText field.1 = true) (hr : ∀ t ∈ r.texts, isXmlText t = true)
    (hids : ∀ i ∈ [id, assertionId, v.issued, v.expires], isXmlText i = true) :
    (r.document id assertionId v).IsWritable := by
  simp only [texts, List.forall_mem_append, List.forall_mem_cons] at hr hids
  obtain ⟨⟨⟨hname, _⟩, hvalues⟩, hissuer, hrequest, _⟩ := hr
  obtain ⟨hid, hassertion, hissued, hexpires, _⟩ := hids
  have hattributes : (r.attributes.map attributeElement).all
      (fun e => e.toNode.all isWritableTag isXmlText) = true := by
    rw [List.all_map, List.all_eq_true]
    intro field hf
    simp only [Function.comp_apply, attributeElement, all_ofElements, all_ofText, isWritableTag, List.all_cons,
      List.all_nil, hnames field hf, hvalues field.2 (List.mem_map_of_mem hf)]
    decide +kernel
  simp only [Element.IsWritable, document, assertion, subject, authenticationStatement, attributeStatement,
    all_ofElements, all_ofText, all_childless, hattributes, isWritableTag, List.all_cons, List.all_nil,
    hname, hissuer, hrequest, hid, hassertion, hissued, hexpires]
  decide +kernel

end LegacyResponse

end IdentityProvider
