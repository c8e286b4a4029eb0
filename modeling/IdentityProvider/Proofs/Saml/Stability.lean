import IdentityProvider.Proofs.Saml.Issue
import IdentityProvider.Proofs.Xml.Stability

namespace IdentityProvider

open Xml

lemma isStableChar_of_isDigit (c : Char) (h : c.isDigit = true) :
    (c != '\r' && c != '\n' && c != '\t') = true := by
  have hne : ∀ d : Char, d.isDigit = false → c ≠ d := by
    rintro d hd rfl
    rw [h] at hd
    cases hd
  simp [hne '\r' (by decide), hne '\n' (by decide), hne '\t' (by decide)]

lemma Validity.isStable {instant : Instant} {v : Validity} (h : Validity.starting? instant = some v) :
    isStableValue v.issued = true ∧ isStableValue v.expires = true := by
  obtain ⟨expiry, _, rfl⟩ := Option.map_eq_some_iff.mp h
  have ht := Instant.text_forall isStableChar_of_isDigit (by decide)
  exact ⟨ht instant, ht expiry⟩

namespace Response

def contents (r : Response) : List String :=
  [r.issuer, r.name, r.email, r.displayName, r.roles] ++ r.audiences

def values (r : Response) : List String :=
  [r.requestId, r.destination]

lemma document_isStable_iff (r : Response) (id assertionId sessionIndex : String) {v : Validity}
    (hv : isStableValue v.issued = true ∧ isStableValue v.expires = true) :
    (r.document id assertionId sessionIndex v).IsStable ↔ (∀ t ∈ r.contents, isStableText t = true) ∧
      ∀ s ∈ r.values ++ [id, assertionId, sessionIndex], isStableValue s = true := by
  have haudiences : (r.audiences.map (Element.ofText "saml:Audience" [])).all
      (fun e => e.toNode.all (fun _ attributes => areStableValues attributes) isStableText) =
        r.audiences.all isStableText := by
    simp only [List.all_map, Function.comp_def, all_ofText, areStableValues_nil, Bool.true_and]
  have hvalue : ∀ s ∈ [Vocabulary.protocolNamespace, Vocabulary.assertionNamespace,
      Vocabulary.schemaInstanceNamespace, Vocabulary.schemaNamespace, Vocabulary.statusSuccess,
      Vocabulary.bearerConfirmation,
      Vocabulary.basicAttributeNames, "2.0", "xs:string", "Email", "Name", "DisplayName", "Roles"],
      isStableValue s = true := by
    decide +kernel
  have hcontext : isStableText Vocabulary.passwordProtectedTransport = true := by decide +kernel
  simp only [List.forall_mem_cons] at hvalue
  simp only [Element.IsStable, document, assertion, subject, conditions, authnStatement, attributeStatement,
    attributeElement, all_ofElements, all_ofText, all_childless, haudiences, areStableValues_nil,
    areStableValues_cons, List.all_cons, List.all_nil, hvalue, hcontext, hv, Bool.true_and, Bool.and_true,
      Bool.and_eq_true, List.all_eq_true, contents,
    values, List.forall_mem_append, List.forall_mem_cons, List.not_mem_nil, false_implies, implies_true, and_true]
  constructor
  · rintro ⟨⟨hid, hdestination, hrequest⟩, hissuer, hassertion, _, ⟨hname, _, _⟩, haud, hsession, hemail,
      _, hdisplay, hroles⟩
    exact ⟨⟨⟨hissuer, hname, hemail, hdisplay, hroles⟩, haud⟩, ⟨hrequest, hdestination⟩, hid, hassertion, hsession⟩
  · rintro ⟨⟨⟨hissuer, hname, hemail, hdisplay, hroles⟩, haud⟩, ⟨hrequest, hdestination⟩, hid,
      hassertion, hsession⟩
    exact ⟨⟨hid, hdestination, hrequest⟩, hissuer, hassertion, hissuer, ⟨hname, hrequest, hdestination⟩,
      haud, hsession, hemail, hname, hdisplay, hroles⟩

lemma document_declarations (r : Response) (id assertionId sessionIndex : String) (v : Validity) :
    (r.document id assertionId sessionIndex v).toNode.all (fun _ attributes => areStableDeclarations attributes)
      (fun _ => true) = true := by
  have haudiences : (r.audiences.map (Element.ofText "saml:Audience" [])).all
      (fun e => e.toNode.all (fun _ attributes => areStableDeclarations attributes) fun _ => true) = true := by
    simp only [List.all_map, Function.comp_def, all_ofText, areStableDeclarations_nil, Bool.and_true,
      List.all_eq_true, implies_true]
  have hvalue : ∀ s ∈ [Vocabulary.protocolNamespace, Vocabulary.assertionNamespace,
      Vocabulary.schemaInstanceNamespace, Vocabulary.schemaNamespace], isStableValue s = true := by
    decide +kernel
  have hplain : ∀ key ∈ ["ID", "Version", "IssueInstant", "Destination", "InResponseTo", "Value", "Method",
      "Recipient", "NotOnOrAfter", "NotBefore", "AuthnInstant", "SessionIndex", "SessionNotOnOrAfter", "Name",
      "NameFormat", "xsi:type"], declaredPrefix? key = none := by
    decide +kernel
  simp only [List.forall_mem_cons] at hvalue hplain
  simp only [document, assertion, subject, conditions, authnStatement, attributeStatement, attributeElement,
    all_ofElements, all_ofText, all_childless, haudiences, areStableDeclarations_nil, areStableDeclarations_stable,
    areStableDeclarations_plain, hvalue, hplain, List.all_cons, List.all_nil, Bool.and_true]

lemma document_isLone (r : Response) (id assertionId sessionIndex : String) (v : Validity) :
    (r.document id assertionId sessionIndex v).IsLone := by
  have haudiences : ∀ e ∈ r.audiences.map (Element.ofText "saml:Audience" []), e.IsLone := by
    intro e he
    obtain ⟨a, _, rfl⟩ := List.mem_map.mp he
    exact isLone_ofText _ _ _
  simp only [document, assertion, subject, conditions, authnStatement, attributeStatement, attributeElement,
    isLone_ofElements, isLone_ofText, isLone_childless, List.forall_mem_cons, List.not_mem_nil, false_implies,
    implies_true, and_true, true_and]
  exact haudiences

end Response

namespace LegacyResponse

def contents (r : LegacyResponse) : List String :=
  r.name :: r.attributes.map Prod.snd

def values (r : LegacyResponse) : List String :=
  [r.requestId, r.issuer]

lemma document_isStable_iff {r : LegacyResponse} (hnames : ∀ field ∈ r.attributes, isStableValue field.1 = true)
    (id assertionId : String) {v : Validity}
    (hv : isStableValue v.issued = true ∧ isStableValue v.expires = true) :
    (r.document id assertionId v).IsStable ↔ (∀ t ∈ r.contents, isStableText t = true) ∧
      ∀ s ∈ r.values ++ [id, assertionId], isStableValue s = true := by
  have hvalue : ∀ s ∈ [Vocabulary.legacyProtocolNamespace, Vocabulary.legacyAssertionNamespace, "1",
      Vocabulary.legacyStatusSuccess, Vocabulary.legacyPasswordMethod, Vocabulary.legacyAttributeNamespace],
      isStableValue s = true := by
    decide +kernel
  have hmethod : isStableText Vocabulary.legacyArtifactConfirmation = true := by decide +kernel
  simp only [List.forall_mem_cons] at hvalue
  have hattributes : (r.attributes.map attributeElement).all
      (fun e => e.toNode.all (fun _ attributes => areStableValues attributes) isStableText) =
        (r.attributes.map Prod.snd).all isStableText := by
    rw [List.all_map, List.all_map, Bool.eq_iff_iff, List.all_eq_true, List.all_eq_true]
    apply forall₂_congr
    intro field hf
    simp only [Function.comp_apply, attributeElement, all_ofElements, all_ofText, areStableValues_nil,
      areStableValues_cons, List.all_cons, List.all_nil, hnames field hf, hvalue, Bool.true_and, Bool.and_true]
  simp only [Element.IsStable, document, assertion, subject, authenticationStatement, attributeStatement,
    all_ofElements, all_ofText, all_childless, hattributes, areStableValues_nil, areStableValues_cons,
    List.all_cons, List.all_nil, hvalue, hmethod, hv, Bool.true_and, Bool.and_true, Bool.and_eq_true,
    List.all_eq_true, contents, values, List.forall_mem_append, List.forall_mem_cons, List.not_mem_nil,
    false_implies, implies_true, and_true]
  constructor
  · rintro ⟨⟨hid, hrequest⟩, ⟨hassertion, hissuer⟩, hname, _, hattr⟩
    exact ⟨⟨hname, hattr⟩, ⟨hrequest, hissuer⟩, hid, hassertion⟩
  · rintro ⟨⟨hname, hattr⟩, ⟨hrequest, hissuer⟩, hid, hassertion⟩
    exact ⟨⟨hid, hrequest⟩, ⟨hassertion, hissuer⟩, hname, hname, hattr⟩

lemma document_declarations (r : LegacyResponse) (id assertionId : String) (v : Validity) :
    (r.document id assertionId v).toNode.all (fun _ attributes => areStableDeclarations attributes)
      (fun _ => true) = true := by
  have hvalue : ∀ s ∈ [Vocabulary.legacyProtocolNamespace, Vocabulary.legacyAssertionNamespace],
      isStableValue s = true := by
    decide +kernel
  have hplain : ∀ key ∈ ["MajorVersion", "MinorVersion", "ResponseID", "InResponseTo", "IssueInstant", "Value",
      "AssertionID", "Issuer", "NotBefore", "NotOnOrAfter", "AuthenticationMethod", "AuthenticationInstant",
      "AttributeName", "AttributeNamespace"], declaredPrefix? key = none := by
    decide +kernel
  simp only [List.forall_mem_cons] at hvalue hplain
  have hattributes : (r.attributes.map attributeElement).all
      (fun e => e.toNode.all (fun _ attributes => areStableDeclarations attributes) fun _ => true) = true := by
    simp only [List.all_map, Function.comp_def, attributeElement, all_ofElements, all_ofText,
      areStableDeclarations_nil, areStableDeclarations_plain, hplain, List.all_cons, List.all_nil, Bool.and_true,
      List.all_eq_true, implies_true]
  simp only [document, assertion, subject, authenticationStatement, attributeStatement, all_ofElements, all_ofText,
    all_childless, hattributes, areStableDeclarations_nil, areStableDeclarations_stable,
    areStableDeclarations_plain,
    hvalue, hplain, List.all_cons, List.all_nil, Bool.and_true]

lemma document_isLone (r : LegacyResponse) (id assertionId : String) (v : Validity) :
    (r.document id assertionId v).IsLone := by
  have hattributes : ∀ e ∈ r.attributes.map attributeElement, e.IsLone := by
    intro e he
    obtain ⟨field, _, rfl⟩ := List.mem_map.mp he
    rw [attributeElement, isLone_ofElements, List.forall_mem_singleton]
    exact isLone_ofText _ _ _
  simp only [document, assertion, subject, authenticationStatement, attributeStatement, isLone_ofElements,
    isLone_ofText, isLone_childless, List.forall_mem_cons, List.not_mem_nil, false_implies, implies_true, and_true,
    true_and]
  exact hattributes

end LegacyResponse

end IdentityProvider
