import IdentityProvider.Proofs.Signature.Envelope
import IdentityProvider.Saml.LegacyResponse

namespace IdentityProvider

open Xml

namespace Response

structure IsSaidIn (r : Response) (tree : Element) : Prop where
  inResponseTo : tree.attribute? "InResponseTo" = some r.requestId
  destination : tree.attribute? "Destination" = some r.destination
  issuer : (tree.path? ["Issuer"]).map Element.textContent = some r.issuer
  assertionIssuer : (tree.path? ["Assertion", "Issuer"]).map Element.textContent = some r.issuer
  name : (tree.path? ["Assertion", "Subject", "NameID"]).map Element.textContent = some r.name
  confirmation : (tree.path? ["Assertion", "Subject", "SubjectConfirmation", "SubjectConfirmationData"]).map
    (fun e => (e.attribute? "InResponseTo", e.attribute? "Recipient")) =
      some (some r.requestId, some r.destination)
  audiences : (tree.path? ["Assertion", "Conditions", "AudienceRestriction"]).map
    (fun e => e.elements.map fun a => (a.localName, a.textContent)) =
      some (r.audiences.map fun a => ("Audience", a))
  attributes : (tree.path? ["Assertion", "AttributeStatement"]).map
    (fun e => e.elements.map fun a => (a.attribute? "Name",
      (a.path? ["AttributeValue"]).map Element.textContent)) =
      some [(some "Email", some r.email), (some "Name", some r.name), (some "DisplayName", some r.displayName),
        (some "Roles", some r.roles)]

variable {r : Response} {tree : Element}

lemma path_assertion (id assertionId sessionIndex : String) (v : Validity) (names : List String) :
    (r.document id assertionId sessionIndex v).path? ("Assertion" :: names) =
      (r.assertion assertionId sessionIndex v).path? names := by
  have hf : (r.document id assertionId sessionIndex v).find? "Assertion" =
    some (r.assertion assertionId sessionIndex v) :=
    Element.find_ofElements ["saml:Issuer", "samlp:Status", "saml:Assertion"] 2 rfl (by decide)
  rw [Element.path?, hf, Option.bind_some]

lemma find_in_assertion (assertionId sessionIndex : String) (v : Validity) {name : String} (i : Nat)
    (hi : ["saml:Issuer", "saml:Subject", "saml:Conditions", "saml:AuthnStatement",
    "saml:AttributeStatement"].findIdx?
      (fun n => localPart n == name) = some i) :
    (r.assertion assertionId sessionIndex v).find? name =
      [.ofText "saml:Issuer" [] r.issuer, r.subject v, r.conditions v, authnStatement sessionIndex v,
        r.attributeStatement][i]? :=
  Element.find_ofElements _ i rfl hi

lemma textContent_attributeElement (name value : String) :
    ((attributeElement name value).path? ["AttributeValue"]).map Element.textContent = some value := by
  have hf : (attributeElement name value).find? "AttributeValue" =
      some (.ofText "saml:AttributeValue" [("xsi:type", "xs:string")] value) :=
    Element.find_ofElements ["saml:AttributeValue"] 0 rfl (by decide)
  rw [Element.path?, hf, Option.bind_some, Element.path?, Option.map_some, Element.textContent_ofText]

lemma document_isSaidIn (r : Response) (id assertionId sessionIndex : String) (v : Validity) :
    r.IsSaidIn (r.document id assertionId sessionIndex v) where
  inResponseTo := rfl
  destination := rfl
  issuer := by
    have hf : (r.document id assertionId sessionIndex v).find? "Issuer" =
      some (.ofText "saml:Issuer" [] r.issuer) :=
      Element.find_ofElements ["saml:Issuer", "samlp:Status", "saml:Assertion"] 0 rfl (by decide)
    rw [Element.path?, hf, Option.bind_some, Element.path?, Option.map_some, Element.textContent_ofText]
  assertionIssuer := by
    rw [path_assertion, Element.path?, find_in_assertion _ _ _ 0 (by decide)]
    exact congrArg some (Element.textContent_ofText _ _ _)
  name := by
    have hf : (r.subject v).find? "NameID" = some (.ofText "saml:NameID" [] r.name) :=
      Element.find_ofElements ["saml:NameID", "saml:SubjectConfirmation"] 0 rfl (by decide)
    rw [path_assertion, Element.path?, find_in_assertion _ _ _ 1 (by decide)]
    change ((r.subject v).path? ["NameID"]).map Element.textContent = _
    rw [Element.path?, hf, Option.bind_some, Element.path?, Option.map_some, Element.textContent_ofText]
  confirmation := by
    have hs : (r.subject v).find? "SubjectConfirmation" =
        some (.ofElements "saml:SubjectConfirmation" [("Method", Vocabulary.bearerConfirmation)]
          [⟨"saml:SubjectConfirmationData",
            [("InResponseTo", r.requestId), ("Recipient", r.destination), ("NotOnOrAfter", v.expires)], []⟩]) :=
      Element.find_ofElements ["saml:NameID", "saml:SubjectConfirmation"] 1 rfl (by decide)
    rw [path_assertion, Element.path?, find_in_assertion _ _ _ 1 (by decide)]
    change ((r.subject v).path? ["SubjectConfirmation", "SubjectConfirmationData"]).map _ = _
    rw [Element.path?, hs, Option.bind_some, Element.path?,
      Element.find_ofElements ["saml:SubjectConfirmationData"] 0 rfl (by decide)]
    rfl
  audiences := by
    have hc : (r.conditions v).find? "AudienceRestriction" =
        some (.ofElements "saml:AudienceRestriction" [] (r.audiences.map (.ofText "saml:Audience" []))) :=
      Element.find_ofElements ["saml:AudienceRestriction"] 0 rfl (by decide)
    have hn : localPart "saml:Audience" = "Audience" := by decide
    have hl : ∀ s, (Element.ofText "saml:Audience" [] s).localName = "Audience" := fun _ => hn
    rw [path_assertion, Element.path?, find_in_assertion _ _ _ 2 (by decide)]
    change ((r.conditions v).path? ["AudienceRestriction"]).map _ = _
    rw [Element.path?, hc, Option.bind_some, Element.path?, Option.map_some, Element.elements_ofElements,
      List.map_map]
    congr 2
    funext s
    rw [Function.comp_apply, hl, Element.textContent_ofText]
  attributes := by
    rw [path_assertion, Element.path?, find_in_assertion _ _ _ 4 (by decide)]
    change some (List.map _ r.attributeStatement.elements) = _
    rw [attributeStatement, Element.elements_ofElements]
    simp only [List.map_cons, List.map_nil, textContent_attributeElement]
    rfl

lemma IsSaidIn.merged (h : r.IsSaidIn tree) : r.IsSaidIn tree.merged where
  inResponseTo := h.inResponseTo
  destination := h.destination
  issuer := (tree.path_merged_map Element.textContent_merged _).trans h.issuer
  assertionIssuer := (tree.path_merged_map Element.textContent_merged _).trans h.assertionIssuer
  name := (tree.path_merged_map Element.textContent_merged _).trans h.name
  confirmation := (tree.path_merged_map (fun _ => rfl) _).trans h.confirmation
  audiences := by
    refine (tree.path_merged_map ?_ _).trans h.audiences
    intro e
    simp [Function.comp_def]
  attributes := by
    refine (tree.path_merged_map ?_ _).trans h.attributes
    intro e
    simp [Function.comp_def, Element.path_merged_map _ Element.textContent_merged]

lemma IsSaidIn.insertChild (h : r.IsSaidIn tree) {signature : Element} (hs : signature.localName = "Signature")
    (position : Nat) : r.IsSaidIn (tree.insertChild position signature) := by
  have hp : ∀ name names, name ≠ "Signature" →
      (tree.insertChild position signature).path? (name :: names) = tree.path? (name :: names) := by
    intro name names hne
    have hne' : signature.localName ≠ name := by
      rw [hs]
      exact Ne.symm hne
    rw [Element.path?, Element.path?, Signature.find_insertChild_of_ne position hne']
  constructor
  · exact h.inResponseTo
  · exact h.destination
  · rw [hp "Issuer" [] (by decide)]
    exact h.issuer
  · rw [hp "Assertion" _ (by decide)]
    exact h.assertionIssuer
  · rw [hp "Assertion" _ (by decide)]
    exact h.name
  · rw [hp "Assertion" _ (by decide)]
    exact h.confirmation
  · rw [hp "Assertion" _ (by decide)]
    exact h.audiences
  · rw [hp "Assertion" _ (by decide)]
    exact h.attributes

end Response

end IdentityProvider
