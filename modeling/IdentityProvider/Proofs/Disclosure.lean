import IdentityProvider.Proofs.Emission
import IdentityProvider.Proofs.Xml.Descendants
/-! What an answer discloses of a user: the published fields, and nothing else. -/

namespace IdentityProvider

open Xml

lemma lookup_set {fields : List (String × String)} (hn : (fields.map Prod.fst).Nodup) :
    ∀ field ∈ fields, ((fields.filter fun f => f.2 ≠ "").lookup field.1).getD "" = field.2 := by
  have hs : ((fields.filter fun f => f.2 ≠ "").map Prod.fst).Nodup := hn.sublist (List.filter_sublist.map _)
  rintro ⟨key, value⟩ hm
  by_cases hv : value = ""
  · cases hl : (fields.filter fun f => f.2 ≠ "").lookup key with
    | none => exact hv.symm
    | some other =>
      have hother := (List.mem_filter.mp (lookup_mem hl)).1
      have hvalue := (lookup_of_mem hn hm).symm.trans (lookup_of_mem hn hother)
      exact (Option.some.inj hvalue).symm
  · rw [lookup_of_mem hs (List.mem_filter.mpr ⟨hm, by simpa using hv⟩)]
    rfl

lemma fields_eq_of_set {xs ys : List (String × String)} (hk : xs.map Prod.fst = ys.map Prod.fst)
    (hn : (ys.map Prod.fst).Nodup) (h : (xs.filter fun f => f.2 ≠ "") = ys.filter fun f => f.2 ≠ "") :
    xs = ys := by
  have hrestore : ∀ {fields : List (String × String)}, (fields.map Prod.fst).Nodup → fields =
      (fields.map Prod.fst).map fun key => (key, ((fields.filter fun f => f.2 ≠ "").lookup key).getD "") := by
    intro fields hfields
    conv_lhs => rw [← List.map_id fields]
    rw [List.map_map]
    apply List.map_congr_left
    intro field hm
    exact Prod.ext rfl (lookup_set hfields field hm).symm
  calc xs = (xs.map Prod.fst).map fun key => (key, ((xs.filter fun f => f.2 ≠ "").lookup key).getD "") :=
        hrestore (hk ▸ hn)
    _ = (ys.map Prod.fst).map fun key => (key, ((ys.filter fun f => f.2 ≠ "").lookup key).getD "") := by rw [hk, h]
    _ = ys := (hrestore hn).symm

namespace Principal

def SameProfile (q r : Principal) : Prop :=
  { q with roles := r.roles, permissions := r.permissions } = r

lemma profileNames_nodup : profileNames.Nodup := by
  decide

lemma sameProfile_iff {q r : Principal} : q.SameProfile r ↔ q.profile = r.profile := by
  constructor
  · intro h
    rw [← h]
    rfl
  · intro h
    obtain ⟨⟩ := q
    obtain ⟨⟩ := r
    simp only [profile, List.cons.injEq, Prod.mk.injEq, true_and, and_true] at h
    simp only [SameProfile, mk.injEq, and_true]
    tauto

lemma sameProfile_of_legacyAttributes {q r : Principal} (h : q.legacyAttributes = r.legacyAttributes) :
    q.SameProfile r := by
  rw [sameProfile_iff]
  exact fields_eq_of_set rfl profileNames_nodup h

end Principal

def legacyField (e : Element) : Option String × Option String :=
  (e.attribute? "AttributeName", (e.path? ["AttributeValue"]).map Element.textContent)

lemma legacyField_merged (e : Element) : legacyField e.merged = legacyField e := by
  rw [legacyField, Element.path_merged_map e Element.textContent_merged]
  rfl

namespace LegacyResponse

lemma legacyField_attributeElement (field : String × String) :
    legacyField (attributeElement field) = (some field.1, some field.2) := by
  have hf : (attributeElement field).find? "AttributeValue" = some (.ofText "saml:AttributeValue" [] field.2) :=
    Element.find_ofElements ["saml:AttributeValue"] 0 rfl (by decide)
  rw [legacyField, Element.path?, hf, Option.bind_some, Element.path?, Option.map_some, Element.textContent_ofText]
  rfl

lemma allNamed_attributeElement (field : String × String) :
    (attributeElement field).allNamed "Attribute" = [attributeElement field] := by
  have hv : elementsNamed "Attribute" (attributeElement field).children = [] := by
    apply elementsNamed_eq_nil
    have hall := all_ofText (isTagBut "Attribute") (fun _ => true) "saml:AttributeValue" [] field.2
    rw [attributeElement, Element.ofElements, List.map_singleton, allNodes, hall]
    decide
  exact Element.allNamed_of_eq "saml:Attribute" (by decide) hv

variable (r : LegacyResponse) (id assertionId : String) (v : Validity)

lemma subject_no_attribute : r.subject.toNode.all (isTagBut "Attribute") (fun _ => true) = true := by
  simp only [subject, all_ofElements, all_ofText, List.all_cons, List.all_nil, isTagBut]
  decide

lemma allNamed_attributeStatement : r.attributeStatement.allNamed "Attribute" =
    r.attributes.map attributeElement := by
  rw [attributeStatement, Element.allNamed_ofElements (by decide), List.flatMap_cons,
    Element.allNamed_eq_nil r.subject_no_attribute, List.nil_append, List.flatMap_map, List.map_eq_flatMap]
  simp only [allNamed_attributeElement]

lemma allNamed_assertion : (r.assertion assertionId v).allNamed "Attribute" =
    r.attributes.map attributeElement := by
  have hconditions : (Element.mk "saml:Conditions" [("NotBefore", v.issued),
    ("NotOnOrAfter", v.expires)] []).allNamed
      "Attribute" = [] := by
    apply Element.allNamed_eq_nil
    simp only [all_childless, isTagBut]
    decide
  have hauthentication : (r.authenticationStatement v).allNamed "Attribute" = [] := by
    apply Element.allNamed_eq_nil
    simp only [authenticationStatement, all_ofElements, List.all_cons, List.all_nil,
      r.subject_no_attribute, isTagBut]
    decide
  rw [assertion, Element.allNamed_ofElements (by decide), List.flatMap_cons, List.flatMap_cons,
    List.flatMap_singleton, hconditions, hauthentication, allNamed_attributeStatement]
  rfl

lemma allNamed_document : (r.document id assertionId v).allNamed "Attribute" =
    r.attributes.map attributeElement := by
  have hstatus : (Element.ofElements "samlp:Status" []
      [⟨"samlp:StatusCode", [("Value", Vocabulary.legacyStatusSuccess)], []⟩]).allNamed "Attribute" = [] := by
    apply Element.allNamed_eq_nil
    simp only [all_ofElements, List.all_cons, List.all_nil, all_childless, isTagBut]
    decide
  rw [document, Element.allNamed_ofElements (by decide), List.flatMap_cons, hstatus, List.flatMap_singleton,
    allNamed_assertion]
  rfl

end LegacyResponse

lemma Signature.signature_no_attribute {settings : SignatureSettings} {id : String} {document : Element}
    {keys : KeyMaterial} (c : Created settings id document keys) :
    c.signature.toNode.all (isTagBut "Attribute") (fun _ => true) = true := by
  cases hc : c.certificate <;>
    simp only [Created.signature, hc, signatureElement, Created.info, signedInfo, keyInfo, all_ofElements,
      all_algorithmElement, all_ofText, isTagBut, List.all_cons, List.all_nil, List.all_append, Option.map_some,
      Option.map_none, Option.toList_some, Option.toList_none] <;>
    decide

def SignOn.as (signOn : SignOn) (principal : Principal) : SignOn :=
  { signOn with principal }

namespace Provider

/-- The users agree on what is published of them: in the 1.1 layout all fields that hold one text, in the 2.0
layout three of these and the roles, as they are joined. -/
def PublishesAlike (p : Provider) : ProtocolVersion → Principal → Principal → Prop
  | .saml20, q, r =>
    q.name = r.name ∧ q.email = r.email ∧ q.displayName = r.displayName ∧
      p.config.rolesSeparator.intercalate (p.roles q) = p.config.rolesSeparator.intercalate (p.roles r)
  | .saml11, q, r => q.SameProfile r

variable {p : Provider} {signOn : SignOn} {version : ProtocolVersion} {now : Instant} {encoded : String}
  {q r : Principal}

lemma issue_congr (h : p.PublishesAlike version q r) (request : AuthnRequest) (destination : String) :
    p.issue (signOn.as q) version now request destination =
      p.issue (signOn.as r) version now request destination := by
  cases version with
  | saml20 =>
    obtain ⟨hname, hemail, hdisplay, hroles⟩ := h
    simp only [issue, SignOn.as, hname, hemail, hdisplay, hroles]
  | saml11 =>
    have hprofile : q.profile = r.profile := Principal.sameProfile_iff.mp h
    have hname : q.name = r.name := by
      rw [← (h : q.SameProfile r)]
    simp only [issue, SignOn.as, Principal.legacyAttributes, hprofile, hname]

lemma respond_congr (h : p.PublishesAlike version q r) :
    p.respond (signOn.as q) version now encoded = p.respond (signOn.as r) version now encoded := by
  unfold respond
  simp only [issue_congr h]
  rfl

variable {j : Journal} {answer : EncodedResponse} {settings : SignatureSettings}

lemma Issues.allNamed {request : AuthnRequest} {destination : String} {ids : Identifiers} {document : Element}
    (h : Issues p signOn now request destination ids .saml11 document) : document.localName ≠ "Attribute" ∧
      document.allNamed "Attribute" = signOn.principal.legacyAttributes.map LegacyResponse.attributeElement := by
  cases h with
  | legacy =>
    refine ⟨?_, LegacyResponse.allNamed_document _ _ _ _⟩
    change localPart "samlp:Response" ≠ "Attribute"
    decide

lemma Answer.allNamed (a : Answer p signOn .saml11 now encoded j answer)
    (hs : p.signer = Signature.sign settings) :
    (a.signed.merged.allNamed "Attribute").map legacyField =
      signOn.principal.legacyAttributes.map fun field => (some field.1, some field.2) := by
  obtain ⟨id, hsigned⟩ := a.signed_eq hs
  obtain ⟨_, c, hc⟩ := Signature.signed_ok hsigned
  obtain ⟨position, he⟩ := Signature.envelop_eq a.document c.signature
  obtain ⟨hroot, hnamed⟩ := a.issued.allNamed
  rw [Element.allNamed_merged, hc, he, Element.allNamed_insertChild hroot (Signature.signature_no_attribute c),
    hnamed, List.map_map, List.map_map]
  apply List.map_congr_left
  intro field _
  exact (legacyField_merged _).trans (LegacyResponse.legacyField_attributeElement field)

lemma Answer.carries (a : Answer p signOn version now encoded j answer) (hs : p.signer = Signature.sign settings) :
    answer.Carries p.deflate a.signed.merged :=
  ⟨a.written, a.payload, a.parse_written hs⟩

lemma publishesAlike_of_tree {first second : EncodedResponse}
    (a : Answer p (signOn.as q) version now encoded j first)
    (b : Answer p (signOn.as r) version now encoded j second) (hs : p.signer = Signature.sign settings)
    (h : a.signed.merged = b.signed.merged) :
    p.PublishesAlike version q r := by
  cases version with
  | saml20 =>
    have ha := a.isSaidIn hs
    have hb := b.isSaidIn hs
    rw [← h] at hb
    have hname := ha.name.symm.trans hb.name
    have hattributes := ha.attributes.symm.trans hb.attributes
    simp only [Option.some.injEq, List.cons.injEq, Prod.mk.injEq, true_and, and_true] at hname hattributes
    exact ⟨hname, hattributes.1, hattributes.2.2.1, hattributes.2.2.2⟩
  | saml11 =>
    have ha := a.allNamed hs
    rw [h, b.allNamed hs] at ha
    have hinjective : Function.Injective fun field : String × String => (some field.1, some field.2) := by
      rintro ⟨k, v⟩ ⟨l, w⟩ he
      simpa using he
    exact Principal.sameProfile_of_legacyAttributes (List.map_injective_iff.mpr hinjective ha).symm

/-- Users who agree on what is published get the same answer or the same failure, and users who get one payload
agree on it. The fields that are set are read back from an answer in the 1.1 layout, in order, and no other
attribute is. -/
theorem respond_discloses (p : Provider) (signOn : SignOn) (version : ProtocolVersion) (now : Instant)
    (encoded : String) (j : Journal) (q r : Principal) :
    (p.PublishesAlike version q r → (p.respond (signOn.as q) version now encoded).result j =
      (p.respond (signOn.as r) version now encoded).result j) ∧
    ∀ settings, p.signer = Signature.sign settings → Deflate.IsCompressor p.deflate →
      (∀ first second, (p.respond (signOn.as q) version now encoded).result j = .ok first →
        (p.respond (signOn.as r) version now encoded).result j = .ok second → first.payload = second.payload →
        p.PublishesAlike version q r) ∧
      ∀ answer, version = .saml11 → (p.respond (signOn.as q) version now encoded).result j = .ok answer →
        ∃ written tree, answer.payload = encodePayload (Bytes.ofText written) answer.compressed p.deflate ∧
          ((answer.compressed = true → (Bytes.ofText written).length ≤ responseLimit) →
            decodePayload answer.payload answer.compressed = .ok (Bytes.ofText written)) ∧
          parse written = .ok tree ∧
          (tree.allNamed "Attribute").map legacyField =
            (q.profile.filter fun field => field.2 ≠ "").map (fun field => (some field.1, some field.2)) ∧
          ((tree.allNamed "Attribute").map fun e => e.attribute? "AttributeName").Nodup := by
  refine ⟨fun h => by rw [respond_congr h], ?_⟩
  intro settings hs hd
  constructor
  · intro first second hfirst hsecond hpayload
    obtain ⟨a⟩ := respond_answer hfirst
    obtain ⟨b⟩ := respond_answer hsecond
    have hcompressed : first.compressed = second.compressed := a.compressed.trans b.compressed.symm
    have hcarries : first.Carries p.deflate b.signed.merged := by
      refine ⟨b.written, ?_, b.parse_written hs⟩
      rw [hpayload, hcompressed]
      exact b.payload
    exact publishesAlike_of_tree a b hs ((a.carries hs).unique hd hcarries)
  · rintro answer rfl h
    obtain ⟨a⟩ := respond_answer h
    have hfields := a.allNamed hs
    refine ⟨a.written, a.signed.merged, a.payload, ?_, a.parse_written hs, hfields, ?_⟩
    · intro hlimit
      rw [a.payload]
      exact decodePayload_encodePayload hd hlimit
    · have hnames := congrArg (List.map Prod.fst) hfields
      rw [List.map_map, List.map_map] at hnames
      have hn : (q.legacyAttributes.map Prod.fst).Nodup :=
        Principal.profileNames_nodup.sublist (List.filter_sublist.map _)
      have hsome := hn.map (Option.some_injective String)
      rw [List.map_map] at hsome
      exact hnames ▸ hsome

end Provider

namespace Sample

def elsewhere : Principal :=
  { signOn.principal with phone := "1", region := "z", roles := ["x"], permissions := ["", "y", "x"] }

theorem respond_discloses_sample :
    (provider.respond (signOn.as signOn.principal) .saml20 now request).result journal =
        (provider.respond (signOn.as elsewhere) .saml20 now request).result journal ∧
      (∀ first second, (provider.respond (signOn.as signOn.principal) .saml11 now request).result journal =
        .ok first →
        (provider.respond (signOn.as elsewhere) .saml11 now request).result journal = .ok second →
        first.payload ≠ second.payload) ∧
      ∃ answer tree, (provider.respond (signOn.as signOn.principal) .saml11 now request).result journal =
        .ok answer ∧
        answer.Carries provider.deflate tree ∧ (tree.allNamed "Attribute").map legacyField =
          [(some "name", some "a\rb"), (some "displayName", some "A & \"B\""), (some "email", some "a@b")] := by
  have hs : provider.signer = Signature.sign {} := rfl
  have hd : Deflate.IsCompressor provider.deflate := Deflate.compress_isCompressor
  have hsame : provider.PublishesAlike .saml20 signOn.principal elsewhere := ⟨rfl, rfl, rfl, by decide⟩
  have hother : ¬ provider.PublishesAlike .saml11 signOn.principal elsewhere := by
    intro h
    have hphone := congrArg Principal.phone (h : signOn.principal.SameProfile elsewhere)
    exact absurd hphone (by decide)
  have hdiscloses := fun version =>
    Provider.respond_discloses provider signOn version now request journal signOn.principal elsewhere
  obtain ⟨answer, hanswer⟩ := respond_isOk .saml11
  obtain ⟨written, tree, hpayload, _, hparse, hfields, _⟩ := ((hdiscloses .saml11).2 {} hs hd).2 answer rfl hanswer
  refine ⟨(hdiscloses .saml20).1 hsame, ?_, answer, tree, hanswer, ⟨written, hpayload, hparse⟩, hfields⟩
  intro first second hfirst hsecond hequal
  exact hother (((hdiscloses .saml11).2 {} hs hd).1 first second hfirst hsecond hequal)

end Sample

end IdentityProvider
