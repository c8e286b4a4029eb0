import IdentityProvider.Proofs.RelyingParty
import IdentityProvider.Proofs.Xml.Context
/-! The signed part of a signature has one canonical form: where it is signed, and in the document that is
delivered. -/

namespace IdentityProvider

open Xml

namespace Signature

/-- What was signed with a document is found in the written document, and has the same canonical form there,
below all declarations of the document and of the signature. -/
def IsSignedAsRead (settings : SignatureSettings) (document result : Element) (id : String) : Prop :=
  ∃ unsigned written read signature info text, document.canonicalize = .ok unsigned ∧
    (signedInfo id (Base64.encode (settings.digest.hash (Bytes.ofText unsigned))) settings.digest).canonicalizeIn
      declarations = .ok text ∧
    result.toXml = .ok written ∧ parse written = .ok read ∧ read.find? "Signature" = some signature ∧
    signature.find? "SignedInfo" = some info ∧
      info.canonicalizeIn (read.attributes ++ signature.attributes) = .ok text

lemma isSignedAsRead {settings : SignatureSettings} {document result : Element} {keys : KeyMaterial} {id : String}
    (hn : document.IsNamed) (hs : ∀ c ∈ document.elements, c.localName ≠ "Signature")
    (h : signed settings document keys = .ok (result, id)) : IsSignedAsRead settings document result id := by
  obtain ⟨_, c, rfl⟩ := signed_ok h
  obtain ⟨written, hwritten, hparse⟩ := c.parse_written hn
  obtain ⟨position, he⟩ := envelop_eq document c.signature
  have hl := signatureElement_localName c.info c.value c.certificate
  have hsignature : (envelop document c.signature).merged.find? "Signature" = some c.signature.merged := by
    rw [he]
    exact find_signature_merged position hl hs
  have hinfo : c.signature.merged.find? "SignedInfo" = some c.info.merged := by
    rw [Element.find_merged, Created.signature, Created.info, find_signedInfo]
    rfl
  have htext : c.info.merged.canonicalizeIn ((envelop document c.signature).merged.attributes ++
      c.signature.merged.attributes) = .ok c.signed := by
    rw [canonicalizeIn_merged]
    exact (canonicalizeIn_declarations id _ settings.digest _).trans c.signed_eq
  exact ⟨c.unsigned, written, _, _, _, c.signed, c.unsigned_eq, c.signed_eq, hwritten, hparse, hsignature,
    hinfo, htext⟩

end Signature

/-- The canonical form of a subtree hangs on its context by the prefixes that it uses and does not declare. What
it inherits may be declared on it, if that can be written. So what is signed below one declaration has the same
form below all that a document has. -/
theorem canonicalizeIn_context {e : Element} (hn : e.IsNamed) :
    (∀ first second, (∀ p, p ≠ "xml" → e.UsesFree p → inheritedUri? first p = inheritedUri? second p) →
      e.canonicalizeIn first = e.canonicalizeIn second) ∧
    (∀ inherited, (∃ ds, e.TakesOver inherited ds) ∧ ∀ ds, e.TakesOver inherited ds →
      (areXmlDeclarations ds = true → e.canonicalizeIn inherited = (e.declareAll ds).canonicalize) ∧
      ∀ written, (e.declareAll ds).canonicalize = .ok written ↔
        e.canonicalizeIn inherited = .ok written ∧ areXmlDeclarations ds = true) ∧
    (∀ id digest algorithm root,
      (Signature.signedInfo id digest algorithm).canonicalizeIn (root ++ Signature.declarations) =
        (Signature.signedInfo id digest algorithm).canonicalizeIn Signature.declarations) ∧
    ∀ settings document keys result id, document.IsNamed → (∀ c ∈ document.elements, c.localName ≠ "Signature") →
      Signature.signed settings document keys = .ok (result, id) →
      Signature.IsSignedAsRead settings document result id := by
  refine ⟨fun first second => hn.canonicalizeIn_congr, ?_, Signature.canonicalizeIn_declarations, ?_⟩
  · intro inherited
    refine ⟨e.exists_takesOver inherited, ?_⟩
    intro ds h
    exact ⟨h.canonicalize_eq, fun written => h.canonicalize_ok_iff⟩
  · intro settings document keys result id hd hs h
    exact Signature.isSignedAsRead hd hs h

theorem canonicalizeIn_forbidden_inherited :
    ∃ (e : Element) (inherited : List Attribute) (ds : List (String × String)), e.IsNamed ∧
      e.TakesOver inherited ds ∧
      e.canonicalizeIn inherited = .ok "<a></a>" ∧ (e.declareAll ds).canonicalize = .error ⟨'\x01'⟩ := by
  refine ⟨⟨"a", [], []⟩, [("p", "\x01")].map declarationAttribute, [("p", "\x01")], by decide, ?_, ?_, ?_⟩
  · exact Element.takesOver_declarations (by decide) (by decide)
  · decide +kernel
  · decide +kernel

namespace Sample

def subtree : Element where
  name := "p:a"
  attributes := [("q:y", "1")]
  children := [.element "b" [("xmlns:q", "urn:r"), ("xmlns", "urn:d")] [.element "q:c" [] []]]

def context : List Attribute :=
  [("xmlns:p", "urn:o"), ("xmlns:r", "urn:r"), ("xmlns:p", "urn:p"), ("xmlns:q", "urn:q")]

def neededContext : List (String × String) :=
  [("q", "urn:q"), ("p", "urn:p")]

theorem canonicalizeIn_context_subtree :
    subtree.canonicalizeIn context = subtree.canonicalizeIn (neededContext.map declarationAttribute) ∧
      subtree.canonicalizeIn (neededContext.map declarationAttribute) =
        (subtree.declareAll neededContext).canonicalize ∧
      ∃ result, Signature.signed {} document signOn.keys = .ok (result, "d") ∧
        Signature.IsSignedAsRead {} document result "d" := by
  have hnames : ∀ o ∈ subtree.toNode.occurrences [], inheritedUri? context ((qualifier? o.tag.name).getD "") =
      inheritedUri? (neededContext.map declarationAttribute) ((qualifier? o.tag.name).getD "") := by decide
  have hkeys : ∀ o ∈ subtree.toNode.occurrences [], ∀ a ∈ plainAttributes o.tag.attributes, ∀ p ∈ qualifier? a.1,
      inheritedUri? context p = inheritedUri? (neededContext.map declarationAttribute) p := by decide
  obtain ⟨hcongr, htaken, _, hsigned⟩ := canonicalizeIn_context (show subtree.IsNamed by decide)
  refine ⟨?_, ?_, ?_⟩
  · apply hcongr
    rintro p _ ⟨o, ho, hu, _⟩
    rw [StartTag.uses, Bool.or_eq_true, beq_iff_eq, List.any_eq_true] at hu
    rcases hu with rfl | ⟨a, ha, hq⟩
    · exact hnames o ho
    · exact hkeys o ho a ha p (beq_iff_eq.mp hq)
  · have ht : subtree.TakesOver (neededContext.map declarationAttribute) neededContext :=
      Element.takesOver_declarations (by decide) (by decide)
    exact ((htaken _).2 _ ht).1 (by decide)
  · have hk : Signature.CanSign {} signOn.keys :=
      RsaPrivateKey.canSign_material RsaPrivateKey.sample_signsAll (by decide) {}
    have hid : Signature.referenceId document = .ok "d" := referenceId_of_ID (by decide) rfl
    obtain ⟨result, h⟩ := Signature.signed_isOk hk hid (by decide)
    exact ⟨result, h, hsigned _ _ _ _ _ (by decide) (by decide) h⟩

end Sample

end IdentityProvider
