import IdentityProvider.Proofs.RelyingParty

namespace IdentityProvider

open Xml

def ProtocolVersion.places : ProtocolVersion → List (List String × String)
  | saml20 => [([], "ID"), (["Assertion"], "ID"), (["Assertion", "AuthnStatement"], "SessionIndex")]
  | saml11 => [([], "ResponseID"), (["Assertion"], "AssertionID")]

def ProtocolVersion.identifiersIn (version : ProtocolVersion) (tree : Element) : List (Option String) :=
  version.places.map fun place => (tree.path? place.1).bind fun e => e.attribute? place.2

namespace ProtocolVersion

variable (version : ProtocolVersion) (tree : Element)

lemma identifiersIn_merged : version.identifiersIn tree.merged = version.identifiersIn tree := by
  apply List.map_congr_left
  intro place _
  rw [Element.path_merged, Option.bind_map]
  rfl

lemma identifiersIn_insertChild {signature : Element} (hs : signature.localName = "Signature") (position : Nat) :
    version.identifiersIn (tree.insertChild position signature) = version.identifiersIn tree := by
  have hplaces : ∀ place ∈ version.places, place.1 = [] ∨ ∃ names, place.1 = "Assertion" :: names := by
    cases version <;> simp [places]
  have hne : signature.localName ≠ "Assertion" := by
    rw [hs]
    decide
  apply List.map_congr_left
  intro place hp
  rcases hplaces place hp with he | ⟨names, he⟩
  · rw [he]
    rfl
  · rw [he, Element.path?, Element.path?, Signature.find_insertChild_of_ne position hne]

end ProtocolVersion

lemma Response.identifiersIn_document (r : Response) (id assertionId sessionIndex : String) (v : Validity) :
    ProtocolVersion.saml20.identifiersIn (r.document id assertionId sessionIndex v) =
      [some id, some assertionId, some sessionIndex] := by
  have hassertion : (r.document id assertionId sessionIndex v).path? ["Assertion"] =
      some (r.assertion assertionId sessionIndex v) := path_assertion id assertionId sessionIndex v []
  have hstatement : (r.document id assertionId sessionIndex v).path? ["Assertion", "AuthnStatement"] =
      some (authnStatement sessionIndex v) := by
    rw [path_assertion, Element.path?, find_in_assertion _ _ _ 3 (by decide)]
    rfl
  simp only [ProtocolVersion.identifiersIn, ProtocolVersion.places, List.map_cons, List.map_nil,
    hassertion, hstatement]
  rfl

lemma LegacyResponse.identifiersIn_document (r : LegacyResponse) (id assertionId : String) (v : Validity) :
    ProtocolVersion.saml11.identifiersIn (r.document id assertionId v) = [some id, some assertionId] := by
  have hassertion : (r.document id assertionId v).find? "Assertion" = some (r.assertion assertionId v) :=
    Element.find_ofElements ["samlp:Status", "saml:Assertion"] 1 rfl (by decide)
  simp only [ProtocolVersion.identifiersIn, ProtocolVersion.places, List.map_cons, List.map_nil,
    Element.path?, hassertion]
  rfl

def Identifiers.upcoming (ids : Identifiers) (n : Nat) : List String :=
  (List.range n).map fun k => ids.nth (ids.drawn + k)

namespace Provider

variable {p : Provider} {signOn : SignOn} {version : ProtocolVersion} {now : Instant} {encoded : String}
  {j : Journal} {answer : EncodedResponse} {request : AuthnRequest} {destination : String}
  {ids : Identifiers} {document : Element}

lemma Issues.identifiersIn (h : Issues p signOn now request destination ids version document) :
    version.identifiersIn document = (ids.upcoming version.drawn).map some := by
  cases h with
  | response => exact Response.identifiersIn_document _ _ _ _ _
  | legacy => exact LegacyResponse.identifiersIn_document _ _ _ _

lemma Answer.identifiersIn (a : Answer p signOn version now encoded j answer) {settings : SignatureSettings}
    (hs : p.signer = Signature.sign settings) :
    version.identifiersIn a.signed.merged = (j.identifiers.upcoming version.drawn).map some := by
  obtain ⟨id, hsigned⟩ := a.signed_eq hs
  obtain ⟨_, c, hc⟩ := Signature.signed_ok hsigned
  obtain ⟨position, he⟩ := Signature.envelop_eq a.document c.signature
  have hname : c.signature.localName = "Signature" := Signature.signatureElement_localName _ _ _
  rw [ProtocolVersion.identifiersIn_merged, hc, he, ProtocolVersion.identifiersIn_insertChild _ _ hname,
    a.issued.identifiersIn]

end Provider

def EncodedResponse.Carries (answer : EncodedResponse) (deflate : Bytes → Bytes) (tree : Element) : Prop :=
  ∃ written, answer.payload = encodePayload (Bytes.ofText written) answer.compressed deflate ∧
    parse written = .ok tree

variable {deflate : Bytes → Bytes}

lemma encodePayload_injective (hd : Deflate.IsCompressor deflate) {xs ys : Bytes} {compressed : Bool}
    (h : encodePayload xs compressed deflate = encodePayload ys compressed deflate) : xs = ys := by
  have hdecode : ∀ bs : Bytes, bs.length ≤ xs.length + ys.length →
      decodeBytes (xs.length + ys.length) (encodePayload bs compressed deflate) compressed = .ok bs :=
    fun _ hl => decodeBytes_encodePayload hd fun _ => hl
  have hx := hdecode xs (Nat.le_add_right _ _)
  rw [h, hdecode ys (Nat.le_add_left _ _), Except.ok.injEq] at hx
  exact hx.symm

lemma EncodedResponse.Carries.unique (hd : Deflate.IsCompressor deflate) {answer : EncodedResponse}
    {tree other : Element} (h : answer.Carries deflate tree) (ho : answer.Carries deflate other) :
    tree = other := by
  obtain ⟨written, hp, htree⟩ := h
  obtain ⟨written', hp', hother⟩ := ho
  have hw := Bytes.ofText_injective (encodePayload_injective hd (hp.symm.trans hp'))
  rw [hw, hother, Except.ok.injEq] at htree
  exact htree.symm

end IdentityProvider
