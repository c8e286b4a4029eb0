import IdentityProvider.Proofs.Bytes.Encoding
import IdentityProvider.Proofs.Key.Rsa
import IdentityProvider.Proofs.Outcome
import IdentityProvider.Proofs.Signature.Envelope
import IdentityProvider.Proofs.Xml.ReadBack
import IdentityProvider.Proofs.Xml.Scope
/-! Every signed document verifies, once it has been written and read. -/

namespace IdentityProvider.Signature

open Xml

def signatureElement (info : Element) (value : Bytes) (certificate : Option Bytes) : Element :=
  .ofElements "ds:Signature" declarations
    ([info, .ofText "ds:SignatureValue" [] (Base64.encode value)] ++
      (certificate.map fun der => keyInfo (Base64.encode der)).toList)

structure Created (settings : SignatureSettings) (id : String) (document : Element) (keys : KeyMaterial) where
  key : PrivateKeyDer
  unsigned : String
  signed : String
  value : Bytes
  certificate : Option Bytes
  key_eq : privateKeyDer keys.privateKeyPem = .ok key
  unsigned_eq : document.canonicalize = .ok unsigned
  signed_eq : (signedInfo id (Base64.encode (settings.digest.hash (Bytes.ofText unsigned)))
    settings.digest).canonicalizeIn
    declarations = .ok signed
  value_eq : Rsa.sign key (Bytes.ofText signed) settings.digest = .ok value

section Created

variable {settings : SignatureSettings} {id : String} {document : Element} {keys : KeyMaterial}

namespace Created

def digest (c : Created settings id document keys) : Bytes :=
  settings.digest.hash (Bytes.ofText c.unsigned)

def info (c : Created settings id document keys) : Element :=
  signedInfo id (Base64.encode c.digest) settings.digest

def signature (c : Created settings id document keys) : Element :=
  signatureElement c.info c.value c.certificate

end Created

lemma create_ok {signature : Element} (h : create settings id document keys = .ok signature) :
    ∃ c : Created settings id document keys, signature = c.signature := by
  rw [create] at h
  obtain ⟨key, hkey, h⟩ := bind_ok_iff.mp h
  obtain ⟨unsigned, hunsigned, h⟩ := bind_ok_iff.mp h
  obtain ⟨signed, hsigned, h⟩ := bind_ok_iff.mp h
  obtain ⟨value, hvalue, h⟩ := bind_ok_iff.mp h
  rw [mapError_ok_iff] at hkey hunsigned hsigned hvalue
  by_cases hc : settings.includeCertificate = true
  · simp only [hc, if_true] at h
    obtain ⟨text, htext, h⟩ := bind_ok_iff.mp h
    obtain ⟨der, _, hder⟩ := bind_ok_iff.mp (mapError_ok_iff.mp htext)
    cases hder
    cases h
    exact ⟨⟨key, unsigned, signed, value, some der, hkey, hunsigned, hsigned, hvalue⟩, rfl⟩
  · simp only [hc] at h
    cases h
    exact ⟨⟨key, unsigned, signed, value, none, hkey, hunsigned, hsigned, hvalue⟩, rfl⟩

lemma signed_ok {result : Element} (h : signed settings document keys = .ok (result, id)) :
    referenceId document = .ok id ∧
      ∃ c : Created settings id document keys, result = envelop document c.signature := by
  rw [signed] at h
  obtain ⟨id', hid, h⟩ := bind_ok_iff.mp h
  obtain ⟨signature, hsignature, h⟩ := bind_ok_iff.mp h
  cases h
  obtain ⟨c, rfl⟩ := create_ok hsignature
  exact ⟨hid, c, rfl⟩

end Created

lemma isXmlText_encode (bs : Bytes) : isXmlText (Base64.encode bs) = true := by
  have hd : ∀ n : Fin 64, isXmlChar (Base64.digit n) = true := by decide
  rw [isXmlText, Base64.toList_encode, List.all_eq_true]
  exact Base64.digits_forall (fun n hn => hd ⟨n, hn⟩) (by decide) bs

def reference (id digest : String) (algorithm : DigestAlgorithm) : Element :=
  .ofElements "ds:Reference" [("URI", "#" ++ id)]
    [.ofElements "ds:Transforms" []
      [algorithmElement "ds:Transform" Vocabulary.envelopedSignatureTransform,
        algorithmElement "ds:Transform" Vocabulary.exclusiveCanonicalization],
      algorithmElement "ds:DigestMethod" algorithm.digestUri,
      .ofText "ds:DigestValue" [] digest]

section Pieces

variable (id digest : String) (algorithm : DigestAlgorithm) (info : Element) (value : Bytes)
  (certificate : Option Bytes)

lemma all_algorithmElement (tag : String → List Attribute → Bool) (content : String → Bool) (name uri : String) :
    (algorithmElement name uri).toNode.all tag content = tag name [("Algorithm", uri)] := by
  simp [algorithmElement, all_toNode, allNodes]

lemma signedInfo_isNamed : (signedInfo id digest algorithm).IsNamed := by
  simp only [Element.IsNamed, signedInfo, all_ofElements, all_algorithmElement, all_ofText, isNamedTag,
    List.map_cons, List.map_nil, List.all_cons, List.all_nil]
  decide

lemma signedInfo_prefixed :
    (signedInfo id digest algorithm).toNode.all (isPrefixedTag "ds") (fun _ => true) = true := by
  simp only [signedInfo, all_ofElements, all_algorithmElement, all_ofText, isPrefixedTag, List.map_cons,
    List.map_nil, List.all_cons, List.all_nil]
  decide

lemma canonicalizeIn_declarations (attributes : List Attribute) :
    (signedInfo id digest algorithm).canonicalizeIn (attributes ++ declarations) =
      (signedInfo id digest algorithm).canonicalizeIn declarations := by
  -- The document's declarations reach the signed part, but it uses none of their prefixes.
  have hfree : ∀ p ∈ freePrefixes [(signedInfo id digest algorithm).toNode],
      (Scope.declare [] (attributes ++ declarations)).lookup p = (Scope.declare [] declarations).lookup p := by
    intro p hp
    have hds : p = "ds" := by
      refine freePrefixes_prefixed ?_ p hp
      simp only [allNodes, signedInfo_prefixed, Bool.and_true]
    have hdeclared : ∀ scope : Scope, scope.declare declarations =
      ("ds", Vocabulary.signatureNamespace) :: scope :=
      fun _ => rfl
    rw [declare_append, hdeclared, hdeclared, hds]
    rfl
  have ht := canonicalTrees_congr [] hfree
  simp only [canonicalTrees, List.cons.injEq, and_true] at ht
  rw [Element.canonicalizeIn, Element.canonicalizeIn, canonicalNode_eq, canonicalNode_eq, ht]

lemma signatureElement_isNamed (h : info.IsNamed) : (signatureElement info value certificate).IsNamed := by
  have hinfo : info.toNode.all isNamedTag (fun _ => true) = true := h
  cases certificate <;>
    simp only [Element.IsNamed, signatureElement, declarations, keyInfo, all_ofElements, all_ofText,
      hinfo, isNamedTag, List.map_cons, List.map_nil, List.all_cons, List.all_nil, List.all_append,
      Option.map_some, Option.map_none,
      Option.toList_some, Option.toList_none] <;>
    decide

lemma signatureElement_isWritable (h : info.IsWritable) :
    (signatureElement info value certificate).IsWritable := by
  have hinfo : info.toNode.all isWritableTag isXmlText = true := h
  cases certificate <;>
    simp only [Element.IsWritable, signatureElement, declarations, keyInfo, all_ofElements, all_ofText, hinfo,
      isXmlText_encode, List.all_cons, List.all_nil, List.all_append, Option.map_some, Option.map_none,
      Option.toList_some, Option.toList_none] <;>
    decide

lemma find_signedInfo : (signatureElement (signedInfo id digest algorithm) value certificate).find? "SignedInfo" =
    some (signedInfo id digest algorithm) := by
  cases certificate with
  | none => exact Element.find_ofElements ["ds:SignedInfo", "ds:SignatureValue"] 0 rfl (by decide)
  | some der => exact Element.find_ofElements ["ds:SignedInfo", "ds:SignatureValue",
      "ds:KeyInfo"] 0 rfl (by decide)

lemma find_signatureValue :
    (signatureElement (signedInfo id digest algorithm) value certificate).find? "SignatureValue" =
      some (.ofText "ds:SignatureValue" [] (Base64.encode value)) := by
  cases certificate with
  | none => exact Element.find_ofElements ["ds:SignedInfo", "ds:SignatureValue"] 1 rfl (by decide)
  | some der => exact Element.find_ofElements ["ds:SignedInfo", "ds:SignatureValue",
      "ds:KeyInfo"] 1 rfl (by decide)

lemma find_signatureMethod : (signedInfo id digest algorithm).find? "SignatureMethod" =
    some (algorithmElement "ds:SignatureMethod" algorithm.signatureUri) :=
  Element.find_ofElements ["ds:CanonicalizationMethod", "ds:SignatureMethod", "ds:Reference"] 1 rfl (by decide)

lemma find_reference : (signedInfo id digest algorithm).find? "Reference" =
    some (reference id digest algorithm) :=
  Element.find_ofElements ["ds:CanonicalizationMethod", "ds:SignatureMethod", "ds:Reference"] 2 rfl (by decide)

lemma find_digestMethod : (reference id digest algorithm).find? "DigestMethod" =
    some (algorithmElement "ds:DigestMethod" algorithm.digestUri) :=
  Element.find_ofElements ["ds:Transforms", "ds:DigestMethod", "ds:DigestValue"] 1 rfl (by decide)

lemma find_digestValue : (reference id digest algorithm).find? "DigestValue" =
    some (.ofText "ds:DigestValue" [] digest) :=
  Element.find_ofElements ["ds:Transforms", "ds:DigestMethod", "ds:DigestValue"] 2 rfl (by decide)

end Pieces

lemma require_merged {parent child : Element} {name : String} (h : parent.find? name = some child) :
    require parent.merged name = .ok child.merged := by
  rw [require, Element.find_merged, h]
  rfl

lemma bytesIn_encode (name : String) (attributes : List Xml.Attribute) (bs : Bytes) :
    bytesIn (Element.ofText name attributes (Base64.encode bs)).merged = .ok bs := by
  rw [bytesIn, Element.textContent_merged, Element.textContent_ofText, Base64.decode_removeBlanks_encode]

lemma algorithmOf_signedInfo (id digest : String) (algorithm : DigestAlgorithm) :
    algorithmOf (signedInfo id digest algorithm).merged = .ok algorithm := by
  have hm := require_merged (find_signatureMethod id digest algorithm)
  have ha : (algorithmElement "ds:SignatureMethod" algorithm.signatureUri).merged.attribute? "Algorithm" =
      some algorithm.signatureUri := rfl
  simp only [algorithmOf, hm, bind, Except.bind, ha, Option.getD_some,
    DigestAlgorithm.ofSignatureUri?_signatureUri]
  rfl

lemma referencedDigest_signedInfo {document : Element} {id : String} (hid : referenceId document = .ok id)
    (digest : Bytes) (algorithm : DigestAlgorithm) :
    referencedDigest document (signedInfo id (Base64.encode digest) algorithm).merged algorithm = .ok digest := by
  have hr := require_merged (find_reference id (Base64.encode digest) algorithm)
  have hm := require_merged (find_digestMethod id (Base64.encode digest) algorithm)
  have hv := require_merged (find_digestValue id (Base64.encode digest) algorithm)
  have hu : (reference id (Base64.encode digest) algorithm).merged.attribute? "URI" = some ("#" ++ id) := rfl
  have ha : (algorithmElement "ds:DigestMethod" algorithm.digestUri).merged.attribute? "Algorithm" =
      some algorithm.digestUri := rfl
  simp only [referencedDigest, hr, hid, hm, hv, bind, Except.bind, hu, ha, ne_eq, not_true_eq_false, if_false]
  exact bytesIn_encode _ _ _

lemma verifyDetached_signatureElement {document : Element} {id unsigned signed : String}
    {digest : Bytes} {algorithm : DigestAlgorithm} (value : Bytes) (certificate : Option Bytes) (pub : Bytes)
    (hid : referenceId document = .ok id) (hu : document.canonicalize = .ok unsigned)
    (hs : (signedInfo id (Base64.encode digest) algorithm).canonicalizeIn declarations = .ok signed) :
    verifyDetached document (signatureElement (signedInfo id (Base64.encode digest) algorithm) value
      certificate).merged pub =
        .ok (decide (algorithm.hash (Bytes.ofText unsigned) = digest) &&
          Rsa.verify pub (Bytes.ofText signed) value algorithm) := by
  have hi := require_merged (find_signedInfo id (Base64.encode digest) algorithm value certificate)
  have hval := require_merged (find_signatureValue id (Base64.encode digest) algorithm value certificate)
  have ha := algorithmOf_signedInfo id (Base64.encode digest) algorithm
  have hd := referencedDigest_signedInfo hid digest algorithm
  have hsigned := canonicalizeIn_declarations id (Base64.encode digest) algorithm document.attributes
  rw [← canonicalizeIn_merged, hs] at hsigned
  have hattributes : ∀ info : Element, (signatureElement info value certificate).merged.attributes =
    declarations :=
    fun _ => rfl
  by_cases heq : algorithm.hash (Bytes.ofText unsigned) = digest
  · simp only [verifyDetached, hi, ha, hd, hu, hval, hattributes, hsigned, bytesIn_encode, bind, Except.bind,
      Except.mapError, heq, ne_eq, not_true_eq_false, if_false, decide_true, Bool.true_and]
    rfl
  · simp only [verifyDetached, hi, ha, hd, hu, bind, Except.bind, Except.mapError, heq, ne_eq, not_false_eq_true,
      if_true, decide_false, Bool.false_and]
    rfl

lemma verify_parsed {written : String} {document signature : Element} (pub : Bytes)
    (hp : parse written = .ok document) (hs : document.find? "Signature" = some signature) :
    verify written pub = verifyDetached (document.removeChild "Signature") signature pub := by
  simp only [verify, hp, bind, Except.bind, Except.mapError, hs]

lemma signatureElement_localName (info : Element) (value : Bytes) (certificate : Option Bytes) :
    (signatureElement info value certificate).localName = "Signature" := by
  have hn : (signatureElement info value certificate).name = "ds:Signature" := rfl
  rw [Element.localName, hn]
  decide

theorem verify_insertChild {document : Element} {id unsigned signed : String} {digest : Bytes}
    {algorithm : DigestAlgorithm} (position : Nat) (value : Bytes) (certificate : Option Bytes) (pub : Bytes)
    (hn : document.IsNamed) (hu : ∀ e ∈ document.elements, e.localName ≠ "Signature")
    (hid : referenceId document = .ok id) (hc : document.canonicalize = .ok unsigned)
    (hs : (signedInfo id (Base64.encode digest) algorithm).canonicalizeIn declarations = .ok signed) :
    verify (String.ofList (renderNode wireEscapes (document.insertChild position
      (signatureElement (signedInfo id (Base64.encode digest) algorithm) value certificate)).toNode)) pub =
        .ok (decide (algorithm.hash (Bytes.ofText unsigned) = digest) &&
          Rsa.verify pub (Bytes.ofText signed) value algorithm) := by
  have hl := signatureElement_localName (signedInfo id (Base64.encode digest) algorithm) value certificate
  have hnamed : (document.insertChild position
    (signatureElement (signedInfo id (Base64.encode digest) algorithm) value
      certificate)).IsNamed :=
    insertChild_isNamed hn (signatureElement_isNamed _ _ _ (signedInfo_isNamed _ _ _))
  have hid' : referenceId ((document.insertChild position (signatureElement
      (signedInfo id (Base64.encode digest) algorithm) value certificate)).merged.removeChild "Signature") =
        .ok id := hid
  rw [verify_parsed pub (parse_render wireEscapes hnamed) (find_signature_merged position hl hu)]
  exact verifyDetached_signatureElement value certificate pub hid'
    ((canonicalize_removeChild position hl hu).trans hc) hs

section Created

variable {settings : SignatureSettings} {id : String} {document : Element} {keys : KeyMaterial}

lemma envelop_eq (document signature : Element) :
    ∃ position, envelop document signature = document.insertChild position signature := ⟨_, rfl⟩

namespace Created

variable (c : Created settings id document keys)

lemma envelop_isNamed (h : document.IsNamed) : (envelop document c.signature).IsNamed := by
  obtain ⟨position, he⟩ := envelop_eq document c.signature
  rw [he]
  exact insertChild_isNamed h (signatureElement_isNamed _ _ _ (signedInfo_isNamed _ _ _))

lemma envelop_isWritable : (envelop document c.signature).IsWritable := by
  obtain ⟨position, he⟩ := envelop_eq document c.signature
  rw [he]
  exact insertChild_isWritable (canonicalize_ok_iff.mp c.unsigned_eq).1
    (signatureElement_isWritable _ _ _ (canonicalizeIn_ok_iff.mp c.signed_eq).1)

lemma parse_written (h : document.IsNamed) : ∃ written, (envelop document c.signature).toXml = .ok written ∧
    parse written = .ok (envelop document c.signature).merged :=
  ⟨_, toXml_ok_iff.mpr ⟨c.envelop_isWritable, rfl⟩, parse_render wireEscapes (c.envelop_isNamed h)⟩

end Created

theorem verify_signed {result : Element} {pub : Bytes} (hn : document.IsNamed)
    (hu : ∀ e ∈ document.elements, e.localName ≠ "Signature")
    (h : signed settings document keys = .ok (result, id))
    (hp : (privateKeyDer keys.privateKeyPem >>= Rsa.publicKeyDer) = .ok pub) :
    ∃ written, result.toXml = .ok written ∧ verify written pub = .ok true := by
  obtain ⟨hid, c, rfl⟩ := signed_ok h
  obtain ⟨key, hk, hpub⟩ := bind_ok_iff.mp hp
  rw [c.key_eq, Except.ok.injEq] at hk
  subst hk
  obtain ⟨position, he⟩ := envelop_eq document c.signature
  have hd := verify_insertChild position c.value c.certificate pub hn hu hid c.unsigned_eq c.signed_eq
  refine ⟨_, toXml_ok_iff.mpr ⟨c.envelop_isWritable, rfl⟩, ?_⟩
  rw [he]
  refine hd.trans ?_
  rw [Rsa.verify_sign hpub c.value_eq, Bool.and_true, decide_eq_true rfl]

end Created

end IdentityProvider.Signature
