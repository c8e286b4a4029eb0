import IdentityProvider.Proofs.Signature.Success
import IdentityProvider.Proofs.Xml.Stability
/-! Whether a signed document still verifies when its text has been normalized. -/

namespace IdentityProvider

open Xml

namespace Signature

lemma isStableText_encode (bs : Bytes) : isStableText (Base64.encode bs) = true := by
  have hd : ∀ n : Fin 64, (Base64.digit n != '\r') = true := by decide
  rw [isStableText, Base64.toList_encode, List.all_eq_true]
  exact Base64.digits_forall (P := fun c => (c != '\r') = true) (fun n hn => hd ⟨n, hn⟩) (by decide) bs

lemma filter_nonempty_normalized (o : Option String) :
    (o.map normalizedValue).filter (fun v => decide (v ≠ "")) =
      (o.filter fun v => decide (v ≠ "")).map normalizedValue := by
  have hempty : normalizedValue "" = "" := normalizedValue_stable (by decide)
  cases o with
  | none => rfl
  | some v =>
    rw [Option.map_some, Option.filter_some, Option.filter_some]
    by_cases hv : v = ""
    · subst hv
      rw [hempty, if_neg (by simp), Option.map_none]
    · rw [if_pos (by simpa using normalizedValue_ne_empty hv), if_pos (by simpa using hv), Option.map_some]

lemma referenceId_normalized {document : Element} {id : String} (h : referenceId document = .ok id) :
    referenceId document.normalized = .ok (normalizedValue id) := by
  have hor : ∀ o o' : Option String, (o.map normalizedValue).or (o'.map normalizedValue) =
      (o.or o').map normalizedValue := by
    intro o o'
    cases o with
    | none => rw [Option.map_none, Option.none_or, Option.none_or]
    | some v => rw [Option.map_some, Option.some_or, Option.some_or, Option.map_some]
  rw [referenceId_ok_iff] at h ⊢
  rw [Element.normalized, Element.attribute_mapTexts, Element.attribute_mapTexts, hor,
    filter_nonempty_normalized, h, Option.map_some]

lemma ofElements_normalized (name : String) (attributes : List Attribute) (children : List Element) :
    (Element.ofElements name attributes children).normalized =
      .ofElements name (attributes.map fun a => (a.1, normalizedValue a.2)) (children.map Element.normalized) :=
  Element.mapTexts_ofElements _ _ _ _ _

lemma algorithmElement_normalized {uri : String} (h : isStableValue uri = true) (name : String) :
    (algorithmElement name uri).normalized = algorithmElement name uri := by
  rw [Element.normalized, Element.mapTexts, algorithmElement, List.map_singleton, normalizedValue_stable h]
  rfl

lemma ofText_encode_normalized (name : String) (bs : Bytes) :
    (Element.ofText name [] (Base64.encode bs)).normalized = .ofText name [] (Base64.encode bs) := by
  rw [Element.normalized, Element.mapTexts_ofText, normalizedText_stable (isStableText_encode bs)]
  rfl

lemma signedInfo_normalized (id : String) (digest : Bytes) (algorithm : DigestAlgorithm) :
    (signedInfo id (Base64.encode digest) algorithm).normalized =
      signedInfo (normalizedValue id) (Base64.encode digest) algorithm := by
  have hs : isStableValue algorithm.signatureUri = true := by
    cases algorithm <;> decide +kernel
  have hu : isStableValue algorithm.digestUri = true := by
    cases algorithm <;> decide +kernel
  have hc : isStableValue Vocabulary.exclusiveCanonicalization = true := by decide +kernel
  have he : isStableValue Vocabulary.envelopedSignatureTransform = true := by decide +kernel
  simp only [signedInfo, ofElements_normalized, List.map_cons, List.map_nil, algorithmElement_normalized hs,
    algorithmElement_normalized hu, algorithmElement_normalized hc, algorithmElement_normalized he,
    ofText_encode_normalized, normalizedValue_hash]

lemma signatureElement_normalized (info : Element) (value : Bytes) (certificate : Option Bytes) :
    (signatureElement info value certificate).normalized = signatureElement info.normalized value certificate := by
  have hd : (declarations.map fun a => (a.1, normalizedValue a.2)) = declarations :=
    normalized_attributes_stable (by decide +kernel)
  cases certificate <;>
    simp only [signatureElement, keyInfo, ofElements_normalized, hd, Option.map_some, Option.map_none,
      Option.toList_some, Option.toList_none, List.map_append, List.map_cons, List.map_nil,
      ofText_encode_normalized]

section Documents

variable {document : Element}

lemma normalized_unsigned (h : ∀ e ∈ document.elements, e.localName ≠ "Signature") :
    ∀ e ∈ document.normalized.elements, e.localName ≠ "Signature" := by
  rw [Element.normalized, Element.elements_mapTexts]
  intro e he
  obtain ⟨f, hf, rfl⟩ := List.mem_map.mp he
  exact h f hf

lemma signatureElement_isLone {info : Element} (h : info.IsLone) (value : Bytes) (certificate : Option Bytes) :
    (signatureElement info value certificate).IsLone := by
  cases certificate <;>
    simp [signatureElement, keyInfo, isLone_ofElements, isLone_ofText, h]

lemma signedInfo_isLone (id digest : String) (algorithm : DigestAlgorithm) :
    (signedInfo id digest algorithm).IsLone := by
  simp [signedInfo, algorithmElement, isLone_ofElements, isLone_ofText, isLone_childless]

lemma isStable_referenceId {id : String} (hs : document.IsStable) (h : referenceId document = .ok id) :
    normalizedValue id = id := by
  obtain ⟨key, hkey⟩ := referenceId_ok h
  rw [Element.IsStable, all_toNode, Bool.and_eq_true] at hs
  exact normalizedValue_stable (List.all_eq_true.mp hs.1 _ (lookup_mem hkey))

variable {settings : SignatureSettings} {keys : KeyMaterial} {id : String}

theorem verify_normalized {result : Element} {pub : Bytes} (hn : document.IsNamed) (hl : document.IsLone)
    (hu : ∀ e ∈ document.elements, e.localName ≠ "Signature")
    (h : signed settings document keys = .ok (result, id))
    (hp : (privateKeyDer keys.privateKeyPem >>= Rsa.publicKeyDer) = .ok pub) :
    ∃ written unsigned unsigned' verified, result.toXml = .ok written ∧ document.canonicalize = .ok unsigned ∧
      document.normalized.canonicalize = .ok unsigned' ∧ verify (normalize written) pub = .ok verified ∧
      (document.IsStable → verified = true) ∧
      (verified = true → settings.digest.hash (Bytes.ofText unsigned') =
        settings.digest.hash (Bytes.ofText unsigned)) := by
  obtain ⟨hid, c, rfl⟩ := signed_ok h
  obtain ⟨key, hk, hpub⟩ := bind_ok_iff.mp hp
  rw [c.key_eq, Except.ok.injEq] at hk
  subst hk
  obtain ⟨position, he⟩ := envelop_eq document c.signature
  -- The signature is normalized with the document, which touches nothing in it but the reference.
  have hnormalize : normalize (String.ofList (renderNode wireEscapes (envelop document c.signature).toNode)) =
      String.ofList (renderNode wireEscapes (document.normalized.insertChild position (signatureElement
        (signedInfo (normalizedValue id) (Base64.encode c.digest) settings.digest) c.value
          c.certificate)).toNode) := by
    have hlone : (envelop document c.signature).IsLone := by
      rw [he]
      exact hl.insertChild (signatureElement_isLone (signedInfo_isLone _ _ _) _ _) position
    rw [normalize_render (c.envelop_isNamed hn) hlone, he, Element.normalized, Element.mapTexts_insertChild,
      ← signedInfo_normalized, ← signatureElement_normalized]
    rfl
  obtain ⟨hw, _⟩ := canonicalize_ok_iff.mp c.unsigned_eq
  obtain ⟨key, hkey⟩ := referenceId_ok hid
  obtain ⟨unsigned', hunsigned⟩ : ∃ unsigned', document.normalized.canonicalize = .ok unsigned' :=
    ⟨_, canonicalize_ok_iff.mpr ⟨hw.normalized, rfl⟩⟩
  obtain ⟨signed', hsigned⟩ : ∃ signed', (signedInfo (normalizedValue id) (Base64.encode c.digest)
      settings.digest).canonicalizeIn declarations = .ok signed' :=
    ⟨_, canonicalizeIn_ok_iff.mpr ⟨signedInfo_isWritable (isXmlText_normalizedValue (hw.attribute hkey))
      (isXmlText_encode _) _, rfl⟩⟩
  have hn' : document.normalized.IsNamed := hn.mapTexts normalizedValue normalizedText
  have hverify := verify_insertChild position c.value c.certificate pub hn' (normalized_unsigned hu)
    (referenceId_normalized hid) hunsigned hsigned
  rw [← hnormalize] at hverify
  refine ⟨_, c.unsigned, unsigned', _, toXml_ok_iff.mpr ⟨c.envelop_isWritable, rfl⟩, c.unsigned_eq,
    hunsigned, hverify, ?_, ?_⟩
  · intro hs
    have hsame : (signedInfo id (Base64.encode c.digest) settings.digest).canonicalizeIn declarations =
      .ok c.signed :=
      c.signed_eq
    rw [hs.normalized, c.unsigned_eq, Except.ok.injEq] at hunsigned
    rw [isStable_referenceId hs hid, hsame, Except.ok.injEq] at hsigned
    rw [← hunsigned, ← hsigned, Rsa.verify_sign hpub c.value_eq, Bool.and_true]
    exact decide_eq_true rfl
  · intro hv
    rw [Bool.and_eq_true, decide_eq_true_eq] at hv
    exact hv.1

end Documents

end Signature

end IdentityProvider
