import IdentityProvider.Proofs.RelyingParty
import IdentityProvider.Proofs.Xml.Respelling
/-! Canonical forms and verification come to the same however a tree is spelled. -/

namespace IdentityProvider

open Xml

namespace Signature

section Agreement

variable {scope scope' : Scope} {e f : Element}

lemma require_cases (h : e.Agrees scope scope' f) (name : String) :
    (∃ failure, require e name = .error failure ∧ require f name = .error failure) ∨
      ∃ c d, require e name = .ok c ∧ require f name = .ok d ∧ e.find? name = some c ∧ f.find? name = some d ∧
        c.Agrees (scope.declare e.attributes) (scope'.declare f.attributes) d := by
  have hn := (Element.agrees_iff.mp h).1
  have hr := h.find name
  unfold require
  cases he : e.find? name <;> cases hf : f.find? name <;> rw [he, hf] at hr <;> cases hr
  · exact Or.inl ⟨_, rfl, by rw [hn]⟩
  · rename_i c d hcd
    exact Or.inr ⟨c, d, rfl, rfl, rfl, rfl, hcd⟩

lemma referenceId_congr (h : e.Agrees scope scope' f) (hd : e.HasKeysApart scope) :
    referenceId e = referenceId f := by
  have hid : declaredPrefix? "ID" = none := by decide
  have hresponse : declaredPrefix? "ResponseID" = none := by decide
  rw [referenceId, referenceId, h.attribute hd hid, h.attribute hd hresponse, (Element.agrees_iff.mp h).1]

lemma bytesIn_congr (h : e.Agrees scope scope' f) : bytesIn e = bytesIn f := by
  rw [bytesIn, bytesIn, h.textContent]

lemma algorithmOf_congr (h : e.Agrees scope scope' f) (hd : e.HasKeysApart scope) :
    algorithmOf e = algorithmOf f := by
  rw [algorithmOf, algorithmOf]
  rcases require_cases h "SignatureMethod" with ⟨_, he, hf⟩ | ⟨c, d, he, hf, hc, _, hcd⟩
  · rw [he, hf]
  · have ha : c.attribute? "Algorithm" = d.attribute? "Algorithm" := hcd.attribute (hd.find hc) (by decide)
    rw [he, hf]
    simp only [bind, Except.bind, ha]

lemma referencedDigest_congr {document document' : Element} (hi : e.Agrees scope scope' f)
    (hd : e.HasKeysApart scope) (hid : referenceId document = referenceId document')
    (algorithm : DigestAlgorithm) :
    referencedDigest document e algorithm = referencedDigest document' f algorithm := by
  rw [referencedDigest, referencedDigest, hid]
  rcases require_cases hi "Reference" with ⟨_, he, hf⟩ | ⟨c, d, he, hf, hc, _, hcd⟩
  · rw [he, hf]
  · have hck := hd.find hc
    have hu : c.attribute? "URI" = d.attribute? "URI" := hcd.attribute hck (by decide)
    rw [he, hf]
    simp only [bind, Except.bind, hu]
    rcases require_cases hcd "DigestMethod" with ⟨_, hm, hm'⟩ | ⟨m, m', hm, hm', hmc, _, hmm⟩
    · rw [hm, hm']
    · have ha : m.attribute? "Algorithm" = m'.attribute? "Algorithm" := hmm.attribute (hck.find hmc) (by decide)
      rw [hm, hm']
      simp only [ha]
      rcases require_cases hcd "DigestValue" with ⟨_, hv, hv'⟩ | ⟨v, v', hv, hv', _, _, hvv⟩
      · rw [hv, hv']
      · rw [hv, hv']
        simp only [bytesIn_congr hvv]

end Agreement

lemma verifyDetached_congr {document document' signature signature' : Element}
    (hd : document.Agrees [] [] document') (hdk : document.HasKeysApart []) (hdw : document.IsWritable)
    (hdw' : document'.IsWritable)
    (hs : signature.Agrees (Scope.declare [] document.attributes) (Scope.declare [] document'.attributes)
      signature')
    (hsk : signature.HasKeysApart (Scope.declare [] document.attributes)) (hsw : signature.IsWritable)
    (hsw' : signature'.IsWritable) (pub : Bytes) :
    verifyDetached document signature pub = verifyDetached document' signature' pub := by
  rw [verifyDetached, verifyDetached, hd.canonicalize hdk hdw hdw']
  rcases require_cases hs "SignedInfo" with ⟨_, hi, hi'⟩ | ⟨info, info', hi, hi', hf, hf', hii⟩
  · rw [hi, hi']
    rfl
  · have hik := hsk.find hf
    have hsigned : info.canonicalizeIn (document.attributes ++ signature.attributes) =
        info'.canonicalizeIn (document'.attributes ++ signature'.attributes) := by
      rw [← declare_append, ← declare_append] at hii
      rw [← declare_append] at hik
      exact hii.canonicalizeIn hik (hsw.find hf) (hsw'.find hf')
    rw [hi, hi']
    simp only [bind, Except.bind, algorithmOf_congr hii hik,
      referencedDigest_congr hii hik (referenceId_congr hd hdk), hsigned]
    rcases require_cases hs "SignatureValue" with ⟨_, hv, hv'⟩ | ⟨v, v', hv, hv', _, _, hvv⟩
    · rw [hv, hv']
    · rw [hv, hv']
      simp only [bytesIn_congr hvv]

lemma signatureElement_keysApart (id digest : String) (algorithm : DigestAlgorithm) (value : Bytes)
    (certificate : Option Bytes) (scope : Scope) :
    (signatureElement (signedInfo id digest algorithm) value certificate).HasKeysApart scope := by
  have hs : ∀ e : Element,
      allNodes (fun _ attributes => decide (attributes.length ≤ 1)) (fun _ => true) [e.toNode] = true →
        e.HasKeysApart scope := by
    intro e h
    have hk := keysApart_of_length h scope
    rwa [keysApart, keysApart, Bool.and_true] at hk
  apply hs
  cases certificate <;>
    simp only [allNodes, signatureElement, signedInfo, declarations, keyInfo, all_ofElements, all_algorithmElement,
      all_ofText, List.all_cons, List.all_nil, List.all_append, Option.map_some, Option.map_none,
      Option.toList_some, Option.toList_none] <;>
    rfl

theorem verify_congr {document document' : Element} {read written : String} (hp : parse read = .ok document)
    (hp' : parse written = .ok document') (hd : document.Agrees [] [] document') (hk : document.HasKeysApart [])
    (hw : document.IsWritable) (hw' : document'.IsWritable) (pub : Bytes) :
    verify written pub = verify read pub := by
  have hr := hd.find "Signature"
  cases hs : document.find? "Signature" with
  | none =>
    rw [hs] at hr
    cases hs' : document'.find? "Signature" with
    | none => simp only [verify, hp, hp', bind, Except.bind, Except.mapError, hs, hs']
    | some signature' =>
      rw [hs'] at hr
      cases hr
  | some signature =>
    rw [hs] at hr
    cases hs' : document'.find? "Signature" with
    | none =>
      rw [hs'] at hr
      cases hr
    | some signature' =>
      rw [hs'] at hr
      cases hr with
      | some hss =>
        rw [verify_parsed pub hp hs, verify_parsed pub hp' hs']
        exact (verifyDetached_congr (hd.removeChild "Signature") (hk.removeChild "Signature")
          (hw.removeChild "Signature") (hw'.removeChild "Signature") hss (hk.find hs) (hw.find hs)
            (hw'.find hs') pub).symm

end Signature

/-- Trees that differ in the order of attributes, in spare declarations and in how texts are split are
canonicalized alike, can be written alike, and verify alike. -/
theorem respelled_alike {t t' : Element} (hn : t.IsNamed) (hd : t.HasKeysApart []) (h : Respelled t t') :
    (∀ c, t'.canonicalize = .ok c ↔ t.canonicalize = .ok c) ∧
      ((∃ written, t'.toXml = .ok written) ↔ ∃ written, t.toXml = .ok written) ∧
      ∀ (read written : String) (pub : Bytes), parse read = .ok t → t'.toXml = .ok written →
        Signature.verify written pub = Signature.verify read pub := by
  have hwritten : ∀ e : Element, (∃ written, e.toXml = .ok written) ↔ e.IsWritable := by
    intro e
    constructor
    · rintro ⟨written, hw⟩
      exact (toXml_ok_iff.mp hw).1
    · intro hw
      exact ⟨_, toXml_ok_iff.mpr ⟨hw, rfl⟩⟩
  refine ⟨fun c => h.canonicalize_iff hn hd, ?_, ?_⟩
  · rw [hwritten, hwritten]
    exact h.isWritable_iff.symm
  · intro read written pub hp hw
    obtain ⟨hw', rfl⟩ := toXml_ok_iff.mp hw
    have hmerged : t'.Agrees [] [] t'.merged := by
      apply agrees_of_merged
      rw [Element.merged, Element.merged, merged_twice]
    exact Signature.verify_congr hp (parse_render wireEscapes (h.isNamed_iff.mp hn))
      ((h.agrees hn).trans hmerged) hd
      (h.isWritable_iff.mpr hw') hw'.merged pub

theorem forbidden_respelled_differently :
    (∃ t t' : Element, t.IsNamed ∧ t.HasKeysApart [] ∧ Respelled t t' ∧ t'.canonicalize ≠ t.canonicalize) ∧
      ∃ (t : Element) (p uri written : String), t.IsNamed ∧ t.HasKeysApart [] ∧
        (∀ a ∈ t.attributes, declaredPrefix? a.1 ≠ some p) ∧ p ∉ t.toNode.freePrefixes ∧
        t.canonicalize = .ok written ∧ (t.declare (p, uri)).canonicalize ≠ .ok written := by
  constructor
  · refine ⟨⟨"a", [("l", "\x02"), ("k", "\x01")], []⟩,
      ⟨"a", [("k", "\x01"), ("l", "\x02")], []⟩, by decide, by decide, ?_, ?_⟩
    · apply Relation.EqvGen.rel
      apply Respelling.permute
      exact List.Perm.swap _ _ _
    · decide +kernel
  · refine ⟨⟨"a", [], []⟩, "p", "\x01", "<a></a>", by decide, by decide, by decide, ?_, ?_, ?_⟩
    · decide +kernel
    · decide +kernel
    · decide +kernel

namespace Sample

theorem respelled_alike_signed :
    ∃ t t' read written, parse read = .ok t ∧ Respelled t t' ∧ t'.attributes = [("ID", "d"), ("xmlns:r", "u")] ∧
      (∃ c, t.canonicalize = .ok c ∧ t'.canonicalize = .ok c) ∧ t'.toXml = .ok written ∧
      Signature.verify read publicKey = .ok true ∧ Signature.verify written publicKey = .ok true := by
  have hk : Signature.CanSign {} signOn.keys :=
    RsaPrivateKey.canSign_material RsaPrivateKey.sample_signsAll (by decide) {}
  have hid : Signature.referenceId document = .ok "d" := referenceId_of_ID (by decide) rfl
  obtain ⟨result, hsigned⟩ := Signature.signed_isOk hk hid (by decide)
  obtain ⟨read, hread, hverify⟩ := Signature.verify_signed (by decide) (by decide) hsigned publicKeyDer_eq
  obtain ⟨_, c, rfl⟩ := Signature.signed_ok hsigned
  obtain ⟨_, hread', hparse⟩ := c.parse_written (by decide)
  rw [hread, Except.ok.injEq] at hread'
  subst hread'
  obtain ⟨position, he⟩ := Signature.envelop_eq document c.signature
  have hn := (c.envelop_isNamed (by decide)).merged
  have hw := c.envelop_isWritable.merged
  rw [he] at hparse hn hw
  have hd : (document.insertChild position c.signature).merged.HasKeysApart [] := by
    apply Element.HasKeysApart.merged
    apply Element.HasKeysApart.insertChild (by decide)
    exact Signature.signatureElement_keysApart _ _ _ _ _ _
  -- The signature reads back as an element that begins with the signed part.
  obtain ⟨before, after, ht⟩ : ∃ before after, (document.insertChild position c.signature).merged =
      ⟨"r:Doc", [("xmlns:r", "u"), ("ID", "d")], before ++ c.signature.merged.toNode :: after⟩ := by
    refine ⟨mergedNodes (document.children.take position), mergedNodes (document.children.drop position), ?_⟩
    rw [← Signature.insertChild_merged]
    rfl
  obtain ⟨parts, hs⟩ : ∃ parts, c.signature.merged =
      ⟨"ds:Signature", Signature.declarations, [] ++ c.info.merged.toNode :: parts⟩ := ⟨_, rfl⟩
  have hspare : c.info.merged.IsSpare
      ((Scope.declare [] [("ID", "d"), ("xmlns:r", "u")]).declare Signature.declarations)
      ("ds", Vocabulary.signatureNamespace) := by
    refine ⟨?_, by decide, by decide +kernel, Or.inr rfl⟩
    intro a ha
    cases ha
  have hsteps : Respelled ⟨"r:Doc", [("xmlns:r", "u"), ("ID", "d")], before ++ c.signature.merged.toNode :: after⟩
      ⟨"r:Doc", [("ID", "d"), ("xmlns:r", "u")], [] ++ .text "" :: (before ++ Element.toNode ⟨"ds:Signature",
        Signature.declarations, [] ++ (c.info.merged.declare ("ds", Vocabulary.signatureNamespace)).toNode ::
        parts⟩ :: after)⟩ := by
    rw [hs]
    apply Relation.EqvGen.trans _ _ _ (Relation.EqvGen.rel _ _ (.permute (List.Perm.swap _ _ _)))
    apply Relation.EqvGen.trans _ _ _ (Relation.EqvGen.rel _ _
      (.inside before after (.inside [] parts (.declare hspare))))
    exact Relation.EqvGen.rel _ _ (.empty [] _)
  rw [ht] at hparse hn hw hd
  obtain ⟨hcanonical, hwritable, hverifies⟩ := respelled_alike hn hd hsteps
  obtain ⟨written, hwritten⟩ := hwritable.mpr ⟨_, toXml_ok_iff.mpr ⟨hw, rfl⟩⟩
  have hc := canonicalize_ok_iff.mpr ⟨hw, rfl⟩
  refine ⟨_, _, read, written, hparse, hsteps, rfl, ⟨_, hc, (hcanonical _).mpr hc⟩, hwritten, hverify, ?_⟩
  rw [hverifies read written publicKey hparse hwritten]
  exact hverify

end Sample

end IdentityProvider
