import IdentityProvider.Proofs.RelyingParty
import IdentityProvider.Proofs.Xml.Content
/-! A signature that is moved to another document is only accepted there if that document says the same, or the
digests of the two collide. -/

namespace IdentityProvider

open Xml

def DigestAlgorithm.Collides (algorithm : DigestAlgorithm) (xs ys : Bytes) : Prop :=
  xs ≠ ys ∧ algorithm.hash xs = algorithm.hash ys

namespace Signature

section Accepted

variable {document : Element} {id : String} {digest : Bytes} {algorithm : DigestAlgorithm}

lemma referenceId_of_referencedDigest {found : Bytes}
    (h : referencedDigest document (signedInfo id (Base64.encode digest) algorithm).merged algorithm = .ok found) :
    referenceId document = .ok id := by
  have hr := require_merged (find_reference id (Base64.encode digest) algorithm)
  have hu : (reference id (Base64.encode digest) algorithm).merged.attribute? "URI" = some ("#" ++ id) := rfl
  rw [referencedDigest, hr] at h
  obtain ⟨_, he, h₁⟩ := bind_ok_iff.mp h
  cases he
  obtain ⟨id', hid, h₂⟩ := bind_ok_iff.mp h₁
  by_cases hsame : id' = id
  · rw [← hsame]
    exact hid
  · have hne : some ("#" ++ id) ≠ some ("#" ++ id') := by simpa using Ne.symm hsame
    rw [hu, if_pos hne] at h₂
    cases h₂

lemma verifyDetached_accepted {unsigned : String} {value : Bytes} {certificate : Option Bytes} {pub : Bytes}
    (hc : document.canonicalize = .ok unsigned)
    (h : verifyDetached document (signatureElement (signedInfo id (Base64.encode digest) algorithm) value
      certificate).merged pub = .ok true) :
    algorithm.hash (Bytes.ofText unsigned) = digest := by
  have hi := require_merged (find_signedInfo id (Base64.encode digest) algorithm value certificate)
  rw [verifyDetached, hi] at h
  obtain ⟨info, he, h₁⟩ := bind_ok_iff.mp h
  cases he
  obtain ⟨found, ha, h₂⟩ := bind_ok_iff.mp h₁
  rw [algorithmOf_signedInfo, Except.ok.injEq] at ha
  subst ha
  obtain ⟨_, hd, h₃⟩ := bind_ok_iff.mp h₂
  rw [referencedDigest_signedInfo (referenceId_of_referencedDigest hd), Except.ok.injEq] at hd
  subst hd
  obtain ⟨_, hu, h₄⟩ := bind_ok_iff.mp h₃
  rw [mapError_ok_iff, hc, Except.ok.injEq] at hu
  subst hu
  by_contra hne
  rw [if_pos hne] at h₄
  cases h₄

end Accepted

lemma find_signature {settings : SignatureSettings} {d result : Element} {keys : KeyMaterial} {j : Journal}
    (hu : ∀ e ∈ d.elements, e.localName ≠ "Signature") (hsign : (sign settings d keys).result j = .ok result) :
    ∃ id, referenceId d = .ok id ∧ ∃ c : Created settings id d keys, result.find? "Signature" =
      some c.signature := by
  obtain ⟨_, hreturns⟩ := Recorded.result_ok_iff.mp hsign
  obtain ⟨id, hsigned⟩ := sign_returns hreturns
  obtain ⟨hid, c, rfl⟩ := signed_ok hsigned
  obtain ⟨position, he⟩ := envelop_eq d c.signature
  rw [he]
  exact ⟨id, hid, c, find_insertChild position (signatureElement_localName _ _ _) hu⟩

end Signature

/-- No change to a name, a namespace in use, an attribute value, the order of children or a text is accepted
under the signature of the document before the change, unless the hash collides on the two canonical forms. -/
theorem tampering_detected {settings : SignatureSettings} {d d' result signature : Element} {keys : KeyMaterial}
    {j : Journal} (position : Nat) (hd : d.IsWellFormed) (hu : ∀ e ∈ d.elements, e.localName ≠ "Signature")
    (hd' : d'.IsWellFormed) (hu' : ∀ e ∈ d'.elements, e.localName ≠ "Signature")
    (hsign : (Signature.sign settings d keys).result j = .ok result)
    (hs : result.find? "Signature" = some signature) :
    ∃ written unsigned unsigned', (d'.insertChild position signature).toXml = .ok written ∧
      d.canonicalize = .ok unsigned ∧ d'.canonicalize = .ok unsigned' ∧
      ∀ pub, Signature.verify written pub = .ok true →
        settings.digest.hash (Bytes.ofText unsigned') = settings.digest.hash (Bytes.ofText unsigned) ∧
          (d'.content = d.content ∨ settings.digest.Collides (Bytes.ofText unsigned')
            (Bytes.ofText unsigned)) := by
  obtain ⟨id, _, c, hc⟩ := Signature.find_signature hu hsign
  rw [hc, Option.some.injEq] at hs
  subst hs
  have hl : c.signature.localName = "Signature" := Signature.signatureElement_localName _ _ _
  have hinfo := (canonicalizeIn_ok_iff.mp c.signed_eq).1
  have hnamed : (d'.insertChild position c.signature).IsNamed :=
    Signature.insertChild_isNamed hd'.named (Signature.signatureElement_isNamed _ _ _
      (Signature.signedInfo_isNamed _ _ _))
  have hwritable : (d'.insertChild position c.signature).IsWritable :=
    Signature.insertChild_isWritable hd'.writable (Signature.signatureElement_isWritable _ _ _ hinfo)
  obtain ⟨unsigned', hc'⟩ : ∃ unsigned', d'.canonicalize = .ok unsigned' :=
    ⟨_, canonicalize_ok_iff.mpr ⟨hd'.writable, rfl⟩⟩
  refine ⟨_, c.unsigned, unsigned', toXml_ok_iff.mpr ⟨hwritable, rfl⟩, c.unsigned_eq, hc', ?_⟩
  intro pub hv
  rw [Signature.verify_parsed pub (parse_render wireEscapes hnamed)
    (Signature.find_signature_merged position hl hu')] at hv
  have hhash : settings.digest.hash (Bytes.ofText unsigned') = c.digest :=
    Signature.verifyDetached_accepted ((Signature.canonicalize_removeChild position hl hu').trans hc') hv
  refine ⟨hhash, ?_⟩
  by_cases heq : Bytes.ofText unsigned' = Bytes.ofText c.unsigned
  · rw [Bytes.ofText_injective heq] at hc'
    exact Or.inl (content_eq_of_canonicalize hd' hd hc' c.unsigned_eq)
  · exact Or.inr ⟨heq, hhash⟩

theorem tampering_detected_sample :
    ∃ result signature written unsigned unsigned',
      (Signature.sign {} Sample.document Sample.signOn.keys).result Sample.journal = .ok result ∧
      result.find? "Signature" = some signature ∧
      (Sample.document.merged.insertChild 7 signature).toXml = .ok written ∧
      Signature.verify written Sample.publicKey = .ok true ∧
      DigestAlgorithm.sha256.hash (Bytes.ofText unsigned') = DigestAlgorithm.sha256.hash (Bytes.ofText unsigned) ∧
      (Sample.document.merged.content = Sample.document.content ∨
        DigestAlgorithm.sha256.Collides (Bytes.ofText unsigned') (Bytes.ofText unsigned)) := by
  have hk : Signature.CanSign {} Sample.signOn.keys :=
    RsaPrivateKey.canSign_material RsaPrivateKey.sample_signsAll (by decide) {}
  have hid : Signature.referenceId Sample.document = .ok "d" := referenceId_of_ID (by decide) rfl
  have hd : Sample.document.IsWellFormed := ⟨by decide, by decide, by decide⟩
  have hd' : Sample.document.merged.IsWellFormed := ⟨hd.named.merged, hd.bound.merged, hd.writable.merged⟩
  have hu : ∀ e ∈ Sample.document.elements, e.localName ≠ "Signature" := by decide
  have hu' : ∀ e ∈ Sample.document.merged.elements, e.localName ≠ "Signature" := by decide
  obtain ⟨result, hsign, _⟩ := (Signature.sign_succeeds hk hid (by decide) Sample.journal).result_ok
  obtain ⟨id, hid', c, hs⟩ := Signature.find_signature hu hsign
  obtain ⟨written, unsigned, unsigned', hw, _, _, haccepted⟩ := tampering_detected 7 hd hu hd' hu' hsign hs
  have hv : Signature.verify written Sample.publicKey = .ok true := by
    have hmoved := Signature.verify_insertChild 7 c.value c.certificate Sample.publicKey hd'.named hu' hid'
      ((canonicalizeIn_merged _ _).trans c.unsigned_eq) c.signed_eq
    obtain ⟨key, hkey, hpub⟩ := bind_ok_iff.mp Sample.publicKeyDer_eq
    rw [c.key_eq, Except.ok.injEq] at hkey
    subst hkey
    rw [(toXml_ok_iff.mp hw).2]
    refine hmoved.trans ?_
    rw [Rsa.verify_sign hpub c.value_eq, Bool.and_true]
    exact congrArg Except.ok (decide_eq_true rfl)
  exact ⟨result, c.signature, written, unsigned, unsigned', hsign, hs, hw, hv, haccepted Sample.publicKey hv⟩

end IdentityProvider
