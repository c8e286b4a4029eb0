import IdentityProvider.Proofs.Key.Primality
import IdentityProvider.Proofs.Signature.Verification
import IdentityProvider.Proofs.Xml.CanonicalForm

namespace IdentityProvider

open Xml

lemma Xml.Element.IsWritable.attribute {e : Element} (h : e.IsWritable) {key value : String}
    (ha : e.attribute? key = some value) : isXmlText value = true := by
  rw [Element.IsWritable, all_toNode, Bool.and_eq_true, isWritableTag_iff] at h
  exact (h.1.2 _ (lookup_mem ha)).2

def KeyMaterial.HasPrimes (keys : KeyMaterial) : Prop :=
  ∀ der key, privateKeyDer keys.privateKeyPem = .ok der → RsaPrivateKey.ofDer? false der = some key → key.HasPrimes

namespace Signature

variable {settings : SignatureSettings} {document : Element} {keys : KeyMaterial}

lemma referenceId_ok_iff {id : String} : referenceId document = .ok id ↔
    ((document.attribute? "ID").or (document.attribute? "ResponseID")).filter (fun v => decide (v ≠ "")) =
      some id := by
  rw [referenceId]
  cases ((document.attribute? "ID").or (document.attribute? "ResponseID")).filter (fun v => decide (v ≠ "")) with
  | none => simp
  | some i => simp

lemma referenceId_ok {id : String} (h : referenceId document = .ok id) :
    ∃ key, document.attribute? key = some id := by
  have hor := (Option.filter_eq_some_iff.mp (referenceId_ok_iff.mp h)).1
  rcases Option.or_eq_some_iff.mp hor with ha | ⟨_, ha⟩
  · exact ⟨"ID", ha⟩
  · exact ⟨"ResponseID", ha⟩

lemma signedInfo_isWritable {id digest : String} (hi : isXmlText id = true) (hd : isXmlText digest = true)
    (algorithm : DigestAlgorithm) : (signedInfo id digest algorithm).IsWritable := by
  have hs : isXmlText algorithm.signatureUri = true := by
    cases algorithm <;> decide +kernel
  have hu : isXmlText algorithm.digestUri = true := by
    cases algorithm <;> decide +kernel
  simp only [Element.IsWritable, signedInfo, all_ofElements, all_algorithmElement, all_ofText, isWritableTag,
    isXmlText_append, List.all_cons, List.all_nil, hi, hd, hs, hu]
  decide +kernel

structure CanSign (settings : SignatureSettings) (keys : KeyMaterial) : Prop where
  signs : ∃ key, privateKeyDer keys.privateKeyPem = .ok key ∧
    ∀ message, ∃ value, Rsa.sign key message settings.digest = .ok value
  certified : settings.includeCertificate = true → ∃ text, certificateBase64 keys.certificatePem = .ok text

lemma canonical_forms {id : String} (hid : referenceId document = .ok id) (hw : document.IsWritable)
    (algorithm : DigestAlgorithm) : ∃ unsigned info, document.canonicalize = .ok unsigned ∧
      (signedInfo id (Base64.encode (algorithm.hash (Bytes.ofText unsigned))) algorithm).canonicalizeIn
        declarations =
        .ok info := by
  obtain ⟨name, hname⟩ := referenceId_ok hid
  refine ⟨_, _, canonicalize_ok_iff.mpr ⟨hw, rfl⟩, canonicalizeIn_ok_iff.mpr ⟨?_, rfl⟩⟩
  exact signedInfo_isWritable (hw.attribute hname) (isXmlText_encode _) algorithm

def signedMessage (settings : SignatureSettings) (document : Element) : Except Failure Bytes := do
  let id ← referenceId document
  let unsigned ← document.canonicalize.mapError characterFailure
  let digest := settings.digest.hash (Bytes.ofText unsigned)
  let info ← ((signedInfo id (Base64.encode digest) settings.digest).canonicalizeIn declarations).mapError
    characterFailure
  return Bytes.ofText info

structure Signs (settings : SignatureSettings) (keys : KeyMaterial) (document : Element) : Prop where
  signs : ∃ key message value, privateKeyDer keys.privateKeyPem = .ok key ∧
    signedMessage settings document = .ok message ∧
    Rsa.sign key message settings.digest = .ok value
  certified : settings.includeCertificate = true → ∃ text, certificateBase64 keys.certificatePem = .ok text

lemma signedMessage_isOk (settings : SignatureSettings) {id : String} (hid : referenceId document = .ok id)
    (hw : document.IsWritable) :
    ∃ message, signedMessage settings document = .ok message := by
  obtain ⟨unsigned, info, hunsigned, hinfo⟩ := canonical_forms hid hw settings.digest
  refine ⟨Bytes.ofText info, ?_⟩
  simp only [signedMessage, hid, hunsigned, Except.mapError, bind, Except.bind, hinfo]
  rfl

lemma Signs.signed_isOk (h : Signs settings keys document) :
    ∃ result, signed settings document keys = .ok result := by
  obtain ⟨key, message, value, hkey, hmessage, hvalue⟩ := h.signs
  obtain ⟨id, hid, hmessage⟩ := bind_ok_iff.mp hmessage
  obtain ⟨unsigned, hunsigned, hmessage⟩ := bind_ok_iff.mp hmessage
  obtain ⟨info, hinfo, hmessage⟩ := bind_ok_iff.mp hmessage
  cases hmessage
  rw [mapError_ok_iff] at hunsigned hinfo
  have hcreate : ∃ signature, create settings id document keys = .ok signature := by
    rw [create]
    by_cases hc : settings.includeCertificate = true
    · obtain ⟨text, htext⟩ := h.certified hc
      simp only [hkey, hunsigned, hinfo, hvalue, htext, hc, Except.mapError, bind, Except.bind, if_true]
      exact ⟨_, rfl⟩
    · simp only [hkey, hunsigned, hinfo, hvalue, hc, Except.mapError, bind, Except.bind]
      exact ⟨_, rfl⟩
  obtain ⟨signature, hsignature⟩ := hcreate
  exact ⟨_, bind_ok_iff.mpr ⟨id, hid, bind_ok_iff.mpr ⟨signature, hsignature, rfl⟩⟩⟩

lemma CanSign.document_signs {message : Bytes} (hk : CanSign settings keys)
    (hm : signedMessage settings document = .ok message) : Signs settings keys document := by
  obtain ⟨key, hkey, hsign⟩ := hk.signs
  obtain ⟨value, hvalue⟩ := hsign message
  exact ⟨⟨key, message, value, hkey, hm, hvalue⟩, hk.certified⟩

lemma signed_isOk {id : String} (hk : CanSign settings keys) (hid : referenceId document = .ok id)
    (hw : document.IsWritable) : ∃ result, signed settings document keys = .ok (result, id) := by
  obtain ⟨message, hm⟩ := signedMessage_isOk settings hid hw
  obtain ⟨⟨result, id'⟩, hs⟩ := (hk.document_signs hm).signed_isOk
  have hid' := (signed_ok hs).1
  rw [hid, Except.ok.injEq] at hid'
  exact ⟨result, by rw [hs, hid']⟩

lemma signed_error {id : String} (hid : referenceId document = .ok id) (hw : document.IsWritable) {f : Failure}
    (h : signed settings document keys = .error f) : ∃ detail, f = .signature detail := by
  have hkeys : ∀ {α : Type} {x : Except KeyError α}, x.mapError keyFailure = .error f →
    ∃ detail, f = .signature detail := by
    intro α x hx
    obtain ⟨e, _, he⟩ := mapError_error_iff.mp hx
    exact ⟨e.message, he.symm⟩
  obtain ⟨unsigned, info, hunsigned, hinfo⟩ := canonical_forms hid hw settings.digest
  have hcreate : create settings id document keys = .error f := by
    rw [signed, hid] at h
    rcases bind_error_iff.mp h with hid' | ⟨_, hid', hrest⟩
    · cases hid'
    cases hid'
    rcases bind_error_iff.mp hrest with hcreate | ⟨signature, _, hr⟩
    · exact hcreate
    · cases hr
  rw [create] at hcreate
  rcases bind_error_iff.mp hcreate with hkey | ⟨key, _, hrest⟩
  · exact hkeys hkey
  rw [hunsigned] at hrest
  rcases bind_error_iff.mp hrest with hunsigned' | ⟨_, hunsigned', hrest⟩
  · cases hunsigned'
  cases hunsigned'
  dsimp only at hrest
  rw [hinfo] at hrest
  rcases bind_error_iff.mp hrest with hinfo' | ⟨_, hinfo', hrest⟩
  · cases hinfo'
  cases hinfo'
  rcases bind_error_iff.mp hrest with hvalue | ⟨value, _, hrest⟩
  · exact hkeys hvalue
  by_cases hc : settings.includeCertificate = true
  · simp only [hc, if_true] at hrest
    rcases bind_error_iff.mp hrest with hcertificate | ⟨text, _, hr⟩
    · exact hkeys hcertificate
    · cases hr
  · simp only [hc] at hrest
    cases hrest

lemma certified_of_create {id : String} {signature : Element}
    (h : create settings id document keys = .ok signature) (hc : settings.includeCertificate = true) :
    ∃ text, certificateBase64 keys.certificatePem = .ok text := by
  rw [create] at h
  obtain ⟨_, _, h⟩ := bind_ok_iff.mp h
  obtain ⟨_, _, h⟩ := bind_ok_iff.mp h
  obtain ⟨_, _, h⟩ := bind_ok_iff.mp h
  obtain ⟨_, _, h⟩ := bind_ok_iff.mp h
  simp only [hc, if_true] at h
  obtain ⟨text, htext, _⟩ := bind_ok_iff.mp h
  exact ⟨text, mapError_ok_iff.mp htext⟩

lemma signs_of_signed {result : Element} {id : String} (h : signed settings document keys = .ok (result, id)) :
    Signs settings keys document := by
  obtain ⟨hid, c, _⟩ := signed_ok h
  obtain ⟨_, _, h⟩ := bind_ok_iff.mp h
  obtain ⟨signature, hcreate, _⟩ := bind_ok_iff.mp h
  refine ⟨⟨c.key, Bytes.ofText c.signed, c.value, c.key_eq, ?_, c.value_eq⟩, certified_of_create hcreate⟩
  simp only [signedMessage, hid, c.unsigned_eq, Except.mapError, bind, Except.bind, c.signed_eq]
  rfl

lemma Signs.canSign (h : Signs settings keys document) (hp : keys.HasPrimes) : CanSign settings keys := by
  obtain ⟨key, message, value, hkey, _, hvalue⟩ := h.signs
  exact ⟨⟨key, hkey, Rsa.sign_again hvalue fun k hk => hp key k hkey hk⟩, h.certified⟩

lemma canSign_of_signed {result : Element} {id : String} (h : signed settings document keys = .ok (result, id))
    (hp : keys.HasPrimes) : CanSign settings keys :=
  (signs_of_signed h).canSign hp

lemma isWritable_of_signed {result : Element} {id : String}
    (h : signed settings document keys = .ok (result, id)) :
    document.IsWritable := by
  obtain ⟨_, c, _⟩ := signed_ok h
  exact (canonicalize_ok_iff.mp c.unsigned_eq).1

lemma signed_isWritable {result : Element} {id : String} (h : signed settings document keys = .ok (result, id)) :
    result.IsWritable := by
  obtain ⟨_, c, hc⟩ := signed_ok h
  rw [hc]
  exact c.envelop_isWritable

lemma sign_succeeds {id : String} (hk : CanSign settings keys) (hid : referenceId document = .ok id)
    (hw : document.IsWritable) (j : Journal) :
    (sign settings document keys).Succeeds j fun result => result.IsWritable := by
  obtain ⟨result, hs⟩ := signed_isOk hk hid hw
  rw [sign, hs]
  apply (Recorded.succeeds_log _ _ _ j).bind
  intro _ j₁ _ h₁
  apply (Recorded.succeeds_pure result j₁).imp
  rintro _ rfl
  exact signed_isWritable hs

end Signature

namespace RsaPrivateKey

variable {key : RsaPrivateKey}

def material (key : RsaPrivateKey) (certificate : Bytes) : KeyMaterial :=
  ⟨Pem.write "CERTIFICATE" certificate, key.toPem⟩

lemma canSign_material (h : key.SignsAll) {certificate : Bytes} (hc : certificate ≠ [])
    (settings : SignatureSettings) :
    Signature.CanSign settings (key.material certificate) where
  signs := by
    have hsmall := numbers_lt h.usable
    have hpublic := (isUsable_iff.mp h.usable).1
    have hload : (if settings.digest = .sha1 then Rsa.loadKeyForSha1 (.pkcs1 key.toDer)
        else Rsa.loadKey (.pkcs1 key.toDer)) = .ok key := by
      split_ifs
      · exact Rsa.loadKeyForSha1_ok_iff.mpr ⟨ofDer_toDer key hsmall true, h.usableWithSha1⟩
      · exact Rsa.loadKey_ok_iff.mpr ⟨ofDer_toDer key hsmall false, h.usable⟩
    exact ⟨_, privateKeyDer_toPem key, Rsa.sign_isOk hload h.primes (Rsa.fits_of_isUsable hpublic _)⟩
  certified := by
    intro _
    have hp : Pem.parse (Pem.write "CERTIFICATE" certificate) = .ok ⟨"CERTIFICATE", certificate⟩ :=
      Pem.parse_write (by decide) (by decide) hc
    refine ⟨Base64.encode certificate, ?_⟩
    rw [material, certificateBase64, certificateDer, readPem, hp]
    rfl

end RsaPrivateKey

end IdentityProvider
