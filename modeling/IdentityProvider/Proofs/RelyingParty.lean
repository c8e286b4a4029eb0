import IdentityProvider.Proofs.Respond
import IdentityProvider.Proofs.Saml.Content
/-! What a relying party makes of an answer: it reads what was issued, and the signature verifies. -/

namespace IdentityProvider

open Xml

namespace Provider

variable {p : Provider} {signOn : SignOn} {version : ProtocolVersion} {now : Instant} {encoded : String}
  {j : Journal} {answer : EncodedResponse} {request : AuthnRequest} {destination : String}
  {ids : Identifiers} {document : Element}

lemma Answer.signed_eq (a : Answer p signOn version now encoded j answer) {settings : SignatureSettings}
    (hs : p.signer = Signature.sign settings) :
    ∃ id, Signature.signed settings a.document signOn.keys = .ok (a.signed, id) := by
  obtain ⟨j₁, j₂, hsign⟩ := a.signs
  rw [hs] at hsign
  exact Signature.sign_returns hsign

lemma Answer.parse_written (a : Answer p signOn version now encoded j answer) {settings : SignatureSettings}
    (hs : p.signer = Signature.sign settings) : parse a.written = .ok a.signed.merged := by
  obtain ⟨id, hsigned⟩ := a.signed_eq hs
  obtain ⟨_, c, hc⟩ := Signature.signed_ok hsigned
  obtain ⟨written, hw, hparse⟩ := c.parse_written a.issued.isNamed
  rw [← hc] at hw hparse
  rw [a.writes, Except.ok.injEq] at hw
  rw [hw]
  exact hparse

lemma Answer.verify_written (a : Answer p signOn version now encoded j answer) {settings : SignatureSettings}
    {pub : Bytes} (hs : p.signer = Signature.sign settings)
    (hp : (privateKeyDer signOn.keys.privateKeyPem >>= Rsa.publicKeyDer) = .ok pub) :
    Signature.verify a.written pub = .ok true := by
  obtain ⟨id, hsigned⟩ := a.signed_eq hs
  obtain ⟨written, hw, hverify⟩ := Signature.verify_signed a.issued.isNamed a.issued.unsigned hsigned hp
  rw [a.writes, Except.ok.injEq] at hw
  rw [hw]
  exact hverify

lemma Issues.isSaidIn (h : Issues p signOn now request destination ids .saml20 document) :
    (p.response signOn request destination).IsSaidIn document := by
  cases h with
  | response => exact Response.document_isSaidIn _ _ _ _ _

lemma Issues.legacy_inResponseTo (h : Issues p signOn now request destination ids .saml11 document) :
    document.attribute? "InResponseTo" = some request.id := by
  cases h with
  | legacy => rfl

lemma Answer.isSaidIn (a : Answer p signOn .saml20 now encoded j answer) {settings : SignatureSettings}
    (hs : p.signer = Signature.sign settings) :
    (p.response signOn a.request answer.delivery.destination).IsSaidIn a.signed.merged := by
  obtain ⟨id, hsigned⟩ := a.signed_eq hs
  obtain ⟨_, c, hc⟩ := Signature.signed_ok hsigned
  obtain ⟨position, he⟩ := Signature.envelop_eq a.document c.signature
  rw [hc, he]
  exact (a.issued.isSaidIn.insertChild (Signature.signatureElement_localName _ _ _) position).merged

lemma Answer.legacy_inResponseTo (a : Answer p signOn .saml11 now encoded j answer) {settings : SignatureSettings}
    (hs : p.signer = Signature.sign settings) : a.signed.merged.attribute? "InResponseTo" = some a.request.id := by
  obtain ⟨id, hsigned⟩ := a.signed_eq hs
  obtain ⟨_, c, hc⟩ := Signature.signed_ok hsigned
  rw [hc]
  exact a.issued.legacy_inResponseTo

end Provider

theorem signed_verifies (settings : SignatureSettings) :
    (∀ (document result : Element) (keys : KeyMaterial) (j : Journal) (pub : Bytes), document.IsNamed →
      (∀ e ∈ document.elements, e.localName ≠ "Signature") →
      (Signature.sign settings document keys).result j = .ok result →
      (privateKeyDer keys.privateKeyPem >>= Rsa.publicKeyDer) = .ok pub →
      ∃ written, result.toXml = .ok written ∧ Signature.verify written pub = .ok true) ∧
    ∀ (p : Provider) (signOn : SignOn) (version : ProtocolVersion) (now : Instant) (encoded : String) (j : Journal)
      (answer : EncodedResponse) (pub : Bytes), p.signer = Signature.sign settings →
      (p.respond signOn version now encoded).result j = .ok answer →
      (privateKeyDer signOn.keys.privateKeyPem >>= Rsa.publicKeyDer) = .ok pub →
      ∃ written, answer.payload = encodePayload (Bytes.ofText written) answer.compressed p.deflate ∧
        (Deflate.IsCompressor p.deflate → (answer.compressed = true →
          (Bytes.ofText written).length ≤ responseLimit) →
          decodePayload answer.payload answer.compressed = .ok (Bytes.ofText written)) ∧
        Signature.verify written pub = .ok true := by
  constructor
  · intro document result keys j pub hn hu hsign hp
    obtain ⟨j', hreturns⟩ := Recorded.result_ok_iff.mp hsign
    obtain ⟨id, hsigned⟩ := Signature.sign_returns hreturns
    obtain ⟨written, hw, hverify⟩ := Signature.verify_signed hn hu hsigned hp
    exact ⟨written, hw, hverify⟩
  · intro p signOn version now encoded j answer pub hs hrespond hp
    obtain ⟨a⟩ := Provider.respond_answer hrespond
    refine ⟨a.written, a.payload, ?_, a.verify_written hs hp⟩
    intro hd hlimit
    rw [a.payload]
    exact decodePayload_encodePayload hd hlimit

namespace Sample

def document : Element :=
  ⟨"r:Doc", [("xmlns:r", "u"), ("ID", "d")], [.text "a\r", .text "", .text "<b>",
    .element "Issuer" [("xmlns", "v"), ("k", "\"\t")] [.element "r:e" [] []]]⟩

def publicKey : Bytes :=
  RsaPrivateKey.sample.publicKey.toDer

lemma publicKeyDer_eq : (privateKeyDer signOn.keys.privateKeyPem >>= Rsa.publicKeyDer) = .ok publicKey :=
  RsaPrivateKey.publicKeyDer_toPem RsaPrivateKey.sample_signsAll.usable

theorem signed_verifies_sample :
    (∃ result written, (Signature.sign {} document signOn.keys).result journal = .ok result ∧
      result.toXml = .ok written ∧ Signature.verify written publicKey = .ok true) ∧
    ∃ answer written, (provider.respond signOn .saml20 now request).result journal = .ok answer ∧
      answer.payload = encodePayload (Bytes.ofText written) answer.compressed ∧
      ((Bytes.ofText written).length ≤ responseLimit →
        decodePayload answer.payload answer.compressed = .ok (Bytes.ofText written)) ∧
      Signature.verify written publicKey = .ok true := by
  have hk : Signature.CanSign {} signOn.keys :=
    RsaPrivateKey.canSign_material RsaPrivateKey.sample_signsAll (by decide) {}
  have hid : Signature.referenceId document = .ok "d" := referenceId_of_ID (by decide) rfl
  obtain ⟨result, hsign, _⟩ := (Signature.sign_succeeds hk hid (by decide) journal).result_ok
  obtain ⟨written, hw, hv⟩ := (signed_verifies {}).1 document result signOn.keys journal publicKey (by decide)
    (by decide) hsign publicKeyDer_eq
  obtain ⟨answer, hanswer⟩ := respond_isOk .saml20
  obtain ⟨written', hpayload, hread, hv'⟩ :=
    (signed_verifies {}).2 provider signOn .saml20 now request journal answer
    publicKey rfl hanswer publicKeyDer_eq
  have hread' := fun hlimit => hread Deflate.compress_isCompressor fun _ => hlimit
  exact ⟨⟨result, written, hsign, hw, hv⟩, answer, written', hanswer, hpayload, hread', hv'⟩

end Sample

lemma resolveDelivery_cases {app : Application} {request : AuthnRequest} {delivery : Delivery}
    (h : resolveDelivery app request = .ok delivery) :
    (∀ url, app.replyUrlField = some url → url ≠ "" → delivery = ⟨url, .post⟩) ∧
      ((∀ url, app.replyUrlField = some url → url = "") →
        ∃ url, request.consumerUrl = some url ∧ url ≠ "" ∧ delivery = ⟨url, .get⟩) := by
  rw [resolveDelivery] at h
  split at h
  · rename_i url hu
    cases h
    obtain ⟨hfield, hne⟩ := Option.filter_eq_some_iff.mp hu
    constructor
    · intro url' h' _
      rw [hfield, Option.some.injEq] at h'
      rw [h']
    · intro hempty
      exact absurd (hempty url hfield) (by simpa using hne)
  · rename_i url hnone hu
    cases h
    constructor
    · intro url' h' hne
      exact absurd (Option.filter_eq_none_iff.mp hnone url' h') (by simpa using hne)
    · intro _
      obtain ⟨hc, hne⟩ := Option.filter_eq_some_iff.mp hu
      exact ⟨url, hc, by simpa using hne, rfl⟩
  · cases h

theorem answer_correlates {settings : SignatureSettings} {p : Provider} {signOn : SignOn}
    {version : ProtocolVersion} {now : Instant} {encoded : String} {j : Journal} {answer : EncodedResponse}
    (hs : p.signer = Signature.sign settings)
    (h : (p.respond signOn version now encoded).result j = .ok answer) :
    ∃ request, (decodeRequest encoded).result j = .ok request ∧
      request.issuer ∈ signOn.application.redirectUris ∧
      (∀ url, signOn.application.replyUrlField = some url → url ≠ "" → answer.delivery = ⟨url, .post⟩) ∧
      ((∀ url, signOn.application.replyUrlField = some url → url = "") →
        ∃ url, request.consumerUrl = some url ∧ url ≠ "" ∧ answer.delivery = ⟨url, .get⟩) ∧
      ∃ written tree, answer.payload = encodePayload (Bytes.ofText written) answer.compressed p.deflate ∧
        (Deflate.IsCompressor p.deflate → (answer.compressed = true →
          (Bytes.ofText written).length ≤ responseLimit) →
          decodePayload answer.payload answer.compressed = .ok (Bytes.ofText written)) ∧
        Bytes.toText? (Bytes.ofText written) = some written ∧ parse written = .ok tree ∧
        (version = .saml20 → Response.IsSaidIn
          { requestId := request.id
            destination := answer.delivery.destination
            issuer := (Origins.ofHost signOn.host p.config).backend
            audiences := request.issuer :: (signOn.application.redirectUris.filter (· ≠ request.issuer)).eraseDups
            name := signOn.principal.name
            email := signOn.principal.email
            displayName := signOn.principal.displayName
            roles := p.config.rolesSeparator.intercalate (p.roles signOn.principal) } tree) ∧
        (version = .saml11 → tree.attribute? "InResponseTo" = some request.id) := by
  obtain ⟨a⟩ := Provider.respond_answer h
  obtain ⟨hpost, hget⟩ := resolveDelivery_cases a.delivered
  refine ⟨a.request, a.decoded, a.allowed, hpost, hget, a.written, a.signed.merged, a.payload, ?_,
    Bytes.toText_ofText _, a.parse_written hs, ?_, ?_⟩
  · intro hd hlimit
    rw [a.payload]
    exact decodePayload_encodePayload hd hlimit
  · rintro rfl
    have haudiences : audiences signOn.application a.request =
        a.request.issuer :: (signOn.application.redirectUris.filter (· ≠ a.request.issuer)).eraseDups := by
      rw [audiences, List.eraseDups_cons]
      congr 2
      apply List.filter_congr
      intro uri _
      by_cases hu : uri = a.request.issuer <;> simp [hu]
    rw [← haudiences]
    exact a.isSaidIn hs
  · rintro rfl
    exact a.legacy_inResponseTo hs

namespace Sample

theorem answer_correlates_sample :
    ∃ answer written tree, (provider.respond signOn .saml20 now request).result journal = .ok answer ∧
      answer.delivery = ⟨"https://s/acs?a=1&b=2", .post⟩ ∧
      answer.payload = encodePayload (Bytes.ofText written) answer.compressed ∧
      ((Bytes.ofText written).length ≤ responseLimit →
        decodePayload answer.payload answer.compressed = .ok (Bytes.ofText written)) ∧
      parse written = .ok tree ∧
      Response.IsSaidIn
        { requestId := "q", destination := "https://s/acs?a=1&b=2", issuer := "https://idp.s",
          audiences := ["s", "t"]
          name := "a\rb", email := "a@b", displayName := "A & \"B\"", roles := "x,y" } tree := by
  obtain ⟨answer, hanswer⟩ := respond_isOk .saml20
  obtain ⟨r, hr, _, hpost, _, written, tree, hpayload, hread, _, hparse, hsaid, _⟩ := answer_correlates rfl hanswer
  obtain ⟨r', hr', rfl⟩ := (decodeRequest_succeeds decodeRequestDocument_request parse_request journal).result_ok
  rw [hr, Except.ok.injEq] at hr'
  subst hr'
  have hdelivery := hpost "https://s/acs?a=1&b=2" rfl (by decide)
  have hs := hsaid rfl
  rw [hdelivery] at hs
  have he : ({ requestId := "q", destination := "https://s/acs?a=1&b=2"
               issuer := (Origins.ofHost signOn.host provider.config).backend
               audiences := "s" :: (signOn.application.redirectUris.filter (· ≠ "s")).eraseDups
               name := signOn.principal.name, email := signOn.principal.email
               displayName := signOn.principal.displayName
               roles := provider.config.rolesSeparator.intercalate (provider.roles signOn.principal) } :
                 Response) =
      { requestId := "q", destination := "https://s/acs?a=1&b=2", issuer := "https://idp.s",
        audiences := ["s", "t"]
        name := "a\rb", email := "a@b", displayName := "A & \"B\"", roles := "x,y" } := by
    decide +kernel
  have hread' := fun hlimit => hread Deflate.compress_isCompressor fun _ => hlimit
  exact ⟨answer, written, tree, hanswer, hdelivery, hpayload, hread', hparse, he ▸ hs⟩

end Sample

end IdentityProvider
