import IdentityProvider.Proofs.Saml.Issue
import IdentityProvider.Proofs.Signature.Verification
import IdentityProvider.Proofs.Transport.Payload
import IdentityProvider.Provider

namespace IdentityProvider

open Xml

lemma decodeRequest_identifiers {encoded : String} {j j' : Journal} {request : AuthnRequest}
    (h : (decodeRequest encoded).Returns j request j') : j'.identifiers = j.identifiers := by
  rw [decodeRequest] at h
  obtain ⟨text, j₁, htext, h₁⟩ := Recorded.returns_bind.mp h
  obtain ⟨parsed, j₂, hparsed, h₂⟩ := Recorded.returns_bind.mp h₁
  obtain ⟨_, j₃, hlog, h₃⟩ := Recorded.returns_bind.mp h₂
  obtain ⟨_, rfl⟩ := Recorded.returns_pure.mp h₃
  obtain ⟨_, rfl⟩ := Recorded.returns_liftError.mp htext
  obtain ⟨_, rfl⟩ := Recorded.returns_liftError.mp hparsed
  exact Recorded.identifiers_of_log hlog

lemma encodeResponse_returns {document : Element} {delivery : Delivery} {compressed : Bool}
    {deflate : Bytes → Bytes} {j j' : Journal} {encoded : EncodedResponse}
    (h : (encodeResponse document delivery compressed deflate).Returns j encoded j') :
    ∃ written, document.toXml = .ok written ∧
      encoded = ⟨encodePayload (Bytes.ofText written) compressed deflate, delivery, compressed⟩ := by
  rw [encodeResponse] at h
  obtain ⟨written, j₁, hw, h₁⟩ := Recorded.returns_bind.mp h
  obtain ⟨_, j₂, _, h₂⟩ := Recorded.returns_bind.mp h₁
  exact ⟨written, (Recorded.returns_liftError.mp hw).1, (Recorded.returns_pure.mp h₂).1⟩

namespace Signature

lemma sign_returns {settings : SignatureSettings} {document result : Element} {keys : KeyMaterial}
    {j j' : Journal} (h : (sign settings document keys).Returns j result j') :
    ∃ id, signed settings document keys = .ok (result, id) := by
  rw [sign] at h
  cases hs : signed settings document keys with
  | ok pair =>
    obtain ⟨signed, id⟩ := pair
    rw [hs] at h
    obtain ⟨_, j₁, _, h₁⟩ := Recorded.returns_bind.mp h
    obtain ⟨rfl, _⟩ := Recorded.returns_pure.mp h₁
    exact ⟨id, rfl⟩
  | error e =>
    rw [hs] at h
    obtain ⟨_, j₁, _, h₁⟩ := Recorded.returns_bind.mp h
    exact absurd h₁ Recorded.not_returns_throw

end Signature

namespace Provider

variable {p : Provider} {signOn : SignOn} {version : ProtocolVersion} {now : Instant}

def response (p : Provider) (signOn : SignOn) (request : AuthnRequest) (destination : String) : Response where
  requestId := request.id
  destination := destination
  issuer := (Origins.ofHost signOn.host p.config).backend
  audiences := audiences signOn.application request
  name := signOn.principal.name
  email := signOn.principal.email
  displayName := signOn.principal.displayName
  roles := p.config.rolesSeparator.intercalate (p.roles signOn.principal)

def legacyResponse (p : Provider) (signOn : SignOn) (request : AuthnRequest) : LegacyResponse where
  requestId := request.id
  issuer := (Origins.ofHost signOn.host p.config).backend
  name := signOn.principal.name
  attributes := signOn.principal.legacyAttributes

inductive Issues (p : Provider) (signOn : SignOn) (now : Instant) (request : AuthnRequest) (destination : String)
    (ids : Identifiers) : ProtocolVersion → Element → Prop
  | response {v : Validity} (h : destination ≠ "") (hv : Validity.starting? now = some v) :
    Issues p signOn now request destination ids .saml20
      ((p.response signOn request destination).document ids.current ids.advance.current
        ids.advance.advance.current v)
  | legacy {v : Validity} (hv : Validity.starting? now = some v) :
    Issues p signOn now request destination ids .saml11
      ((p.legacyResponse signOn request).document ids.current ids.advance.current v)

section Issues

variable {request : AuthnRequest} {destination : String} {ids : Identifiers} {document : Element}

lemma issue_returns {j j' : Journal} (h : (p.issue signOn version now request destination).Returns j document j') :
    Issues p signOn now request destination j.identifiers version document := by
  cases version with
  | saml20 =>
    obtain ⟨hd, _, v, hv, rfl⟩ := Response.issue_returns h
    exact .response hd hv
  | saml11 =>
    obtain ⟨_, v, hv, rfl⟩ := LegacyResponse.issue_returns h
    exact .legacy hv

lemma Issues.isNamed (h : Issues p signOn now request destination ids version document) : document.IsNamed := by
  cases h with
  | response => exact Response.document_isNamed _ _ _ _ _
  | legacy => exact LegacyResponse.document_isNamed _ _ _ _

lemma Issues.unsigned (h : Issues p signOn now request destination ids version document) :
    ∀ e ∈ document.elements, e.localName ≠ "Signature" := by
  cases h with
  | response => exact Response.document_unsigned _ _ _ _ _
  | legacy => exact LegacyResponse.document_unsigned _ _ _ _

end Issues

structure Answer (p : Provider) (signOn : SignOn) (version : ProtocolVersion) (now : Instant) (encoded : String)
    (j : Journal) (answer : EncodedResponse) where
  request : AuthnRequest
  document : Element
  signed : Element
  written : String
  decoded : (decodeRequest encoded).result j = .ok request
  allowed : request.issuer ∈ signOn.application.redirectUris
  delivered : resolveDelivery signOn.application request = .ok answer.delivery
  issued : Issues p signOn now request answer.delivery.destination j.identifiers version document
  signs : ∃ j₁ j₂, (p.signer document signOn.keys).Returns j₁ signed j₂
  writes : signed.toXml = .ok written
  compressed : answer.compressed = signOn.application.compressionEnabled
  payload : answer.payload = encodePayload (Bytes.ofText written) answer.compressed p.deflate

theorem respond_answer {encoded : String} {j : Journal} {answer : EncodedResponse}
    (h : (p.respond signOn version now encoded).result j = .ok answer) :
    Nonempty (Answer p signOn version now encoded j answer) := by
  obtain ⟨j', h⟩ := Recorded.result_ok_iff.mp h
  rw [respond] at h
  obtain ⟨request, j₁, hdecode, h₁⟩ := Recorded.returns_bind.mp h
  obtain ⟨_, j₂, hallow, h₂⟩ := Recorded.returns_bind.mp h₁
  obtain ⟨_, j₃, hlog₂, h₃⟩ := Recorded.returns_bind.mp h₂
  obtain ⟨delivery, j₄, hdeliver, h₄⟩ := Recorded.returns_bind.mp h₃
  obtain ⟨_, j₅, hlog₄, h₅⟩ := Recorded.returns_bind.mp h₄
  obtain ⟨document, j₆, hissue, h₆⟩ := Recorded.returns_bind.mp h₅
  obtain ⟨_, j₇, _, h₇⟩ := Recorded.returns_bind.mp h₆
  obtain ⟨signed, j₈, hsign, h₈⟩ := Recorded.returns_bind.mp h₇
  obtain ⟨_, j₉, _, h₉⟩ := Recorded.returns_bind.mp h₈
  rw [Recorded.returns_onFailure] at hallow hdeliver hissue hsign h₉
  obtain ⟨written, hw, rfl⟩ := encodeResponse_returns h₉
  obtain ⟨hallowed, rfl⟩ := Recorded.returns_liftError.mp hallow
  obtain ⟨hdelivered, rfl⟩ := Recorded.returns_liftError.mp hdeliver
  -- Nothing before the issue draws an identifier.
  have hids : j₅.identifiers = j.identifiers :=
    (Recorded.identifiers_of_log hlog₄).trans
      ((Recorded.identifiers_of_log hlog₂).trans (decodeRequest_identifiers hdecode))
  exact ⟨{
    request, document, signed, written
    decoded := Recorded.result_ok_iff.mpr ⟨_, hdecode⟩
    allowed := checkIssuer_eq_ok_iff.mp hallowed
    delivered := hdelivered
    issued := hids ▸ issue_returns hissue
    signs := ⟨j₇, j₈, hsign⟩
    writes := hw
    compressed := rfl
    payload := rfl }⟩

end Provider

end IdentityProvider
