import IdentityProvider.Proofs.RelyingParty
import IdentityProvider.Proofs.Saml.Stability
import IdentityProvider.Proofs.Signature.Normalization
/-! What a relying party that normalizes an answer before it reads it makes of the signature. -/

namespace IdentityProvider

open Xml

namespace Provider

variable {p : Provider} {signOn : SignOn} {version : ProtocolVersion} {now : Instant} {encoded : String}
  {j : Journal} {answer : EncodedResponse} {request : AuthnRequest} {destination : String}
  {ids : Identifiers} {document : Element}

def contents (p : Provider) (signOn : SignOn) (request : AuthnRequest) (destination : String) :
    ProtocolVersion → List String
  | .saml20 => (p.response signOn request destination).contents
  | .saml11 => (p.legacyResponse signOn request).contents

def values (p : Provider) (signOn : SignOn) (request : AuthnRequest) (destination : String) (ids : Identifiers) :
    ProtocolVersion → List String
  | .saml20 => (p.response signOn request destination).values ++
    [ids.current, ids.advance.current, ids.advance.advance.current]
  | .saml11 => (p.legacyResponse signOn request).values ++ [ids.current, ids.advance.current]

def IsStable (p : Provider) (signOn : SignOn) (request : AuthnRequest) (destination : String) (ids : Identifiers)
    (version : ProtocolVersion) : Prop :=
  (∀ t ∈ p.contents signOn request destination version, isStableText t = true) ∧
    ∀ s ∈ p.values signOn request destination ids version, isStableValue s = true

lemma Issues.isLone (h : Issues p signOn now request destination ids version document) : document.IsLone := by
  cases h with
  | response => exact Response.document_isLone _ _ _ _ _
  | legacy => exact LegacyResponse.document_isLone _ _ _ _

lemma Issues.declarations (h : Issues p signOn now request destination ids version document) :
    document.toNode.all (fun _ attributes => areStableDeclarations attributes) (fun _ => true) = true := by
  cases h with
  | response => exact Response.document_declarations _ _ _ _ _
  | legacy => exact LegacyResponse.document_declarations _ _ _ _

lemma Issues.isStable_iff (h : Issues p signOn now request destination ids version document) :
    document.IsStable ↔ p.IsStable signOn request destination ids version := by
  cases h with
  | response _ hv => exact Response.document_isStable_iff _ _ _ _ (Validity.isStable hv)
  | legacy hv =>
    have hnames := legacyAttributes_forall (P := fun name => isStableValue name = true) (by decide +kernel)
      signOn.principal
    exact LegacyResponse.document_isStable_iff hnames _ _ (Validity.isStable hv)

end Provider

/-- An answer verifies after normalization if that leaves alone what went into it. Otherwise the canonical form
that was signed is not that of the normalized document, and the answer verifies only if both have one digest. -/
theorem normalized_answer_verifies {settings : SignatureSettings} {p : Provider} {signOn : SignOn}
    {version : ProtocolVersion} {now : Instant} {encoded : String} {j : Journal} {answer : EncodedResponse}
    {pub : Bytes} (hs : p.signer = Signature.sign settings)
    (h : (p.respond signOn version now encoded).result j = .ok answer)
    (hp : (privateKeyDer signOn.keys.privateKeyPem >>= Rsa.publicKeyDer) = .ok pub) :
    ∃ request document written unsigned unsigned' verified, (decodeRequest encoded).result j = .ok request ∧
      p.Issues signOn now request answer.delivery.destination j.identifiers version document ∧
      answer.payload = encodePayload (Bytes.ofText written) answer.compressed p.deflate ∧
      document.canonicalize = .ok unsigned ∧ document.normalized.canonicalize = .ok unsigned' ∧
      Signature.verify (normalize written) pub = .ok verified ∧
      (p.IsStable signOn request answer.delivery.destination j.identifiers version ↔ unsigned' = unsigned) ∧
      (p.IsStable signOn request answer.delivery.destination j.identifiers version → verified = true) ∧
      (verified = true →
        settings.digest.hash (Bytes.ofText unsigned') = settings.digest.hash (Bytes.ofText unsigned)) := by
  obtain ⟨a⟩ := Provider.respond_answer h
  obtain ⟨id, hsigned⟩ := a.signed_eq hs
  obtain ⟨written, unsigned, unsigned', verified, hw, hunsigned, hunsigned', hverify, hstable, hsame⟩ :=
    Signature.verify_normalized a.issued.isNamed a.issued.isLone a.issued.unsigned hsigned hp
  rw [a.writes, Except.ok.injEq] at hw
  subst hw
  refine ⟨a.request, a.document, a.written, unsigned, unsigned', verified, a.decoded, a.issued,
    a.payload, hunsigned, hunsigned', hverify, ?_, ?_, hsame⟩
  · rw [← a.issued.isStable_iff]
    exact isStable_iff_canonicalize a.issued.isNamed a.issued.declarations hunsigned hunsigned'
  · intro hinput
    exact hstable (a.issued.isStable_iff.mpr hinput)

namespace Sample

theorem normalized_answer_differs :
    ∃ (answer : EncodedResponse) (document : Element) (written unsigned unsigned' : String) (verified : Bool),
      (provider.respond signOn .saml20 now request).result journal = .ok answer ∧
      answer.payload = encodePayload (Bytes.ofText written) answer.compressed ∧
      document.canonicalize = .ok unsigned ∧ document.normalized.canonicalize = .ok unsigned' ∧
      Signature.verify (normalize written) publicKey = .ok verified ∧ unsigned' ≠ unsigned ∧
      (verified = true → Sha256.digest (Bytes.ofText unsigned') = Sha256.digest (Bytes.ofText unsigned)) := by
  obtain ⟨answer, hanswer⟩ := respond_isOk .saml20
  obtain ⟨r, document, written, unsigned, unsigned', verified, _, _, hpayload, hunsigned, hunsigned',
    hverify, hstable, _, hsame⟩ := normalized_answer_verifies rfl hanswer publicKeyDer_eq
  refine ⟨answer, document, written, unsigned, unsigned', verified, hanswer, hpayload, hunsigned,
    hunsigned', hverify, ?_, hsame⟩
  intro heq
  have hname : signOn.principal.name ∈ provider.contents signOn r answer.delivery.destination .saml20 :=
    List.mem_append_left _ (List.mem_cons_of_mem _ List.mem_cons_self)
  have hreturn := (hstable.mpr heq).1 _ hname
  exact absurd hreturn (by decide)

end Sample

end IdentityProvider
