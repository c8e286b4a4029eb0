import IdentityProvider.Proofs.Fault
/-! When a request is answered, and why it is not otherwise: an answer fails on the first condition that does
not hold. -/

namespace IdentityProvider

open Xml

lemma decodeRequest_result (encoded : String) (j : Journal) :
    (decodeRequest encoded).result j = decodedRequest encoded :=
  (yields_decodeRequest encoded j.identifiers j rfl).1

def SignOn.destination? (signOn : SignOn) (request : AuthnRequest) : Option String :=
  signOn.application.replyUrl?.or request.consumerUrl?

lemma SignOn.destination_of_field {signOn : SignOn} {request : AuthnRequest} {destination : String}
    (h : signOn.destination? request = some destination) :
    ∃ method, resolveDelivery signOn.application request = .ok ⟨destination, method⟩ := by
  rw [resolveDelivery]
  rcases Option.or_eq_some_iff.mp h with hu | ⟨hn, hu⟩
  · rw [hu]
    exact ⟨.post, rfl⟩
  · rw [hn, hu]
    exact ⟨.get, rfl⟩

lemma SignOn.resolveDelivery_error_cases {signOn : SignOn} {request : AuthnRequest} {f : Failure}
    (h : resolveDelivery signOn.application request = .error f) :
    signOn.destination? request = none ∧ ∃ detail, f = .missingDestination detail := by
  rw [resolveDelivery] at h
  split at h
  · cases h
  · cases h
  · rename_i hr hc
    cases h
    exact ⟨Option.or_eq_none_iff.mpr ⟨hr, hc⟩, _, rfl⟩

lemma starting_isSome_iff {now : Instant} :
    (∃ v, Validity.starting? now = some v) ↔ now.seconds + assertionLifetime ≤ Instant.lastSecond := by
  rw [Validity.starting?, Instant.addSeconds?]
  split_ifs with h
  · simp [h]
  · simp [h]

lemma checkedTexts_error {texts : List String} {f : Failure} (h : checkedTexts texts = .error f) :
    ∃ t ∈ texts, ∃ e, checkChars t.toList = .error e ∧ f = .serialization e.message := by
  induction texts with
  | nil => cases h
  | cons t texts ih =>
    rw [checkedTexts_cons] at h
    rcases bind_error_iff.mp h with ht | ⟨_, _, hrest⟩
    · obtain ⟨e, he, rfl⟩ := mapError_error_iff.mp ht
      exact ⟨t, List.mem_cons_self, e, he, rfl⟩
    · obtain ⟨s, hs, he⟩ := ih hrest
      exact ⟨s, List.mem_cons_of_mem t hs, he⟩

namespace Provider

def writtenTexts (p : Provider) (signOn : SignOn) (request : AuthnRequest) (destination : String) :
    ProtocolVersion → List String
  | .saml20 => [request.id, destination, signOn.principal.name, signOn.principal.email,
      signOn.principal.displayName, p.config.rolesSeparator.intercalate (p.roles signOn.principal)] ++
        audiences signOn.application request ++
      [(Origins.ofHost signOn.host p.config).backend]
  | .saml11 => [request.id, signOn.principal.name] ++ (signOn.principal.profile.map Prod.snd).filter (· ≠ "") ++
      [(Origins.ofHost signOn.host p.config).backend]

section Issuing

variable {p : Provider} {signOn : SignOn} {version : ProtocolVersion} {now : Instant} {ids : Identifiers}
  {request : AuthnRequest} {destination : String} {document : Element}

lemma mem_writtenTexts {t : String} :
    t ∈ p.writtenTexts signOn request destination version ↔ t ∈ p.texts signOn request destination version := by
  cases version with
  | saml20 =>
    simp only [writtenTexts, texts, response, Response.texts, List.mem_append, List.mem_cons,
      List.not_mem_nil, or_false]
    tauto
  | saml11 =>
    have hfields : (signOn.principal.profile.map Prod.snd).filter (· ≠ "") =
      signOn.principal.legacyAttributes.map Prod.snd := by
      rw [List.filter_map, Principal.legacyAttributes]
      rfl
    simp only [writtenTexts, texts, legacyResponse, LegacyResponse.texts, hfields, List.mem_append, List.mem_cons,
      List.not_mem_nil, or_false]
    tauto

lemma writtenTexts_checked_iff :
    (∀ t ∈ p.writtenTexts signOn request destination version, checkChars t.toList = .ok ()) ↔
      ∀ t ∈ p.texts signOn request destination version, isXmlText t = true := by
  simp only [mem_writtenTexts, checkChars_ok_iff]

lemma issued_of_late (hd : destination ≠ "") (ht : ¬ now.seconds + assertionLifetime ≤ Instant.lastSecond) :
    p.issued signOn version now ids request destination = .error
      (.serialization "issue instant out of range") := by
  have hv : validity now = .error (.serialization "issue instant out of range") := by
    rw [← starting_isSome_iff] at ht
    rw [validity]
    cases hs : Validity.starting? now with
    | none => rfl
    | some v => exact absurd ⟨v, hs⟩ ht
  exact issued_of_invalid hd hv

lemma issued_error_cases (hd : destination ≠ "") {f : Failure}
    (h : p.issued signOn version now ids request destination = .error f) :
    (¬ now.seconds + assertionLifetime ≤ Instant.lastSecond ∧ f = .serialization "issue instant out of range") ∨
      (now.seconds + assertionLifetime ≤ Instant.lastSecond ∧
        ∃ t ∈ p.writtenTexts signOn request destination version, ∃ e, checkChars t.toList = .error e ∧
          f = .serialization e.message) := by
  by_cases ht : now.seconds + assertionLifetime ≤ Instant.lastSecond
  · obtain ⟨v, hv⟩ := starting_isSome_iff.mpr ht
    obtain ⟨document, hissues⟩ := exists_issues version ids hd hv
    rw [hissues.issued_eq] at h
    rcases bind_error_iff.mp h with hchecked | ⟨_, _, hok⟩
    · obtain ⟨t, hm, he⟩ := checkedTexts_error hchecked
      exact Or.inr ⟨ht, t, mem_writtenTexts.mpr hm, he⟩
    · cases hok
  · rw [issued_of_late hd ht] at h
    cases h
    exact Or.inl ⟨ht, rfl⟩

lemma Issues.signedMessage_isOk (h : Issues p signOn now request destination ids version document)
    (ht : ∀ t ∈ p.writtenTexts signOn request destination version, checkChars t.toList = .ok ()) (hids : ids.Suit)
    (settings : SignatureSettings) : ∃ message, Signature.signedMessage settings document = .ok message := by
  have hnext := hids.next version.drawn
  exact Signature.signedMessage_isOk settings (h.referenceId_eq hnext.nonempty)
    (h.isWritable (writtenTexts_checked_iff.mp ht) hnext)

end Issuing

structure Admits (signOn : SignOn) (encoded : String) (j : Journal) (request : AuthnRequest)
    (destination : String) :
    Prop where
  decoded : (decodeRequest encoded).result j = .ok request
  allowed : request.issuer ∈ signOn.application.redirectUris
  delivered : signOn.destination? request = some destination

structure CanWrite (p : Provider) (signOn : SignOn) (version : ProtocolVersion) (now : Instant) (encoded : String)
    (j : Journal) (request : AuthnRequest) (destination : String) : Prop
    extends Admits signOn encoded j request destination where
  lasting : now.seconds + assertionLifetime ≤ Instant.lastSecond
  written : ∀ t ∈ p.writtenTexts signOn request destination version, checkChars t.toList = .ok ()

/-- Why a request is not answered: what comes first in the way. -/
inductive Refuses (p : Provider) (signOn : SignOn) (version : ProtocolVersion) (now : Instant)
    (settings : SignatureSettings) (encoded : String) (j : Journal) : Failure → Prop
  | undecoded {detail : String} (h : (decodeRequest encoded).result j = .error (.decode detail)) :
    Refuses p signOn version now settings encoded j (.decode detail)
  | malformed {detail : String} (h : (decodeRequest encoded).result j = .error (.malformedRequest detail)) :
    Refuses p signOn version now settings encoded j (.malformedRequest detail)
  | unauthorized {request : AuthnRequest} (h : (decodeRequest encoded).result j = .ok request)
    (hi : request.issuer ∉ signOn.application.redirectUris) :
    Refuses p signOn version now settings encoded j (.unauthorizedIssuer request.issuer)
  | undelivered {request : AuthnRequest} {detail : String} (h : (decodeRequest encoded).result j = .ok request)
    (hi : request.issuer ∈ signOn.application.redirectUris) (hd : signOn.destination? request = none) :
    Refuses p signOn version now settings encoded j (.missingDestination detail)
  | late {request : AuthnRequest} {destination : String} (h : Admits signOn encoded j request destination)
    (ht : ¬ now.seconds + assertionLifetime ≤ Instant.lastSecond) :
    Refuses p signOn version now settings encoded j (.serialization "issue instant out of range")
  | forbidden {request : AuthnRequest} {destination t : String} {e : Forbidden}
    (h : Admits signOn encoded j request destination) (ht : now.seconds + assertionLifetime ≤ Instant.lastSecond)
    (hm : t ∈ p.writtenTexts signOn request destination version) (he : checkChars t.toList = .error e) :
    Refuses p signOn version now settings encoded j (.serialization e.message)
  | unsigned {request : AuthnRequest} {destination detail : String} {document : Element}
    (h : CanWrite p signOn version now encoded j request destination)
    (hissues : Issues p signOn now request destination j.identifiers version document)
    (hs : ¬ Signature.Signs settings signOn.keys document) :
    Refuses p signOn version now settings encoded j (.signature detail)

variable {p : Provider} {signOn : SignOn} {version : ProtocolVersion} {now : Instant}
  {settings : SignatureSettings} {encoded : String} {j : Journal} {request : AuthnRequest}
  {destination : String} {document : Element}

section Stages

/-! Each stage refuses the request or hands it to the next one. -/

lemma refuses_or_admits (p : Provider) (signOn : SignOn) (version : ProtocolVersion) (now : Instant)
    (settings : SignatureSettings) (encoded : String) (j : Journal) :
    (∃ f, p.outcome signOn version now j.identifiers settings encoded = .error f ∧
      Refuses p signOn version now settings encoded j f) ∨
    ∃ request destination, Admits signOn encoded j request destination := by
  have hresult := decodeRequest_result encoded j
  cases hd : decodedRequest encoded with
  | error f =>
    rw [hd] at hresult
    refine Or.inl ⟨f, by rw [outcome, hd]; rfl, ?_⟩
    rcases decodedRequest_error_cases hd with ⟨detail, rfl⟩ | ⟨detail, rfl⟩
    · exact .undecoded hresult
    · exact .malformed hresult
  | ok request =>
    rw [hd] at hresult
    by_cases hi : request.issuer ∈ signOn.application.redirectUris
    · cases hr : resolveDelivery signOn.application request with
      | error f =>
        obtain ⟨hn, detail, rfl⟩ := SignOn.resolveDelivery_error_cases hr
        refine Or.inl ⟨.missingDestination detail, ?_, .undelivered hresult hi hn⟩
        simp only [outcome, hd, checkIssuer_eq_ok_iff.mpr hi, hr, bind, Except.bind]
      | ok delivery => exact Or.inr ⟨request, delivery.destination, hresult, hi, destination_of_resolveDelivery hr⟩
    · have hc : checkIssuer signOn.application request = .error (.unauthorizedIssuer request.issuer) := by
        simp [checkIssuer, Application.allows, hi]
      refine Or.inl ⟨.unauthorizedIssuer request.issuer, ?_, .unauthorized hresult hi⟩
      simp only [outcome, hd, hc, bind, Except.bind]

lemma Admits.destination_ne (h : Admits signOn encoded j request destination) : destination ≠ "" := by
  obtain ⟨method, hr⟩ := SignOn.destination_of_field h.delivered
  exact resolveDelivery_ok hr

lemma Admits.outcome_eq (h : Admits signOn encoded j request destination) (p : Provider)
    (version : ProtocolVersion) (now : Instant) (settings : SignatureSettings) :
    ∃ method, p.outcome signOn version now j.identifiers settings encoded = (do
      let document ← p.issued signOn version now j.identifiers request destination
      let signed ← (Signature.signed settings document signOn.keys).map Prod.fst
      encodedResponse signed ⟨destination, method⟩ signOn.application.compressionEnabled p.deflate) := by
  obtain ⟨method, hr⟩ := SignOn.destination_of_field h.delivered
  have hd : decodedRequest encoded = .ok request := by rw [← decodeRequest_result encoded j, h.decoded]
  exact ⟨method, outcome_admitted hd h.allowed hr⟩

lemma Admits.refuses_or_canWrite (h : Admits signOn encoded j request destination) (p : Provider)
    (version : ProtocolVersion) (now : Instant) (settings : SignatureSettings) :
    (∃ f, p.outcome signOn version now j.identifiers settings encoded = .error f ∧
      Refuses p signOn version now settings encoded j f) ∨
    ∃ document, CanWrite p signOn version now encoded j request destination ∧
      Issues p signOn now request destination j.identifiers version document := by
  obtain ⟨method, ho⟩ := h.outcome_eq p version now settings
  cases hissued : p.issued signOn version now j.identifiers request destination with
  | error f =>
    rw [hissued] at ho
    refine Or.inl ⟨f, ho, ?_⟩
    rcases issued_error_cases h.destination_ne hissued with ⟨ht, rfl⟩ | ⟨ht, t, hm, e, he, rfl⟩
    · exact .late h ht
    · exact .forbidden h ht hm he
  | ok document =>
    obtain ⟨hissues, htexts⟩ := issued_ok hissued
    exact Or.inr ⟨document, ⟨h, starting_isSome_iff.mp hissues.starting, writtenTexts_checked_iff.mpr htexts⟩,
      hissues⟩

lemma CanWrite.outcome_eq (h : CanWrite p signOn version now encoded j request destination)
    (hissues : Issues p signOn now request destination j.identifiers version document)
    (settings : SignatureSettings) :
    ∃ delivery, p.outcome signOn version now j.identifiers settings encoded = (do
      let signed ← (Signature.signed settings document signOn.keys).map Prod.fst
      encodedResponse signed delivery signOn.application.compressionEnabled p.deflate) := by
  obtain ⟨method, ho⟩ := h.toAdmits.outcome_eq p version now settings
  rw [hissues.issued_eq, checkedTexts_ok_iff.mpr (writtenTexts_checked_iff.mp h.written)] at ho
  exact ⟨⟨destination, method⟩, ho⟩

lemma refuses_or_canWrite (p : Provider) (signOn : SignOn) (version : ProtocolVersion) (now : Instant)
    (settings : SignatureSettings) (encoded : String) (j : Journal) :
    (∃ f, p.outcome signOn version now j.identifiers settings encoded = .error f ∧
      Refuses p signOn version now settings encoded j f) ∨
    ∃ request destination document, CanWrite p signOn version now encoded j request destination ∧
      Issues p signOn now request destination j.identifiers version document := by
  rcases refuses_or_admits p signOn version now settings encoded j with hrefuses | ⟨request, destination, hadmits⟩
  · exact Or.inl hrefuses
  · rcases hadmits.refuses_or_canWrite p version now settings with hrefuses | ⟨document, hwrite⟩
    · exact Or.inl hrefuses
    · exact Or.inr ⟨request, destination, document, hwrite⟩

lemma CanWrite.outcome_isOk_iff (h : CanWrite p signOn version now encoded j request destination)
    (hissues : Issues p signOn now request destination j.identifiers version document) :
    (∃ answer, p.outcome signOn version now j.identifiers settings encoded = .ok answer) ↔
      Signature.Signs settings signOn.keys document := by
  obtain ⟨delivery, ho⟩ := h.outcome_eq hissues settings
  rw [ho, concluded_isOk_iff]
  constructor
  · rintro ⟨⟨result, id⟩, hs⟩
    exact Signature.signs_of_signed hs
  · exact Signature.Signs.signed_isOk

lemma CanWrite.outcome_error (h : CanWrite p signOn version now encoded j request destination)
    (hissues : Issues p signOn now request destination j.identifiers version document) (hids : j.identifiers.Suit)
    {f : Failure} (hf : p.outcome signOn version now j.identifiers settings encoded = .error f) :
    ∃ detail, f = .signature detail := by
  have hnext := hids.next version.drawn
  have hw := hissues.isWritable (writtenTexts_checked_iff.mp h.written) hnext
  obtain ⟨delivery, ho⟩ := h.outcome_eq hissues settings
  rw [ho] at hf
  exact Signature.signed_error (hissues.referenceId_eq hnext.nonempty) hw (concluded_error hf)

end Stages

/-- A request is answered if it can be read, is allowed, has a destination, and its answer can be written and
signed. If one of these fails, the error tells which one was first. With primes that are primes the keys alone
decide about signing. -/
theorem respond_verdict (hp : p.signer = Signature.sign settings) (hids : j.identifiers.Suit) (signOn : SignOn)
    (version : ProtocolVersion) (now : Instant) (encoded : String) :
    ((∃ answer, (p.respond signOn version now encoded).result j = .ok answer) ↔
      ∃ request destination document, CanWrite p signOn version now encoded j request destination ∧
        Issues p signOn now request destination j.identifiers version document ∧
        Signature.Signs settings signOn.keys document) ∧
    (∀ f, (p.respond signOn version now encoded).result j = .error f →
      Refuses p signOn version now settings encoded j f) ∧
    ∀ request destination document, CanWrite p signOn version now encoded j request destination →
      Issues p signOn now request destination j.identifiers version document → signOn.keys.HasPrimes →
      (Signature.Signs settings signOn.keys document ↔ Signature.CanSign settings signOn.keys) := by
  rw [p.respond_result signOn version now hp]
  refine ⟨⟨?_, ?_⟩, ?_, ?_⟩
  · rintro ⟨answer, h⟩
    rcases refuses_or_canWrite p signOn version now settings encoded j with
      ⟨f, hf, _⟩ | ⟨request, destination, document, hwrite, hissues⟩
    · rw [h] at hf
      cases hf
    · exact ⟨request, destination, document, hwrite, hissues, (hwrite.outcome_isOk_iff hissues).mp ⟨answer, h⟩⟩
  · rintro ⟨request, destination, document, hwrite, hissues, hsigns⟩
    exact (hwrite.outcome_isOk_iff hissues).mpr hsigns
  · intro f h
    rcases refuses_or_canWrite p signOn version now settings encoded j with
      ⟨g, hg, hrefuses⟩ | ⟨request, destination, document, hwrite, hissues⟩
    · rw [h] at hg
      cases hg
      exact hrefuses
    · obtain ⟨detail, rfl⟩ := hwrite.outcome_error hissues hids h
      refine .unsigned hwrite hissues ?_
      intro hsigns
      obtain ⟨answer, hok⟩ := (hwrite.outcome_isOk_iff hissues).mpr hsigns
      rw [h] at hok
      cases hok
  · intro request destination document hwrite hissues hprimes
    obtain ⟨message, hm⟩ := hissues.signedMessage_isOk hwrite.written hids settings
    exact ⟨fun hsigns => hsigns.canSign hprimes, fun hcan => hcan.document_signs hm⟩

end Provider

namespace Sample

lemma decodeRequest_request : (decodeRequest request).result journal = .ok { id := "q", issuer := "s" } := by
  rw [decodeRequest_result]
  exact decodedRequest_ok_iff.mpr ⟨_, decodeRequestDocument_request, parse_request⟩

def closed : SignOn :=
  { signOn with application := { signOn.application with redirectUris := [] } }

theorem respond_verdict_closed :
    (∃ request' destination document,
      Provider.CanWrite provider signOn .saml11 now request journal request' destination ∧
      Provider.Issues provider signOn now request' destination journal.identifiers .saml11 document ∧
      Signature.Signs {} signOn.keys document) ∧
    (provider.respond closed .saml11 now request).result journal = .error (.unauthorizedIssuer "s") := by
  have hids : journal.identifiers.Suit := Identifiers.sequential_suit (by decide) (by decide)
  refine ⟨(Provider.respond_verdict rfl hids signOn .saml11 now request).1.mp (respond_isOk .saml11), ?_⟩
  obtain ⟨hok, herror, _⟩ := Provider.respond_verdict (p := provider) rfl hids closed .saml11 now request
  cases hr : (provider.respond closed .saml11 now request).result journal with
  | ok answer =>
    obtain ⟨_, _, _, hwrite, _⟩ := hok.mp ⟨answer, hr⟩
    cases hwrite.allowed
  | error f =>
    cases herror f hr with
    | undecoded h =>
      rw [decodeRequest_request] at h
      cases h
    | malformed h =>
      rw [decodeRequest_request] at h
      cases h
    | unauthorized h =>
      rw [decodeRequest_request] at h
      cases h
      rfl
    | undelivered _ hi => cases hi
    | late h => cases h.allowed
    | forbidden h => cases h.allowed
    | unsigned h => cases h.allowed

end Sample

end IdentityProvider
