import IdentityProvider.Proofs.Respond
import IdentityProvider.Proofs.Saml.Content

namespace IdentityProvider

open Xml

section Texts

variable {texts known : List String}

lemma checkedTexts_append (texts others : List String) :
    checkedTexts (texts ++ others) = checkedTexts texts >>= fun _ => checkedTexts others := by
  rw [checkedTexts, List.flatMap_append, checkChars_append]
  rw [checkedTexts]
  cases checkChars (texts.flatMap String.toList) <;> rfl

lemma checkedTexts_known_append (h : ∀ t ∈ known, isXmlText t = true) (texts : List String) :
    checkedTexts (known ++ texts) = checkedTexts texts := by
  rw [checkedTexts_append, checkedTexts_ok_iff.mpr h]
  rfl

lemma checkedTexts_append_known (texts : List String) (h : ∀ t ∈ known, isXmlText t = true) :
    checkedTexts (texts ++ known) = checkedTexts texts := by
  rw [checkedTexts_append, checkedTexts_ok_iff.mpr h]
  cases checkedTexts texts <;> rfl

end Texts

lemma Failure.httpStatus_of_isRequesterFault {f : Failure} (h : f.isRequesterFault = true) :
    f.httpStatus = 400 ∨ f.httpStatus = 403 := by
  cases f with
  | decode | malformedRequest | missingDestination => exact Or.inl rfl
  | unauthorizedIssuer => exact Or.inr rfl
  | signature | serialization | compression | invalidCertificate | config => cases h

structure Admitted (app : Application) (encoded : String) (request : AuthnRequest) : Prop where
  read : ∃ text, decodeRequestDocument encoded = .ok text ∧ AuthnRequest.parse text = .ok request
  allowed : request.issuer ∈ app.redirectUris
  delivered : ∃ delivery, resolveDelivery app request = .ok delivery

def SignOn.echoed (signOn : SignOn) (request : AuthnRequest) : ProtocolVersion → List String
  | .saml20 => request.id :: if signOn.application.replyUrl?.isSome then [] else request.consumerUrl?.toList
  | .saml11 => [request.id]

lemma decodeRequestDocument_error {encoded : String} {f : Failure} (h : decodeRequestDocument encoded = .error f) :
    (∃ detail, f = .decode detail) ∨ ∃ detail, f = .malformedRequest detail := by
  rw [decodeRequestDocument] at h
  split at h
  · cases h
    exact Or.inl ⟨_, rfl⟩
  · split at h
    · cases h
      exact Or.inl ⟨_, rfl⟩
    · split at h
      · cases h
        exact Or.inl ⟨_, rfl⟩
      · split at h
        · cases h
        · cases h
          exact Or.inr ⟨_, rfl⟩

lemma decodedRequest_error_cases {encoded : String} {f : Failure} (h : decodedRequest encoded = .error f) :
    (∃ detail, f = .decode detail) ∨ ∃ detail, f = .malformedRequest detail := by
  rcases bind_error_iff.mp h with hdecode | ⟨text, _, hparse⟩
  · exact decodeRequestDocument_error hdecode
  · obtain ⟨e, _, rfl⟩ := mapError_error_iff.mp hparse
    exact Or.inr ⟨e.message, rfl⟩

lemma decodedRequest_error {encoded : String} {f : Failure} (h : decodedRequest encoded = .error f) :
    f.isRequesterFault = true := by
  rcases decodedRequest_error_cases h with ⟨detail, rfl⟩ | ⟨detail, rfl⟩
  · rfl
  · rfl

lemma checkIssuer_error {app : Application} {request : AuthnRequest} {f : Failure}
    (h : checkIssuer app request = .error f) : f.isRequesterFault = true := by
  rw [checkIssuer] at h
  split at h
  · cases h
  · cases h
    rfl

lemma resolveDelivery_error {app : Application} {request : AuthnRequest} {f : Failure}
    (h : resolveDelivery app request = .error f) : f.isRequesterFault = true := by
  rw [resolveDelivery] at h
  split at h
  · cases h
  · cases h
  · cases h
    rfl

lemma Response.identifiers_of_isWritable {r : Response} {id assertionId sessionIndex : String} {v : Validity}
    (hw : (r.document id assertionId sessionIndex v).IsWritable) :
    isXmlText id = true ∧ isXmlText assertionId = true ∧ isXmlText sessionIndex = true := by
  have hassertion : (r.document id assertionId sessionIndex v).path? ["Assertion"] =
      some (r.assertion assertionId sessionIndex v) := path_assertion id assertionId sessionIndex v []
  have hstatement : (r.assertion assertionId sessionIndex v).find? "AuthnStatement" =
      some (authnStatement sessionIndex v) := find_in_assertion assertionId sessionIndex v 3 (by decide)
  have hid : (r.document id assertionId sessionIndex v).attribute? "ID" = some id := rfl
  have hassertionId : (r.assertion assertionId sessionIndex v).attribute? "ID" = some assertionId := rfl
  have hsession : (authnStatement sessionIndex v).attribute? "SessionIndex" = some sessionIndex := rfl
  have hwritable := hw.path hassertion
  exact ⟨hw.attribute hid, hwritable.attribute hassertionId, (hwritable.find hstatement).attribute hsession⟩

lemma LegacyResponse.identifiers_of_isWritable {r : LegacyResponse} {id assertionId : String} {v : Validity}
    (hw : (r.document id assertionId v).IsWritable) : isXmlText id = true ∧ isXmlText assertionId = true := by
  have hassertion : (r.document id assertionId v).find? "Assertion" = some (r.assertion assertionId v) :=
    Element.find_ofElements ["samlp:Status", "saml:Assertion"] 1 rfl (by decide)
  have hid : (r.document id assertionId v).attribute? "ResponseID" = some id := rfl
  have hassertionId : (r.assertion assertionId v).attribute? "AssertionID" = some assertionId := rfl
  exact ⟨hw.attribute hid, (hw.find hassertion).attribute hassertionId⟩

namespace Provider

variable {p : Provider} {signOn : SignOn} {version : ProtocolVersion} {now : Instant} {ids : Identifiers}

section Issuing

variable {request : AuthnRequest} {destination : String} {document : Element}

lemma issued_ok (h : p.issued signOn version now ids request destination = .ok document) :
    Issues p signOn now request destination ids version document ∧
      ∀ t ∈ p.texts signOn request destination version, isXmlText t = true := by
  cases version with
  | saml20 =>
    rw [issued, Response.issued] at h
    by_cases hd : (p.response signOn request destination).destination = ""
    · rw [if_pos hd] at h
      cases h
    · rw [if_neg hd] at h
      obtain ⟨v, hv, h⟩ := bind_ok_iff.mp h
      obtain ⟨_, ht, h⟩ := bind_ok_iff.mp h
      cases h
      exact ⟨.response hd (validity_ok_iff.mp hv), checkedTexts_ok_iff.mp ht⟩
  | saml11 =>
    rw [issued, LegacyResponse.issued] at h
    obtain ⟨v, hv, h⟩ := bind_ok_iff.mp h
    obtain ⟨_, ht, h⟩ := bind_ok_iff.mp h
    cases h
    exact ⟨.legacy (validity_ok_iff.mp hv), checkedTexts_ok_iff.mp ht⟩

lemma Issues.starting (h : Issues p signOn now request destination ids version document) :
    ∃ v, Validity.starting? now = some v := by
  cases h with
  | response _ hv => exact ⟨_, hv⟩
  | legacy hv => exact ⟨_, hv⟩

lemma Issues.suitNext (h : Issues p signOn now request destination ids version document) (hw : document.IsWritable)
    {id : String} (hid : Signature.referenceId document = .ok id) : ids.SuitNext version.drawn where
  nonempty := by
    rw [Signature.referenceId_ok_iff, h.reference, Option.filter_eq_some_iff] at hid
    cases hid.1
    exact of_decide_eq_true hid.2
  written := by
    intro i hi
    cases h with
    | response =>
      obtain ⟨hid, hassertion, hsession⟩ := Response.identifiers_of_isWritable hw
      match i with
      | 0 => exact hid
      | 1 => exact hassertion
      | 2 => exact hsession
    | legacy =>
      obtain ⟨hid, hassertion⟩ := LegacyResponse.identifiers_of_isWritable hw
      match i with
      | 0 => exact hid
      | 1 => exact hassertion

end Issuing

def provided (p : Provider) (signOn : SignOn) (request : AuthnRequest) : ProtocolVersion → List String
  | .saml20 =>
    signOn.application.replyUrl?.toList ++ [signOn.principal.name] ++ audiences signOn.application request ++
      [signOn.principal.email, signOn.principal.name, signOn.principal.displayName,
        p.config.rolesSeparator.intercalate (p.roles signOn.principal),
          (Origins.ofHost signOn.host p.config).backend]
  | .saml11 => [signOn.principal.name, signOn.principal.name] ++ signOn.principal.legacyAttributes.map Prod.snd ++
      [(Origins.ofHost signOn.host p.config).backend]

section Echo

variable {request another : AuthnRequest} {delivery : Delivery}

lemma mem_audiences {app : Application} (h : request.issuer ∈ app.redirectUris) {t : String} :
    t ∈ audiences app request ↔ t ∈ app.redirectUris := by
  rw [audiences, List.mem_eraseDups, List.mem_cons]
  constructor
  · rintro (rfl | ht)
    · exact h
    · exact ht
  · exact Or.inr

lemma mem_provided (h : request.issuer ∈ signOn.application.redirectUris)
    (h' : another.issuer ∈ signOn.application.redirectUris) {t : String} :
    t ∈ p.provided signOn request version ↔ t ∈ p.provided signOn another version := by
  cases version with
  | saml20 => simp only [provided, List.mem_append, mem_audiences h, mem_audiences h']
  | saml11 => rfl

lemma texts_eq (h : resolveDelivery signOn.application request = .ok delivery) :
    p.texts signOn request delivery.destination version = signOn.echoed request version ++
      p.provided signOn request version ∨
      p.texts signOn request delivery.destination version =
        p.provided signOn request version ++ signOn.echoed request version := by
  cases version with
  | saml20 =>
    apply Or.inl
    have hd := destination_of_resolveDelivery h
    cases hr : signOn.application.replyUrl? with
    | some url =>
      rw [hr, Option.some_or, Option.some.injEq] at hd
      simp [texts, response, Response.texts, SignOn.echoed, provided, hr, hd]
    | none =>
      rw [hr, Option.none_or] at hd
      simp [texts, response, Response.texts, SignOn.echoed, provided, hr, hd]
  | saml11 =>
    apply Or.inr
    simp [texts, legacyResponse, LegacyResponse.texts, SignOn.echoed, provided]

lemma provided_isXmlText (h : resolveDelivery signOn.application request = .ok delivery)
    (ht : ∀ t ∈ p.texts signOn request delivery.destination version, isXmlText t = true) :
    ∀ t ∈ p.provided signOn request version, isXmlText t = true := by
  intro t hm
  apply ht
  rcases texts_eq h with he | he
  · rw [he, List.mem_append]
    exact Or.inr hm
  · rw [he, List.mem_append]
    exact Or.inl hm

lemma checkedTexts_texts (h : resolveDelivery signOn.application request = .ok delivery)
    (hp : ∀ t ∈ p.provided signOn request version, isXmlText t = true) :
    checkedTexts (p.texts signOn request delivery.destination version) =
      checkedTexts (signOn.echoed request version) := by
  rcases texts_eq h with he | he
  · rw [he, checkedTexts_append_known _ hp]
  · rw [he, checkedTexts_known_append hp]

end Echo

structure Ready (p : Provider) (signOn : SignOn) (version : ProtocolVersion) (now : Instant) : Prop where
  starting : ∃ v, Validity.starting? now = some v
  provided : ∀ request : AuthnRequest, request.issuer ∈ signOn.application.redirectUris →
    ∀ t ∈ p.provided signOn request version, isXmlText t = true

variable {settings : SignatureSettings} {encoded : String} {request : AuthnRequest}

lemma ready_of_outcome {answer : EncodedResponse}
    (h : p.outcome signOn version now ids settings encoded = .ok answer) :
    p.Ready signOn version now ∧ ids.SuitNext version.drawn ∧
      ∃ document signed, Signature.signed settings document signOn.keys = .ok signed := by
  rw [outcome] at h
  obtain ⟨request, _, h⟩ := bind_ok_iff.mp h
  obtain ⟨_, hallow, h⟩ := bind_ok_iff.mp h
  obtain ⟨delivery, hdeliver, h⟩ := bind_ok_iff.mp h
  obtain ⟨document, hissued, h⟩ := bind_ok_iff.mp h
  obtain ⟨_, hsigned, _⟩ := bind_ok_iff.mp h
  obtain ⟨hissues, ht⟩ := issued_ok hissued
  obtain ⟨⟨result, id⟩, hs, _⟩ := map_ok_iff.mp hsigned
  refine ⟨⟨hissues.starting, ?_⟩, ?_, document, _, hs⟩
  · intro another hanother t hm
    exact provided_isXmlText hdeliver ht t ((mem_provided hanother (checkIssuer_eq_ok_iff.mp hallow)).mp hm)
  · exact hissues.suitNext (Signature.isWritable_of_signed hs) (Signature.signed_ok hs).1

lemma refused_or_admitted {f : Failure} (h : p.outcome signOn version now ids settings encoded = .error f) :
    f.isRequesterFault = true ∨ ∃ request, Admitted signOn.application encoded request := by
  rw [outcome] at h
  rcases bind_error_iff.mp h with hdecode | ⟨request, hdecode, h⟩
  · exact Or.inl (decodedRequest_error hdecode)
  rcases bind_error_iff.mp h with hallow | ⟨_, hallow, h⟩
  · exact Or.inl (checkIssuer_error hallow)
  rcases bind_error_iff.mp h with hdeliver | ⟨delivery, hdeliver, _⟩
  · exact Or.inl (resolveDelivery_error hdeliver)
  · exact Or.inr ⟨request, decodedRequest_ok_iff.mp hdecode, checkIssuer_eq_ok_iff.mp hallow, delivery, hdeliver⟩

namespace Ready

lemma outcome_eq (hr : p.Ready signOn version now) (ha : Admitted signOn.application encoded request) :
    ∃ document delivery,
      (checkedTexts (signOn.echoed request version) = .ok () → ids.SuitNext version.drawn →
        document.IsWritable ∧ Signature.referenceId document = .ok ids.current) ∧
      p.outcome signOn version now ids settings encoded = (do
        checkedTexts (signOn.echoed request version)
        let signed ← (Signature.signed settings document signOn.keys).map Prod.fst
        encodedResponse signed delivery signOn.application.compressionEnabled p.deflate) := by
  obtain ⟨delivery, hdeliver⟩ := ha.delivered
  obtain ⟨v, hv⟩ := hr.starting
  have hecho : checkedTexts (p.texts signOn request delivery.destination version) =
      checkedTexts (signOn.echoed request version) :=
    checkedTexts_texts hdeliver (hr.provided request ha.allowed)
  obtain ⟨document, hissues⟩ := exists_issues version ids (resolveDelivery_ok hdeliver) hv
  refine ⟨document, delivery, ?_, ?_⟩
  · intro hok hids
    rw [← hecho, checkedTexts_ok_iff] at hok
    exact ⟨hissues.isWritable hok hids, hissues.referenceId_eq hids.nonempty⟩
  · rw [outcome_admitted (decodedRequest_ok_iff.mpr ha.read) ha.allowed hdeliver, hissues.issued_eq, hecho]
    cases checkedTexts (signOn.echoed request version) <;> rfl

lemma outcome_of_forbidden (hr : p.Ready signOn version now) (ha : Admitted signOn.application encoded request)
    {e : Forbidden} (he : checkChars ((signOn.echoed request version).flatMap String.toList) = .error e) :
    p.outcome signOn version now ids settings encoded = .error (.serialization e.message) := by
  obtain ⟨document, delivery, _, ho⟩ := hr.outcome_eq ha
  rw [ho, checkedTexts, he]
  rfl

lemma outcome_error (hr : p.Ready signOn version now) (hids : ids.SuitNext version.drawn)
    (ha : Admitted signOn.application encoded request) {f : Failure}
    (h : p.outcome signOn version now ids settings encoded = .error f) :
    (∃ e, checkChars ((signOn.echoed request version).flatMap String.toList) = .error e ∧
      f = .serialization e.message) ∨
      (¬ Signature.CanSign settings signOn.keys ∧ ∃ detail, f = .signature detail) := by
  obtain ⟨document, delivery, hdocument, ho⟩ := hr.outcome_eq ha
  rw [ho] at h
  rcases bind_error_iff.mp h with hecho | ⟨_, hecho, h⟩
  · obtain ⟨e, he, rfl⟩ := mapError_error_iff.mp hecho
    exact Or.inl ⟨e, he, rfl⟩
  obtain ⟨hw, hid⟩ := hdocument hecho hids
  have hsigned := concluded_error h
  refine Or.inr ⟨?_, Signature.signed_error hid hw hsigned⟩
  intro hk
  obtain ⟨result, hs⟩ := Signature.signed_isOk hk hid hw
  rw [hs] at hsigned
  cases hsigned

end Ready

/-- Where one request is answered, another one fails only by its own fault, or because of a character that it
brings into the answer, or because of primes that are none, or because of identifiers drawn meanwhile. -/
theorem respond_fault {first : String} {answer : EncodedResponse} {j : Journal}
    (hp : p.signer = Signature.sign settings) (h : (p.respond signOn version now first).result j = .ok answer)
    (encoded : String) (j' : Journal) :
    (∀ f, (p.respond signOn version now encoded).result j' = .error f →
      (f.isRequesterFault = true ∧ (f.httpStatus = 400 ∨ f.httpStatus = 403)) ∨
      (∃ request e, Admitted signOn.application encoded request ∧
        checkChars ((signOn.echoed request version).flatMap String.toList) = .error e ∧
          f = .serialization e.message) ∨
      (¬ signOn.keys.HasPrimes ∧ ∃ detail, f = .signature detail) ∨
      (j'.identifiers ≠ j.identifiers ∧ ¬ j'.identifiers.SuitNext version.drawn)) ∧
    ∀ request e, Admitted signOn.application encoded request →
      checkChars ((signOn.echoed request version).flatMap String.toList) = .error e →
      (p.respond signOn version now encoded).result j' = .error (.serialization e.message) := by
  rw [p.respond_result signOn version now hp] at h
  rw [p.respond_result signOn version now hp]
  obtain ⟨hready, hsuit, document, ⟨result, id⟩, hsigned⟩ := ready_of_outcome h
  refine ⟨?_, fun request e ha he => hready.outcome_of_forbidden ha he⟩
  intro f hf
  rcases refused_or_admitted hf with hrefused | ⟨request, ha⟩
  · exact Or.inl ⟨hrefused, Failure.httpStatus_of_isRequesterFault hrefused⟩
  by_cases hids : j'.identifiers.SuitNext version.drawn
  · rcases hready.outcome_error hids ha hf with ⟨e, he, hserialization⟩ | ⟨hcannot, hsignature⟩
    · exact Or.inr (Or.inl ⟨request, e, ha, he, hserialization⟩)
    · refine Or.inr (Or.inr (Or.inl ⟨?_, hsignature⟩))
      intro hprimes
      exact hcannot (Signature.canSign_of_signed hsigned hprimes)
  · refine Or.inr (Or.inr (Or.inr ⟨?_, hids⟩))
    intro he
    rw [he] at hids
    exact hids hsuit

end Provider

namespace Sample

def forbiddenRequest : String :=
  "AToAxf88QXV0aG5SZXF1ZXN0IElEPSJhJiMxOyI+PElzc3Vlcj5zPC9Jc3N1ZXI+PC9BdXRoblJlcXVlc3Q+"

lemma admitted_forbiddenRequest : Admitted signOn.application forbiddenRequest
    { id := "a\x01", issuer := "s" } where
  read := by
    refine ⟨"<AuthnRequest ID=\"a&#1;\"><Issuer>s</Issuer></AuthnRequest>", ?_, ?_⟩
    · decide +kernel
    · decide +kernel
  allowed := by decide
  delivered := ⟨⟨"https://s/acs?a=1&b=2", .post⟩, by decide⟩

theorem respond_fault_forbidden :
    (∃ answer, (provider.respond signOn .saml20 now request).result journal = .ok answer) ∧
      (provider.respond signOn .saml20 now forbiddenRequest).result journal =
        .error (.serialization "character U+0001 is not allowed in XML 1.0") := by
  obtain ⟨answer, h⟩ := respond_isOk .saml20
  have hm : (Forbidden.mk '\x01').message = "character U+0001 is not allowed in XML 1.0" := by decide +kernel
  refine ⟨⟨answer, h⟩, ?_⟩
  rw [← hm]
  exact (Provider.respond_fault rfl h forbiddenRequest journal).2 _ _ admitted_forbiddenRequest (by decide +kernel)

end Sample

end IdentityProvider
