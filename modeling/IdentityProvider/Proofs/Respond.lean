import IdentityProvider.Proofs.Pipeline
import IdentityProvider.Proofs.Signature.Success

namespace IdentityProvider

open Xml

lemma decodeRequest_succeeds {encoded text : String} {request : AuthnRequest}
    (hd : decodeRequestDocument encoded = .ok text) (hp : AuthnRequest.parse text = .ok request) (j : Journal) :
    (decodeRequest encoded).Succeeds j fun r => r = request := by
  rw [decodeRequest]
  apply (Recorded.succeeds_liftError hd j).bind
  rintro _ j₁ rfl _
  apply (Recorded.succeeds_liftError hp j₁).bind
  rintro _ j₂ rfl _
  apply (Recorded.succeeds_log _ _ _ j₂).bind
  intro _ j₃ _ _
  exact Recorded.succeeds_pure _ j₃

lemma destination_of_resolveDelivery {app : Application} {request : AuthnRequest} {delivery : Delivery}
    (h : resolveDelivery app request = .ok delivery) :
    app.replyUrl?.or request.consumerUrl? = some delivery.destination := by
  rw [resolveDelivery] at h
  split at h
  · rename_i url _ hu
    cases h
    rw [hu, Option.some_or]
  · rename_i url hn hu
    cases h
    rw [hn, hu, Option.none_or]
  · cases h

lemma resolveDelivery_ok {app : Application} {request : AuthnRequest} {delivery : Delivery}
    (h : resolveDelivery app request = .ok delivery) : delivery.destination ≠ "" := by
  rcases Option.or_eq_some_iff.mp (destination_of_resolveDelivery h) with hu | ⟨_, hu⟩
  · simpa using (Option.filter_eq_some_iff.mp hu).2
  · simpa using (Option.filter_eq_some_iff.mp hu).2

lemma referenceId_of_ID {document : Element} {id : String} (hid : id ≠ "")
    (h : document.attribute? "ID" = some id) :
    Signature.referenceId document = .ok id := by
  rw [Signature.referenceId, h, Option.some_or, Option.filter_some, if_pos (by simpa using hid)]

section Concluding

variable {settings : SignatureSettings} {document : Element} {keys : KeyMaterial}

lemma concluded_isOk_iff (delivery : Delivery) (compressed : Bool) (deflate : Bytes → Bytes) : (∃ answer, (do
      let signed ← (Signature.signed settings document keys).map Prod.fst
      encodedResponse signed delivery compressed deflate) = .ok answer) ↔
    ∃ result, Signature.signed settings document keys = .ok result := by
  constructor
  · rintro ⟨_, h⟩
    obtain ⟨_, hsigned, _⟩ := bind_ok_iff.mp h
    obtain ⟨result, hs, _⟩ := map_ok_iff.mp hsigned
    exact ⟨result, hs⟩
  · rintro ⟨⟨result, id⟩, hs⟩
    obtain ⟨answer, hanswer⟩ := encodedResponse_isOk (Signature.signed_isWritable hs) delivery compressed deflate
    exact ⟨answer, bind_ok_iff.mpr ⟨result, map_ok_iff.mpr ⟨_, hs, rfl⟩, hanswer⟩⟩

lemma concluded_error {delivery : Delivery} {compressed : Bool} {deflate : Bytes → Bytes} {f : Failure} (h : (do
      let signed ← (Signature.signed settings document keys).map Prod.fst
      encodedResponse signed delivery compressed deflate) = .error f) :
    Signature.signed settings document keys = .error f := by
  rcases bind_error_iff.mp h with hsigned | ⟨_, hsigned, hencoded⟩
  · exact map_error_iff.mp hsigned
  · obtain ⟨⟨result, id⟩, hs, rfl⟩ := map_ok_iff.mp hsigned
    obtain ⟨answer, hanswer⟩ := encodedResponse_isOk (Signature.signed_isWritable hs) delivery compressed deflate
    rw [hanswer] at hencoded
    cases hencoded

end Concluding

lemma legacyAttributes_forall {P : String → Prop} (h : ∀ name ∈ Principal.profileNames, P name)
    (principal : Principal) : ∀ field ∈ principal.legacyAttributes, P field.1 := by
  intro field hf
  apply h
  rw [← Principal.profile_names principal]
  exact List.mem_map_of_mem (List.mem_of_mem_filter hf)

namespace Provider

variable {p : Provider} {signOn : SignOn} {version : ProtocolVersion} {now : Instant}

def texts (p : Provider) (signOn : SignOn) (request : AuthnRequest) (destination : String) :
    ProtocolVersion → List String
  | .saml20 => (p.response signOn request destination).texts
  | .saml11 => (p.legacyResponse signOn request).texts

section Issuing

variable {ids : Identifiers} {request : AuthnRequest} {destination : String} {document : Element}

lemma Issues.issued_eq (h : Issues p signOn now request destination ids version document) :
    p.issued signOn version now ids request destination =
      checkedTexts (p.texts signOn request destination version) >>= fun _ => .ok document := by
  cases h with
  | response hd hv =>
    have hd' : (p.response signOn request destination).destination ≠ "" := hd
    rw [issued, Response.issued, if_neg hd', validity_ok_iff.mpr hv]
    rfl
  | legacy hv =>
    rw [issued, LegacyResponse.issued, validity_ok_iff.mpr hv]
    rfl

lemma issued_of_invalid {f : Failure} (hd : destination ≠ "") (hv : validity now = .error f) :
    p.issued signOn version now ids request destination = .error f := by
  cases version with
  | saml20 =>
    have hd' : (p.response signOn request destination).destination ≠ "" := hd
    rw [issued, Response.issued, if_neg hd', hv]
    rfl
  | saml11 =>
    rw [issued, LegacyResponse.issued, hv]
    rfl

lemma exists_issues {v : Validity} (version : ProtocolVersion) (ids : Identifiers) (hd : destination ≠ "")
    (hv : Validity.starting? now = some v) :
    ∃ document, Issues p signOn now request destination ids version document := by
  cases version with
  | saml20 => exact ⟨_, .response hd hv⟩
  | saml11 => exact ⟨_, .legacy hv⟩

lemma Issues.reference (h : Issues p signOn now request destination ids version document) :
    (document.attribute? "ID").or (document.attribute? "ResponseID") = some ids.current := by
  cases h with
  | response => rfl
  | legacy => rfl

lemma Issues.referenceId_eq (h : Issues p signOn now request destination ids version document)
    (hids : ids.current ≠ "") :
    Signature.referenceId document = .ok ids.current := by
  rw [Signature.referenceId_ok_iff, h.reference, Option.filter_some, if_pos (by simpa using hids)]

lemma Issues.isWritable (h : Issues p signOn now request destination ids version document)
    (ht : ∀ t ∈ p.texts signOn request destination version, isXmlText t = true)
    (hids : ids.SuitNext version.drawn) :
    document.IsWritable := by
  cases h with
  | @response v _ hv =>
    have hwindow := Validity.isXmlText hv
    apply Response.document_isWritable ht
    simp only [List.forall_mem_cons]
    exact ⟨hids.written 0 (by decide), hids.written 1 (by decide), hids.written 2 (by decide), hwindow.1,
      hwindow.2, nofun⟩
  | @legacy v hv =>
    have hnames := legacyAttributes_forall (P := fun name => isXmlText name = true)
      (by decide +kernel) signOn.principal
    have hwindow := Validity.isXmlText hv
    apply LegacyResponse.document_isWritable hnames ht
    simp only [List.forall_mem_cons]
    exact ⟨hids.written 0 (by decide), hids.written 1 (by decide), hwindow.1, hwindow.2, nofun⟩

end Issuing

lemma outcome_admitted {settings : SignatureSettings} {encoded : String} {request : AuthnRequest}
    {delivery : Delivery} {ids : Identifiers} (hd : decodedRequest encoded = .ok request)
    (hi : request.issuer ∈ signOn.application.redirectUris)
    (hr : resolveDelivery signOn.application request = .ok delivery) :
    p.outcome signOn version now ids settings encoded = (do
      let document ← p.issued signOn version now ids request delivery.destination
      let signed ← (Signature.signed settings document signOn.keys).map Prod.fst
      encodedResponse signed delivery signOn.application.compressionEnabled p.deflate) := by
  rw [outcome, hd]
  simp only [bind, Except.bind, checkIssuer_eq_ok_iff.mpr hi, hr]

theorem respond_isOk {settings : SignatureSettings} {encoded text : String} {request : AuthnRequest}
    {delivery : Delivery} {v : Validity} {j : Journal} (hp : p.signer = Signature.sign settings)
    (hk : Signature.CanSign settings signOn.keys) (hids : j.identifiers.SuitNext version.drawn)
    (hdecode : decodeRequestDocument encoded = .ok text) (hparse : AuthnRequest.parse text = .ok request)
    (hallow : request.issuer ∈ signOn.application.redirectUris)
    (hdeliver : resolveDelivery signOn.application request = .ok delivery)
    (hv : Validity.starting? now = some v)
    (ht : ∀ t ∈ p.texts signOn request delivery.destination version, isXmlText t = true) :
    ∃ answer, (p.respond signOn version now encoded).result j = .ok answer := by
  rw [p.respond_result signOn version now hp]
  obtain ⟨document, hissues⟩ := exists_issues version j.identifiers (resolveDelivery_ok hdeliver) hv
  obtain ⟨signed, hsigned⟩ :=
    Signature.signed_isOk hk (hissues.referenceId_eq hids.nonempty) (hissues.isWritable ht hids)
  rw [outcome_admitted (decodedRequest_ok_iff.mpr ⟨text, hdecode, hparse⟩) hallow hdeliver, hissues.issued_eq,
    checkedTexts_ok_iff.mpr ht]
  exact (concluded_isOk_iff _ _ _).mpr ⟨_, hsigned⟩

end Provider

namespace Sample

def request : String :=
  "ATYAyf88QXV0aG5SZXF1ZXN0IElEPSJxIj48SXNzdWVyPnM8L0lzc3Vlcj48L0F1dGhuUmVxdWVzdD4="

def signOn : SignOn where
  application :=
    { redirectUris := ["s", "t", "s"], replyUrlField := some "https://s/acs?a=1&b=2", compressionEnabled := true }
  principal :=
    { name := "a\rb", email := "a@b", displayName := "A & \"B\"", roles := ["x", "y"], permissions := ["x"] }
  keys := RsaPrivateKey.sample.material [0]
  host := "idp.s"

def provider : Provider :=
  Provider.ofConfig {}

def journal : Journal where
  identifiers := .sequential Identifiers.defaultStem

def now : Instant where
  seconds := 0

lemma decodeRequestDocument_request :
    decodeRequestDocument request = .ok "<AuthnRequest ID=\"q\"><Issuer>s</Issuer></AuthnRequest>" := by
  decide +kernel

lemma parse_request : AuthnRequest.parse "<AuthnRequest ID=\"q\"><Issuer>s</Issuer></AuthnRequest>" =
    .ok { id := "q", issuer := "s" } := by
  decide +kernel

lemma respond_isOk_as {principal : Principal} {certificate : Bytes} (hc : certificate ≠ [])
    {version : ProtocolVersion}
    (ht : ∀ t ∈ provider.texts { signOn with principal } { id := "q", issuer := "s" } "https://s/acs?a=1&b=2"
      version, isXmlText t = true)
    {j : Journal} (hids : j.identifiers.SuitNext version.drawn) :
    ∃ answer, (provider.respond { signOn with principal, keys := RsaPrivateKey.sample.material certificate }
      version now request).result j = .ok answer := by
  have hk : Signature.CanSign {} (RsaPrivateKey.sample.material certificate) :=
    RsaPrivateKey.canSign_material RsaPrivateKey.sample_signsAll hc {}
  have hdeliver : resolveDelivery signOn.application { id := "q", issuer := "s" } =
      .ok ⟨"https://s/acs?a=1&b=2", .post⟩ := by
    decide
  have hallow : "s" ∈ signOn.application.redirectUris := by decide
  exact Provider.respond_isOk rfl hk hids decodeRequestDocument_request parse_request hallow hdeliver rfl ht

lemma respond_isOk_of_suitNext {version : ProtocolVersion} {j : Journal}
    (hids : j.identifiers.SuitNext version.drawn) :
    ∃ answer, (provider.respond signOn version now request).result j = .ok answer := by
  have ht : ∀ t ∈ provider.texts signOn { id := "q", issuer := "s" } "https://s/acs?a=1&b=2" version,
      isXmlText t = true := by
    cases version <;> decide +kernel
  exact respond_isOk_as (by decide) ht hids

theorem respond_isOk (version : ProtocolVersion) :
    ∃ answer, (provider.respond signOn version now request).result journal = .ok answer := by
  have hids : journal.identifiers.Suit := Identifiers.sequential_suit (by decide) (by decide)
  exact respond_isOk_of_suitNext (hids.next version.drawn)

end Sample

end IdentityProvider
