import IdentityProvider.Proofs.Answer
/-! An answer as a function of the identifiers that are drawn next: the log has no part in it. -/

namespace IdentityProvider

open Xml

def checkedTexts (texts : List String) : Except Failure Unit :=
  (checkChars (texts.flatMap String.toList)).mapError Signature.characterFailure

def validity (now : Instant) : Except Failure Validity :=
  match Validity.starting? now with
  | some v => .ok v
  | none => .error (.serialization "issue instant out of range")

def Identifiers.skip (ids : Identifiers) (n : Nat) : Identifiers :=
  { ids with drawn := ids.drawn + n }

def ProtocolVersion.drawn : ProtocolVersion → Nat
  | saml20 => 3
  | saml11 => 2

def Response.issued (r : Response) (now : Instant) (ids : Identifiers) : Except Failure Element :=
  if r.destination = "" then .error (.missingDestination ("no destination for response to " ++ r.requestId))
  else do
    let v ← validity now
    checkedTexts r.texts
    return r.document ids.current ids.advance.current ids.advance.advance.current v

def LegacyResponse.issued (r : LegacyResponse) (now : Instant) (ids : Identifiers) : Except Failure Element := do
  let v ← validity now
  checkedTexts r.texts
  return r.document ids.current ids.advance.current v

section Issuing

variable (ids : Identifiers)

lemma checkedTexts_cons (t : String) (texts : List String) : checkedTexts (t :: texts) =
    (checkChars t.toList).mapError Signature.characterFailure >>= fun _ => checkedTexts texts := by
  rw [checkedTexts, List.flatMap_cons, checkChars_append]
  cases checkChars t.toList <;> rfl

lemma checkedTexts_ok_iff {texts : List String} : checkedTexts texts = .ok () ↔
    ∀ t ∈ texts, isXmlText t = true := by
  rw [checkedTexts, mapError_ok_iff, checkChars_eq_ok_iff]
  constructor
  · intro h t ht
    rw [isXmlText, List.all_eq_true]
    intro c hc
    exact h c (List.mem_flatMap.mpr ⟨t, ht, hc⟩)
  · intro h c hc
    obtain ⟨t, ht, hct⟩ := List.mem_flatMap.mp hc
    exact List.all_eq_true.mp (h t ht) c hct

lemma validity_ok_iff {now : Instant} {v : Validity} : validity now = .ok v ↔ Validity.starting? now = some v := by
  rw [validity]
  cases Validity.starting? now <;> simp

lemma yields_checkTexts (texts : List String) : (checkTexts texts).Yields ids (checkedTexts texts) ids := by
  induction texts with
  | nil => exact Recorded.yields_pure () ids
  | cons t texts ih =>
    have hc : checkTexts (t :: texts) = (do
      Recorded.liftError Signature.characterFailure (checkChars t.toList)
      checkTexts texts) := rfl
    rw [hc, checkedTexts_cons]
    exact (Recorded.yields_liftError _ _ ids).bind fun _ _ => ih

lemma yields_validityFrom (now : Instant) : (validityFrom now).Yields ids (validity now) ids := by
  rw [validityFrom, validity]
  cases Validity.starting? now with
  | none => exact Recorded.yields_throw _ ids ids
  | some v => exact Recorded.yields_pure v ids

lemma Response.yields_issue (r : Response) (now : Instant) :
    (r.issue now).Yields ids (r.issued now ids) (ids.skip 3) := by
  rw [issue, issued]
  by_cases hd : r.destination = ""
  · rw [if_pos hd, if_pos hd]
    exact (Recorded.yields_throw _ ids ids).error_bind
  · rw [if_neg hd, if_neg hd]
    apply (yields_validityFrom ids now).bind
    intro v _
    apply (Recorded.yields_drawId ids).ok_bind
    apply (Recorded.yields_drawId ids.advance).ok_bind
    apply (Recorded.yields_drawId ids.advance.advance).ok_bind
    apply (yields_checkTexts _ r.texts).bind
    intro _ _
    exact Recorded.yields_pure _ _

lemma LegacyResponse.yields_issue (r : LegacyResponse) (now : Instant) :
    (r.issue now).Yields ids (r.issued now ids) (ids.skip 2) := by
  rw [issue, issued]
  apply (yields_validityFrom ids now).bind
  intro v _
  apply (Recorded.yields_drawId ids).ok_bind
  apply (Recorded.yields_drawId ids.advance).ok_bind
  apply (yields_checkTexts _ r.texts).bind
  intro _ _
  exact Recorded.yields_pure _ _

end Issuing

def decodedRequest (encoded : String) : Except Failure AuthnRequest := do
  let document ← decodeRequestDocument encoded
  (AuthnRequest.parse document).mapError fun e => .malformedRequest e.message

def encodedResponse (document : Element) (delivery : Delivery) (compressed : Bool) (deflate : Bytes → Bytes) :
    Except Failure EncodedResponse := do
  let written ← document.toXml.mapError Signature.characterFailure
  return ⟨encodePayload (Bytes.ofText written) compressed deflate, delivery, compressed⟩

lemma decodedRequest_ok_iff {encoded : String} {request : AuthnRequest} : decodedRequest encoded = .ok request ↔
    ∃ text, decodeRequestDocument encoded = .ok text ∧ AuthnRequest.parse text = .ok request := by
  simp only [decodedRequest, bind_ok_iff, mapError_ok_iff]

lemma encodedResponse_isOk {document : Element} (hw : document.IsWritable) (delivery : Delivery)
    (compressed : Bool) (deflate : Bytes → Bytes) :
    ∃ answer, encodedResponse document delivery compressed deflate = .ok answer := by
  rw [encodedResponse, toXml_ok_iff.mpr ⟨hw, rfl⟩]
  exact ⟨_, rfl⟩

lemma yields_decodeRequest (encoded : String) (ids : Identifiers) :
    (decodeRequest encoded).Yields ids (decodedRequest encoded) ids := by
  rw [decodeRequest, decodedRequest]
  have hd := Recorded.yields_liftError id (decodeRequestDocument encoded) ids
  rw [mapError_id] at hd
  apply hd.bind
  intro document _
  rw [← bind_pure ((AuthnRequest.parse document).mapError _)]
  apply (Recorded.yields_liftError _ _ ids).bind
  intro request _
  apply (Recorded.yields_log _ _ _ _).ok_bind
  exact Recorded.yields_pure request ids

lemma yields_encodeResponse (document : Element) (delivery : Delivery) (compressed : Bool)
    (deflate : Bytes → Bytes) (ids : Identifiers) :
    (encodeResponse document delivery compressed deflate).Yields ids
      (encodedResponse document delivery compressed deflate) ids := by
  rw [encodeResponse, encodedResponse]
  apply (Recorded.yields_liftError _ _ ids).bind
  intro written _
  apply (Recorded.yields_log _ _ _ _).ok_bind
  exact Recorded.yields_pure _ ids

lemma Signature.yields_sign (settings : SignatureSettings) (document : Element) (keys : KeyMaterial)
    (ids : Identifiers) :
    (sign settings document keys).Yields ids ((signed settings document keys).map Prod.fst) ids := by
  rw [sign]
  cases signed settings document keys with
  | ok pair =>
    apply (Recorded.yields_log _ _ _ _).ok_bind
    exact Recorded.yields_pure pair.1 ids
  | error e =>
    apply (Recorded.yields_log _ _ _ _).ok_bind
    exact Recorded.yields_throw e ids ids

namespace Provider

variable (p : Provider) (signOn : SignOn) (version : ProtocolVersion) (now : Instant) (ids : Identifiers)

def issued (request : AuthnRequest) (destination : String) : Except Failure Element :=
  match version with
  | .saml20 => (p.response signOn request destination).issued now ids
  | .saml11 => (p.legacyResponse signOn request).issued now ids

def outcome (settings : SignatureSettings) (encoded : String) : Except Failure EncodedResponse := do
  let request ← decodedRequest encoded
  checkIssuer signOn.application request
  let delivery ← resolveDelivery signOn.application request
  let document ← p.issued signOn version now ids request delivery.destination
  let signed ← (Signature.signed settings document signOn.keys).map Prod.fst
  encodedResponse signed delivery signOn.application.compressionEnabled p.deflate

lemma yields_issue (request : AuthnRequest) (destination : String) :
    (p.issue signOn version now request destination).Yields ids
      (p.issued signOn version now ids request destination) (ids.skip version.drawn) := by
  cases version with
  | saml20 => exact Response.yields_issue ids (p.response signOn request destination) now
  | saml11 => exact LegacyResponse.yields_issue ids (p.legacyResponse signOn request) now

theorem yields_respond {settings : SignatureSettings} (hs : p.signer = Signature.sign settings)
    (encoded : String) :
    (p.respond signOn version now encoded).Yields ids (p.outcome signOn version now ids settings encoded)
      (ids.skip version.drawn) := by
  rw [respond, outcome]
  apply (yields_decodeRequest encoded ids).bind
  intro request _
  have hallow := Recorded.yields_liftError id (checkIssuer signOn.application request) ids
  rw [mapError_id] at hallow
  apply (hallow.onFailure _ _ _).bind
  intro _ _
  apply (Recorded.yields_log _ _ _ _).ok_bind
  have hdeliver := Recorded.yields_liftError id (resolveDelivery signOn.application request) ids
  rw [mapError_id] at hdeliver
  apply (hdeliver.onFailure _ _ _).bind
  intro delivery _
  apply (Recorded.yields_log _ _ _ _).ok_bind
  apply ((p.yields_issue signOn version now ids request delivery.destination).onFailure _ _ _).bind
  intro document _
  apply (Recorded.yields_log _ _ _ _).ok_bind
  rw [hs]
  apply ((Signature.yields_sign settings document signOn.keys _).onFailure _ _ _).bind
  intro signed _
  apply (Recorded.yields_log _ _ _ _).ok_bind
  exact (yields_encodeResponse signed delivery _ _ _).onFailure _ _ _

lemma respond_result {settings : SignatureSettings} (hs : p.signer = Signature.sign settings) (encoded : String)
    (j : Journal) :
    (p.respond signOn version now encoded).result j =
      p.outcome signOn version now j.identifiers settings encoded :=
  (p.yields_respond signOn version now j.identifiers hs encoded j rfl).1

end Provider

end IdentityProvider
