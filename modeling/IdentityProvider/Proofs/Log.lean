import IdentityProvider.Proofs.Fault
/-! What an answer logs, told from the request, the application and the way the answer ends. -/

namespace IdentityProvider

open Xml

namespace Recorded

def Logs {α : Type} (steps : Recorded α) (ids : Identifiers) (events : List Event) : Prop :=
  ∀ j, j.identifiers = ids → (steps.run.run j).2.events = j.events ++ events

def Silent {α : Type} (steps : Recorded α) : Prop :=
  ∀ ids, steps.Logs ids []

variable {α β ε : Type} {x : Recorded α} {f : α → Recorded β} {ids ids₁ : Identifiers} {es : List Event}

lemma silent_pure (a : α) : (pure a : Recorded α).Silent := fun _ j _ => (List.append_nil j.events).symm

lemma silent_throw (e : Failure) : (throw e : Recorded α).Silent := fun _ j _ => (List.append_nil j.events).symm

lemma silent_drawId : drawId.Silent := fun _ j _ => (List.append_nil j.events).symm

lemma silent_liftError (g : ε → Failure) (r : Except ε α) : (liftError g r).Silent := by
  cases r with
  | ok a => exact silent_pure a
  | error e => exact silent_throw (g e)

lemma logs_log (level : Level) (message : String) (fields : List (String × String)) (ids : Identifiers) :
    (log level message fields).Logs ids [⟨level, message, fields⟩] := fun _ _ => rfl

lemma Silent.bind (hx : x.Silent) (hf : ∀ a, (f a).Silent) : (x >>= f).Silent := by
  intro ids j hj
  have hxj := hx ids j hj
  rw [List.append_nil] at hxj ⊢
  cases hr : x.run.run j with
  | mk r j₁ =>
    rw [hr] at hxj
    cases r with
    | error e =>
      rw [run_bind_error hr]
      exact hxj
    | ok a =>
      rw [run_bind_ok hr, hf a j₁.identifiers j₁ rfl, List.append_nil]
      exact hxj

lemma silent_throw_bind (e : Failure) : ((throw e : Recorded α) >>= f).Silent :=
  fun _ j _ => (List.append_nil j.events).symm

def branch (outcome : Except Failure α) (failed : Failure → List Event) (passed : α → List Event) : List Event :=
  match outcome with
  | .ok a => passed a
  | .error e => failed e

lemma branch_bind {γ : Type} (y : Except Failure γ) (g : γ → Except Failure α) (failed : Failure → List Event)
    (passed : α → List Event) :
    branch (y >>= g) failed passed = branch y failed fun c => branch (g c) failed passed := by
  cases y <;> rfl

lemma Silent.logs (hx : x.Silent) (outcome : Except Failure α) (ids : Identifiers) :
    x.Logs ids (branch outcome (fun _ => []) fun _ => []) := by
  cases outcome <;> exact hx ids

lemma Logs.bind {outcome : Except Failure α} {failed : Failure → List Event} {passed next : α → List Event}
    (hx : x.Logs ids (branch outcome failed passed)) (hy : x.Yields ids outcome ids₁)
    (hf : ∀ a, outcome = .ok a → (f a).Logs ids₁ (next a)) :
    (x >>= f).Logs ids (branch outcome failed fun a => passed a ++ next a) := by
  intro j hj
  obtain ⟨hr, hids⟩ := hy j hj
  have hxj := hx j hj
  cases outcome with
  | error e =>
    have hrun : x.run.run j = (.error e, (x.run.run j).2) := Prod.ext hr rfl
    rw [run_bind_error hrun]
    exact hxj
  | ok a =>
    obtain ⟨j₁, ha⟩ := result_ok_iff.mp hr
    rw [ha] at hxj
    rw [run_bind_ok ha, hf a rfl j₁ (hids a j₁ ha), hxj]
    exact List.append_assoc _ _ _

lemma Logs.log_bind {level : Level} {message : String} {fields : List (String × String)} {next : Unit → Recorded β}
    (h : (next ()).Logs ids es) : (log level message fields >>= next).Logs ids
    (⟨level, message, fields⟩ :: es) := by
  have hl : (log level message fields).Logs ids
    (branch (.ok ()) (fun _ => []) fun _ => [⟨level, message, fields⟩]) :=
    logs_log level message fields ids
  exact hl.bind (yields_log level message fields ids) fun _ _ => h

lemma Logs.onFailure {outcome : Except Failure α} {failed : Failure → List Event} {passed : α → List Event}
    (hx : x.Logs ids (branch outcome failed passed)) (hy : x.Yields ids outcome ids₁) (level : Level)
    (message : String) (fields : Failure → List (String × String)) :
    (x.onFailure fun e => log level message (fields e)).Logs ids
      (branch outcome (fun e => failed e ++ [⟨level, message, fields e⟩]) passed) := by
  have hc : Logs (ExceptT.tryCatch x fun e => do log level message (fields e); throw e) ids
      (branch outcome (fun e => failed e ++ [⟨level, message, fields e⟩]) passed) := by
    intro j hj
    have hs : StateT.run x j = (outcome, (x.run.run j).2) := Prod.ext (hy j hj).1 rfl
    have hxj := hx j hj
    rw [ExceptT.tryCatch, ExceptT.run_mk, StateT.run_bind, hs]
    cases outcome with
    | ok a => exact hxj
    | error e =>
      change (x.run.run j).2.events ++ [⟨level, message, fields e⟩] = _
      rw [hxj]
      exact List.append_assoc _ _ _
  exact hc

end Recorded

open Recorded

lemma silent_checkTexts (texts : List String) : (checkTexts texts).Silent := by
  induction texts with
  | nil => exact silent_pure ()
  | cons t texts ih => exact (silent_liftError _ (checkChars t.toList)).bind fun _ => ih

lemma silent_validityFrom (now : Instant) : (validityFrom now).Silent := by
  rw [validityFrom]
  cases Validity.starting? now with
  | none => exact silent_throw _
  | some v => exact silent_pure v

lemma Response.silent_issue (r : Response) (now : Instant) : (r.issue now).Silent := by
  rw [issue]
  split
  · exact silent_throw_bind _
  · apply (silent_validityFrom now).bind
    intro v
    apply silent_drawId.bind
    intro id
    apply silent_drawId.bind
    intro assertionId
    apply silent_drawId.bind
    intro sessionIndex
    exact (silent_checkTexts r.texts).bind fun _ => silent_pure _

lemma LegacyResponse.silent_issue (r : LegacyResponse) (now : Instant) : (r.issue now).Silent := by
  rw [issue]
  apply (silent_validityFrom now).bind
  intro v
  apply silent_drawId.bind
  intro id
  apply silent_drawId.bind
  intro assertionId
  exact (silent_checkTexts r.texts).bind fun _ => silent_pure _

lemma Provider.silent_issue (p : Provider) (signOn : SignOn) (version : ProtocolVersion) (now : Instant)
    (request : AuthnRequest) (destination : String) : (p.issue signOn version now request destination).Silent := by
  cases version with
  | saml20 => exact Response.silent_issue (p.response signOn request destination) now
  | saml11 => exact LegacyResponse.silent_issue (p.legacyResponse signOn request) now

inductive Stage where
  | decoding
  | admission
  | delivery
  | building
  | signing
  | encoding
deriving Repr, DecidableEq

section Events

variable (request : AuthnRequest) (delivery : Delivery) (version : ProtocolVersion) (digest : DigestAlgorithm)
  (reference : String)

def decodedEvent : Event :=
  ⟨.debug, "decoded AuthnRequest", [("request_id", request.id), ("issuer", request.issuer)]⟩

def buildFailureEvent (text : String) : Event :=
  ⟨.error, "failed to build response", [("request_id", request.id), ("version", version.name), ("error", text)]⟩

def builtEvent : Event :=
  ⟨.debug, "response built", [("request_id", request.id), ("version", version.name)]⟩

def signFailureEvents (text : String) : List Event :=
  [⟨.error, "failed to sign document", [("error", text)]⟩,
    ⟨.error, "failed to sign response", [("request_id", request.id), ("error", text)]⟩]

def signedEvents : List Event :=
  [⟨.debug, "document signed", [("reference", reference), ("digest", digest.name)]⟩,
    ⟨.debug, "response signed", [("request_id", request.id)]⟩]

def encodeFailureEvent (text : String) : Event :=
  ⟨.error, "failed to encode response", [("request_id", request.id), ("error", text)]⟩

def encodedEvent (compressed : Bool) (size : Nat) : Event :=
  ⟨.debug, "encoded response",
    [("destination", delivery.destination), ("method", delivery.method.name), ("compressed", boolText compressed),
      ("size", toString size)]⟩

def openingEvents (app : Application) (encoded : String) (closing : AuthnRequest → Delivery → List Event) :
    List Event :=
  branch (decodedRequest encoded) (fun _ => []) fun request =>
    let about := [("request_id", request.id)]
    let parties := about ++ [("issuer", request.issuer)]
    decodedEvent request ::
      branch (checkIssuer app request) (fun _ => [⟨.warn, "issuer rejected", parties⟩]) fun _ =>
        ⟨.debug, "issuer validated", parties⟩ ::
          branch (resolveDelivery app request) (fun _ => [⟨.warn, "no destination for response", about⟩])
            fun delivery =>
              ⟨.debug, "destination resolved",
                about ++ [("destination", delivery.destination), ("method", delivery.method.name)]⟩ ::
                closing request delivery

def eventsOfEnding (compressed : Bool) : Except (Stage × String) Nat → List Event
  | .error (.building, text) => [buildFailureEvent request version text]
  | .error (.signing, text) => builtEvent request version :: signFailureEvents request text
  | .error (_, text) =>
    builtEvent request version :: signedEvents request digest reference ++ [encodeFailureEvent request text]
  | .ok size =>
    builtEvent request version :: signedEvents request digest reference ++ [encodedEvent delivery compressed size]

def transcript (app : Application) (encoded : String) (ending : Except (Stage × String) Nat) : List Event :=
  openingEvents app encoded fun request delivery =>
    eventsOfEnding request delivery version digest reference app.compressionEnabled ending

end Events

lemma logs_decodeRequest (encoded : String) (ids : Identifiers) :
    (decodeRequest encoded).Logs ids
      (branch (decodedRequest encoded) (fun _ => []) fun request => [decodedEvent request]) := by
  have hd := yields_liftError id (decodeRequestDocument encoded) ids
  rw [mapError_id] at hd
  rw [decodeRequest, decodedRequest, branch_bind]
  apply ((silent_liftError _ _).logs _ ids).bind hd
  intro document _
  apply ((silent_liftError _ _).logs _ ids).bind (yields_liftError _ _ ids)
  intro request _
  exact (silent_pure request ids).log_bind

lemma Signature.logs_sign {settings : SignatureSettings} {document : Element} {keys : KeyMaterial}
    {reference : String} (h : ∀ id, referenceId document = .ok id → id = reference) (ids : Identifiers) :
    (sign settings document keys).Logs ids
      (branch ((signed settings document keys).map Prod.fst)
        (fun e => [⟨.error, "failed to sign document", [("error", e.message)]⟩])
        fun _ => [⟨.debug, "document signed", [("reference", reference), ("digest", settings.digest.name)]⟩]) := by
  rw [sign]
  cases hs : signed settings document keys with
  | error e => exact (silent_throw e ids).log_bind
  | ok pair =>
    obtain ⟨result, id⟩ := pair
    rw [← h id (signed_ok hs).1]
    exact (silent_pure result ids).log_bind

lemma logs_encodeResponse (document : Element) (delivery : Delivery) (compressed : Bool) (deflate : Bytes → Bytes)
    (ids : Identifiers) : (encodeResponse document delivery compressed deflate).Logs ids
      (branch (encodedResponse document delivery compressed deflate) (fun _ => [])
        fun answer => [encodedEvent delivery compressed answer.payload.utf8ByteSize]) := by
  rw [encodeResponse, encodedResponse, branch_bind]
  apply ((silent_liftError _ _).logs _ ids).bind (yields_liftError _ _ ids)
  intro written _
  exact (silent_pure _ ids).log_bind

def Stage.mark {α : Type} (s : Stage) (x : Except Failure α) : Except (Stage × Failure) α :=
  x.mapError fun f => (s, f)

lemma Stage.mark_failure {α : Type} (s : Stage) (x : Except Failure α) : (s.mark x).mapError Prod.snd = x := by
  cases x <;> rfl

def ending (answer : Except (Stage × Failure) EncodedResponse) : Except (Stage × String) Nat :=
  (answer.mapError fun f => (f.1, f.2.message)).map fun response => response.payload.utf8ByteSize

namespace Provider

variable (p : Provider) (signOn : SignOn) (version : ProtocolVersion) (now : Instant) (ids : Identifiers)
  (settings : SignatureSettings)

def closing (request : AuthnRequest) (delivery : Delivery) : Except (Stage × Failure) EncodedResponse := do
  let document ← Stage.building.mark (p.issued signOn version now ids request delivery.destination)
  let signed ← Stage.signing.mark ((Signature.signed settings document signOn.keys).map Prod.fst)
  Stage.encoding.mark (encodedResponse signed delivery signOn.application.compressionEnabled p.deflate)

def staged (encoded : String) : Except (Stage × Failure) EncodedResponse := do
  let request ← Stage.decoding.mark (decodedRequest encoded)
  Stage.admission.mark (checkIssuer signOn.application request)
  let delivery ← Stage.delivery.mark (resolveDelivery signOn.application request)
  p.closing signOn version now ids settings request delivery

def closingEvents (request : AuthnRequest) (delivery : Delivery) : List Event :=
  branch (p.issued signOn version now ids request delivery.destination)
    (fun e => [buildFailureEvent request version e.message]) fun document =>
      builtEvent request version ::
        branch ((Signature.signed settings document signOn.keys).map Prod.fst)
          (fun e => signFailureEvents request e.message) fun signed =>
            signedEvents request settings.digest ids.current ++
              branch (encodedResponse signed delivery signOn.application.compressionEnabled p.deflate)
                (fun e => [encodeFailureEvent request e.message]) fun answer =>
                  [encodedEvent delivery signOn.application.compressionEnabled answer.payload.utf8ByteSize]

lemma closingEvents_eq (request : AuthnRequest) (delivery : Delivery) :
    p.closingEvents signOn version now ids settings request delivery =
      eventsOfEnding request delivery version settings.digest ids.current signOn.application.compressionEnabled
        (ending (p.closing signOn version now ids settings request delivery)) := by
  rw [closingEvents, closing]
  cases p.issued signOn version now ids request delivery.destination with
  | error e => rfl
  | ok document =>
    cases hs : (Signature.signed settings document signOn.keys).map Prod.fst with
    | error e =>
      simp only [branch, bind, Except.bind, Stage.mark, Except.mapError, hs]
      rfl
    | ok signed =>
      cases he : encodedResponse signed delivery signOn.application.compressionEnabled p.deflate <;>
        simp only [branch, bind, Except.bind, Stage.mark, Except.mapError, hs, he] <;>
        rfl

lemma transcript_eq (encoded : String) :
    openingEvents signOn.application encoded (p.closingEvents signOn version now ids settings) =
      transcript version settings.digest ids.current signOn.application encoded
        (ending (p.staged signOn version now ids settings encoded)) := by
  rw [transcript, staged, openingEvents, openingEvents]
  cases hd : decodedRequest encoded with
  | error e => rfl
  | ok request =>
    cases hi : checkIssuer signOn.application request with
    | error e => simp only [branch, hi]
    | ok _ =>
      cases hr : resolveDelivery signOn.application request with
      | error e => simp only [branch, hi, hr]
      | ok delivery => simp only [branch, bind, Except.bind, Stage.mark, Except.mapError, hi, hr, closingEvents_eq]

theorem logs_respond {settings : SignatureSettings} (hs : p.signer = Signature.sign settings) (encoded : String) :
    (p.respond signOn version now encoded).Logs ids
      (transcript version settings.digest ids.current signOn.application encoded
        (ending (p.staged signOn version now ids settings encoded))) := by
  rw [← transcript_eq, respond, openingEvents]
  apply (logs_decodeRequest encoded ids).bind (yields_decodeRequest encoded ids)
  intro request _
  have hallow := yields_liftError id (checkIssuer signOn.application request) ids
  rw [mapError_id] at hallow
  apply (((silent_liftError _ _).logs _ ids).onFailure hallow _ _ _).bind (hallow.onFailure _ _ _)
  intro _ _
  apply Logs.log_bind
  have hdeliver := yields_liftError id (resolveDelivery signOn.application request) ids
  rw [mapError_id] at hdeliver
  apply (((silent_liftError _ _).logs _ ids).onFailure hdeliver _ _ _).bind (hdeliver.onFailure _ _ _)
  intro delivery _
  apply Logs.log_bind
  have hissue := p.yields_issue signOn version now ids request delivery.destination
  apply (((p.silent_issue _ _ _ _ _).logs _ ids).onFailure hissue _ _ _).bind (hissue.onFailure _ _ _)
  intro document hdocument
  apply Logs.log_bind
  have hreference : ∀ id, Signature.referenceId document = .ok id → id = ids.current := by
    intro id hid
    have hissued := (issued_ok hdocument).1.reference
    rw [Signature.referenceId_ok_iff, hissued] at hid
    exact (Option.some.inj (Option.filter_eq_some_iff.mp hid).1).symm
  have hsign := Signature.yields_sign settings document signOn.keys (ids.skip version.drawn)
  rw [hs]
  apply ((Signature.logs_sign hreference _).onFailure hsign _ _ _).bind (hsign.onFailure _ _ _)
  intro signed _
  apply Logs.log_bind
  exact (logs_encodeResponse signed delivery _ _ _).onFailure (yields_encodeResponse signed delivery _ _ _) _ _ _

lemma outcome_eq_staged (encoded : String) :
    p.outcome signOn version now ids settings encoded =
      (p.staged signOn version now ids settings encoded).mapError Prod.snd := by
  simp only [staged, closing, outcome, mapError_bind, Stage.mark_failure]

def failedStage? (encoded : String) : Option Stage :=
  match p.staged signOn version now ids settings encoded with
  | .ok _ => none
  | .error f => some f.1

end Provider

def Recorded.emitted {α : Type} (steps : Recorded α) (j : Journal) : List Event :=
  (steps.run.run j).2.events.drop j.events.length

lemma Recorded.Logs.emitted_eq {α : Type} {steps : Recorded α} {ids : Identifiers} {es : List Event}
    (h : steps.Logs ids es) {j : Journal} (hj : j.identifiers = ids) : steps.emitted j = es := by
  rw [emitted, h j hj, List.drop_left]

def Event.withoutSize (e : Event) : Event :=
  if e.message = "encoded response" then
    { e with fields := e.fields.map fun field => if field.1 = "size" then (field.1, "") else field }
  else e

lemma encodedEvent_withoutSize (delivery : Delivery) (compressed : Bool) (m n : Nat) :
    (encodedEvent delivery compressed m).withoutSize = (encodedEvent delivery compressed n).withoutSize := by
  simp [encodedEvent, Event.withoutSize]

lemma transcript_withoutSize (version : ProtocolVersion) (digest : DigestAlgorithm) (reference : String)
    (app : Application) (encoded : String) (m n : Nat) :
    (transcript version digest reference app encoded (.ok m)).map Event.withoutSize =
      (transcript version digest reference app encoded (.ok n)).map Event.withoutSize := by
  rw [transcript, transcript, openingEvents, openingEvents]
  cases decodedRequest encoded with
  | error e => rfl
  | ok request =>
    cases hi : checkIssuer app request with
    | error e => simp only [branch, hi]
    | ok _ =>
      cases hr : resolveDelivery app request with
      | error e => simp only [branch, hi, hr]
      | ok delivery =>
        simp only [branch, hi, hr, eventsOfEnding, List.map_cons, List.map_append,
          encodedEvent_withoutSize delivery app.compressionEnabled m n]

/-- Answers for one application that begin with the same identifiers log the same, whoever signs on and whatever
the keys are, but for the size of the payload, or for the text of the failure and the stage that it comes from.
-/
theorem Provider.respond_log_public {p : Provider} {settings : SignatureSettings}
    (hs : p.signer = Signature.sign settings) {first second : SignOn} (ha : first.application = second.application)
    {j k : Journal} (hids : j.identifiers = k.identifiers) (version : ProtocolVersion) (now : Instant)
    (encoded : String) :
    (∀ a b, (p.respond first version now encoded).result j = .ok a →
      (p.respond second version now encoded).result k = .ok b →
      ((p.respond first version now encoded).emitted j).map Event.withoutSize =
        ((p.respond second version now encoded).emitted k).map Event.withoutSize) ∧
    ∀ e f, (p.respond first version now encoded).result j = .error e →
      (p.respond second version now encoded).result k = .error f → e.message = f.message →
      p.failedStage? first version now j.identifiers settings encoded =
        p.failedStage? second version now k.identifiers settings encoded →
      (p.respond first version now encoded).emitted j = (p.respond second version now encoded).emitted k := by
  have hfirst := (p.logs_respond first version now j.identifiers hs encoded).emitted_eq rfl
  have hsecond := (p.logs_respond second version now k.identifiers hs encoded).emitted_eq rfl
  rw [hfirst, hsecond, p.respond_result first version now hs, p.respond_result second version now hs,
    p.outcome_eq_staged, p.outcome_eq_staged, failedStage?, failedStage?, ha, hids]
  cases p.staged first version now k.identifiers settings encoded with
  | ok a =>
    refine ⟨?_, nofun⟩
    cases p.staged second version now k.identifiers settings encoded with
    | ok b => exact fun _ _ _ _ => transcript_withoutSize _ _ _ _ _ _ _
    | error f => exact nofun
  | error e =>
    refine ⟨nofun, ?_⟩
    cases p.staged second version now k.identifiers settings encoded with
    | ok b => exact nofun
    | error f =>
      obtain ⟨s, e⟩ := e
      obtain ⟨t, f⟩ := f
      intro _ _ he hf hm hst
      cases he
      cases hf
      cases hst
      have hend : ending (.error (s, e)) = ending (.error (s, f)) := by
        dsimp only at hm
        simp only [ending, Except.mapError, hm]
      rw [hend]

namespace Sample

def otherSignOn : SignOn :=
  { signOn with
    principal := { name := "c", email := "c@d", phone := "1", roles := ["z"] }
    keys := RsaPrivateKey.sample.material [1, 2, 3] }

def unwritableName : SignOn :=
  { signOn with principal := { name := "\x01" } }

def unwritableEmail : SignOn :=
  { signOn with principal := { name := "n", email := "y\x01x" } }

lemma staged_unwritable : ∀ s ∈ [unwritableName, unwritableEmail],
    provider.staged s .saml20 now journal.identifiers {} request =
      .error (.building, .serialization "character U+0001 is not allowed in XML 1.0") := by
  decide +kernel

theorem respond_log_public_holds :
    ((provider.respond signOn .saml20 now request).emitted journal).map Event.withoutSize =
        ((provider.respond otherSignOn .saml20 now request).emitted journal).map Event.withoutSize ∧
      (provider.respond unwritableName .saml20 now request).emitted journal =
        (provider.respond unwritableEmail .saml20 now request).emitted journal := by
  have hids : journal.identifiers.Suit := Identifiers.sequential_suit (by decide) (by decide)
  obtain ⟨a, hfirst⟩ := respond_isOk .saml20
  obtain ⟨b, hother⟩ : ∃ b, (provider.respond otherSignOn .saml20 now request).result journal = .ok b :=
    respond_isOk_as (by decide) (by decide +kernel) (hids.next 3)
  have hs : provider.signer = Signature.sign {} := rfl
  have happ : signOn.application = otherSignOn.application := rfl
  refine ⟨(Provider.respond_log_public hs happ rfl .saml20 now request).1 a b hfirst hother, ?_⟩
  have hname := staged_unwritable unwritableName (by simp)
  have hemail := staged_unwritable unwritableEmail (by simp)
  have hresult : ∀ s : SignOn, provider.staged s .saml20 now journal.identifiers {} request =
        .error (.building, .serialization "character U+0001 is not allowed in XML 1.0") →
      (provider.respond s .saml20 now request).result journal =
        .error (.serialization "character U+0001 is not allowed in XML 1.0") := by
    intro s h
    rw [provider.respond_result s .saml20 now hs, provider.outcome_eq_staged, h]
    rfl
  have hstage : provider.failedStage? unwritableName .saml20 now journal.identifiers {} request =
      provider.failedStage? unwritableEmail .saml20 now journal.identifiers {} request := by
    rw [Provider.failedStage?, Provider.failedStage?, hname, hemail]
  have happ' : unwritableName.application = unwritableEmail.application := rfl
  exact (Provider.respond_log_public hs happ' rfl .saml20 now request).2 _ _ (hresult _ hname)
    (hresult _ hemail) rfl
    hstage

end Sample

end IdentityProvider
