import IdentityProvider.Proofs.Respond

namespace IdentityProvider

open Xml

namespace Recorded

def Draws {α : Type} (steps : Recorded α) (n : Nat) : Prop :=
  ∀ j, (steps.run.run j).2.identifiers = j.identifiers.skip n

variable {α β ε : Type} {x : Recorded α} {f : α → Recorded β}

lemma draws_pure (a : α) : (pure a : Recorded α).Draws 0 := fun _ => rfl

lemma draws_throw (e : Failure) : (throw e : Recorded α).Draws 0 := fun _ => rfl

lemma draws_log (level : Level) (message : String) (fields : List (String × String)) :
    (log level message fields).Draws 0 := fun _ => rfl

lemma draws_drawId : drawId.Draws 1 := fun _ => rfl

lemma draws_liftError (g : ε → Failure) (r : Except ε α) : (liftError g r).Draws 0 := by
  cases r with
  | ok a => exact draws_pure a
  | error e => exact draws_throw (g e)

lemma Draws.onFailure {steps : Recorded α} {n : Nat} (h : steps.Draws n) (level : Level) (message : String)
    (fields : Failure → List (String × String)) :
    (steps.onFailure fun e => log level message (fields e)).Draws n := by
  have hr : Draws (ExceptT.tryCatch steps fun e => do log level message (fields e); throw e) n := by
    intro j
    rw [ExceptT.tryCatch, ExceptT.run_mk, StateT.run_bind]
    have hs : StateT.run steps j = steps.run.run j := rfl
    have hj := h j
    rw [hs]
    cases hx : steps.run.run j with
    | mk r j₁ =>
      rw [hx] at hj
      cases r with
      | ok a => exact hj
      | error e => exact hj
  exact hr

lemma Draws.bind {n m : Nat} (hx : x.Draws n) (hf : ∀ a, (∃ j j', x.Returns j a j') → (f a).Draws m)
    (he : (∃ j e, x.result j = .error e) → m = 0) : (x >>= f).Draws (n + m) := by
  intro j
  have hj := hx j
  cases hr : x.run.run j with
  | mk r j₁ =>
    rw [hr] at hj
    cases r with
    | error e =>
      have hm : m = 0 := he ⟨j, e, congrArg Prod.fst hr⟩
      rw [run_bind_error hr, hm]
      exact hj
    | ok a =>
      rw [run_bind_ok hr, hf a ⟨j, j₁, hr⟩ j₁, hj, Identifiers.skip, Identifiers.skip, Identifiers.skip,
        Nat.add_assoc]

lemma Draws.bind_none {n : Nat} (hx : x.Draws n) (hf : ∀ a, (f a).Draws 0) : (x >>= f).Draws n :=
  hx.bind (fun a _ => hf a) fun _ => rfl

lemma Draws.ok_bind {n : Nat} {a : α} (hx : x.Draws 0) (hr : ∀ j, x.result j = .ok a) (hf : (f a).Draws n) :
    (x >>= f).Draws n := by
  rw [← Nat.zero_add n]
  apply hx.bind
  · rintro b ⟨j, j', hb⟩
    have hba := (result_ok_iff.mpr ⟨j', hb⟩).symm.trans (hr j)
    cases hba
    exact hf
  · rintro ⟨j, e, he⟩
    rw [hr j] at he
    cases he

lemma Draws.drawId_bind {g : String → Recorded β} {n : Nat} (hg : ∀ id, (g id).Draws n) :
    (drawId >>= g).Draws (n + 1) := by
  rw [Nat.add_comm]
  apply draws_drawId.bind fun id _ => hg id
  rintro ⟨j, e, he⟩
  cases he

lemma Draws.error_bind {e : Failure} (hx : x.Draws 0) (hr : ∀ j, x.result j = .error e) : (x >>= f).Draws 0 := by
  apply hx.bind (m := 0) _ fun _ => rfl
  rintro b ⟨j, j', hb⟩
  have hbe := (result_ok_iff.mpr ⟨j', hb⟩).symm.trans (hr j)
  cases hbe

end Recorded

def spent {α : Type} (n : Nat) : Except Failure α → Nat
  | .ok _ => n
  | .error _ => 0

lemma Recorded.Draws.spent_bind {α β γ : Type} {x : Recorded α} {f : α → Recorded β} {r : Except Failure α}
    {g : α → Except Failure γ} {n : Nat} (hx : x.Draws 0) (hr : ∀ ids, x.Yields ids r ids)
    (hf : ∀ a, r = .ok a → (f a).Draws (spent n (g a))) : (x >>= f).Draws (spent n (r >>= g)) := by
  have hresult : ∀ j, x.result j = r := fun j => (hr j.identifiers j rfl).1
  cases r with
  | ok a => exact hx.ok_bind hresult (hf a rfl)
  | error e => exact hx.error_bind hresult

lemma draws_checkTexts (texts : List String) : (checkTexts texts).Draws 0 := by
  induction texts with
  | nil => exact Recorded.draws_pure ()
  | cons t texts ih => exact (Recorded.draws_liftError _ (checkChars t.toList)).bind_none fun _ => ih

lemma draws_validityFrom (now : Instant) : (validityFrom now).Draws 0 := by
  rw [validityFrom]
  cases Validity.starting? now with
  | none => exact Recorded.draws_throw _
  | some v => exact Recorded.draws_pure v

lemma Response.draws_issue {r : Response} (h : r.destination ≠ "") (now : Instant) :
    (r.issue now).Draws (spent 3 (validity now)) := by
  rw [issue, if_neg h, ← bind_pure (validity now)]
  apply (draws_validityFrom now).spent_bind fun ids => yields_validityFrom ids now
  intro v _
  apply Recorded.Draws.drawId_bind
  intro id
  apply Recorded.Draws.drawId_bind
  intro assertionId
  apply Recorded.Draws.drawId_bind
  intro sessionIndex
  exact (draws_checkTexts r.texts).bind_none fun _ => Recorded.draws_pure _

lemma LegacyResponse.draws_issue (r : LegacyResponse) (now : Instant) :
    (r.issue now).Draws (spent 2 (validity now)) := by
  rw [issue, ← bind_pure (validity now)]
  apply (draws_validityFrom now).spent_bind fun ids => yields_validityFrom ids now
  intro v _
  apply Recorded.Draws.drawId_bind
  intro id
  apply Recorded.Draws.drawId_bind
  intro assertionId
  exact (draws_checkTexts r.texts).bind_none fun _ => Recorded.draws_pure _

lemma draws_decodeRequest (encoded : String) : (decodeRequest encoded).Draws 0 := by
  rw [decodeRequest]
  apply (Recorded.draws_liftError _ _).bind_none
  intro document
  apply (Recorded.draws_liftError _ _).bind_none
  intro request
  exact (Recorded.draws_log _ _ _).bind_none fun _ => Recorded.draws_pure request

lemma draws_encodeResponse (document : Element) (delivery : Delivery) (compressed : Bool)
    (deflate : Bytes → Bytes) :
    (encodeResponse document delivery compressed deflate).Draws 0 := by
  rw [encodeResponse]
  apply (Recorded.draws_liftError _ _).bind_none
  intro written
  exact (Recorded.draws_log _ _ _).bind_none fun _ => Recorded.draws_pure _

lemma Signature.draws_sign (settings : SignatureSettings) (document : Element) (keys : KeyMaterial) :
    (sign settings document keys).Draws 0 := by
  rw [sign]
  cases signed settings document keys with
  | ok pair => exact (Recorded.draws_log _ _ _).bind_none fun _ => Recorded.draws_pure pair.1
  | error e => exact (Recorded.draws_log _ _ _).bind_none fun _ => Recorded.draws_throw e

structure Call where
  signOn : SignOn
  version : ProtocolVersion
  now : Instant
  encoded : String

def Call.opening (c : Call) : Except Failure Validity := do
  let request ← decodedRequest c.encoded
  checkIssuer c.signOn.application request
  let _ ← resolveDelivery c.signOn.application request
  validity c.now

def Call.quota (c : Call) : Nat :=
  spent c.version.drawn c.opening

namespace Provider

variable {p : Provider}

lemma draws_issue {destination : String} (h : destination ≠ "") (signOn : SignOn) (version : ProtocolVersion)
    (now : Instant) (request : AuthnRequest) :
    (p.issue signOn version now request destination).Draws (spent version.drawn (validity now)) := by
  cases version with
  | saml20 =>
    have hd : (p.response signOn request destination).destination ≠ "" := h
    exact Response.draws_issue hd now
  | saml11 => exact LegacyResponse.draws_issue (p.legacyResponse signOn request) now

def respondTo (p : Provider) (c : Call) : Recorded EncodedResponse :=
  p.respond c.signOn c.version c.now c.encoded

theorem draws_respond (hs : ∀ document keys, (p.signer document keys).Draws 0) (c : Call) :
    (p.respondTo c).Draws c.quota := by
  rw [respondTo, respond, Call.quota, Call.opening]
  apply (draws_decodeRequest c.encoded).spent_bind fun ids => yields_decodeRequest c.encoded ids
  intro request _
  have hallow := Recorded.yields_liftError id (checkIssuer c.signOn.application request)
  have hdeliver := Recorded.yields_liftError id (resolveDelivery c.signOn.application request)
  simp only [mapError_id] at hallow hdeliver
  apply ((Recorded.draws_liftError _ _).onFailure _ _ _).spent_bind fun ids => (hallow ids).onFailure _ _ _
  intro _ _
  apply (Recorded.draws_log _ _ _).ok_bind fun _ => rfl
  apply ((Recorded.draws_liftError _ _).onFailure _ _ _).spent_bind fun ids => (hdeliver ids).onFailure _ _ _
  intro delivery hd
  apply (Recorded.draws_log _ _ _).ok_bind fun _ => rfl
  apply ((draws_issue (resolveDelivery_ok hd) _ _ _ _).onFailure _ _ _).bind_none
  intro document
  apply (Recorded.draws_log _ _ _).bind_none
  intro _
  apply ((hs document c.signOn.keys).onFailure _ _ _).bind_none
  intro signed
  apply (Recorded.draws_log _ _ _).bind_none
  intro _
  exact (draws_encodeResponse signed delivery _ _).onFailure _ _ _

end Provider

end IdentityProvider
