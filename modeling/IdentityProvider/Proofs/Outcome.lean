import Mathlib.Tactic.Common
import IdentityProvider.Journal

namespace IdentityProvider

section Except

variable {ε ε' α β : Type}

lemma bind_ok_iff {x : Except ε α} {f : α → Except ε β} {b : β} :
    x >>= f = .ok b ↔ ∃ a, x = .ok a ∧ f a = .ok b := by
  cases x with
  | error e => simp [bind, Except.bind]
  | ok a => simp [bind, Except.bind]

lemma bind_error_iff {x : Except ε α} {f : α → Except ε β} {e : ε} :
    x >>= f = .error e ↔ x = .error e ∨ ∃ a, x = .ok a ∧ f a = .error e := by
  cases x with
  | error e' => simp [bind, Except.bind]
  | ok a => simp [bind, Except.bind]

lemma map_ok_iff {x : Except ε α} {f : α → β} {b : β} : x.map f = .ok b ↔ ∃ a, x = .ok a ∧ f a = b := by
  cases x <;> simp [Except.map]

lemma map_error_iff {x : Except ε α} {f : α → β} {e : ε} : x.map f = .error e ↔ x = .error e := by
  cases x <;> simp [Except.map]

lemma mapError_id (x : Except ε α) : x.mapError id = x := by
  cases x <;> rfl

lemma mapError_ok_iff {x : Except ε α} {f : ε → ε'} {a : α} : x.mapError f = .ok a ↔ x = .ok a := by
  cases x <;> simp [Except.mapError]

lemma mapError_error_iff {x : Except ε α} {f : ε → ε'} {e' : ε'} :
    x.mapError f = .error e' ↔ ∃ e, x = .error e ∧ f e = e' := by
  cases x <;> simp [Except.mapError]

lemma mapError_bind (x : Except ε α) (f : α → Except ε β) (g : ε → ε') :
    (x >>= f).mapError g = x.mapError g >>= fun a => (f a).mapError g := by
  cases x <;> rfl

lemma foldlM_cons_ok {σ : Type} {f : σ → α → Except ε σ} {s s' : σ} {x : α} (h : f s x = .ok s')
    (xs : List α) : (x :: xs).foldlM f s = xs.foldlM f s' := by
  rw [List.foldlM_cons, h]
  rfl

lemma foldlM_append_ok {σ : Type} {f : σ → α → Except ε σ} {s s' : σ} {xs : List α}
    (h : xs.foldlM f s = .ok s') (ys : List α) : (xs ++ ys).foldlM f s = ys.foldlM f s' := by
  rw [List.foldlM_append, h]
  rfl

end Except

namespace Recorded

variable {α β ε : Type}

def Returns (steps : Recorded α) (before : Journal) (value : α) (after : Journal) : Prop :=
  steps.run.run before = (.ok value, after)

def result (steps : Recorded α) (before : Journal) : Except Failure α :=
  (steps.run.run before).1

lemma result_ok_iff {steps : Recorded α} {before : Journal} {value : α} :
    steps.result before = .ok value ↔ ∃ after, steps.Returns before value after := by
  unfold result Returns
  constructor
  · intro h
    exact ⟨_, Prod.ext h rfl⟩
  · rintro ⟨after, h⟩
    rw [h]

variable {j j' : Journal}

lemma returns_pure {a b : α} : Returns (pure a) j b j' ↔ b = a ∧ j' = j := by
  have hr : (pure a : Recorded α).run.run j = (.ok a, j) := rfl
  rw [Returns, hr, Prod.mk.injEq, Except.ok.injEq]
  exact and_congr eq_comm eq_comm

lemma run_bind_ok {x : Recorded α} {f : α → Recorded β} {a : α} {j₁ : Journal}
    (hx : x.run.run j = (.ok a, j₁)) : (x >>= f).run.run j = (f a).run.run j₁ := by
  change ExceptT.bindCont f (x.run.run j).1 (x.run.run j).2 = _
  rw [hx]
  rfl

lemma run_bind_error {x : Recorded α} {f : α → Recorded β} {e : Failure} {j₁ : Journal}
    (hx : x.run.run j = (.error e, j₁)) : (x >>= f).run.run j = (.error e, j₁) := by
  change ExceptT.bindCont f (x.run.run j).1 (x.run.run j).2 = _
  rw [hx]
  rfl

lemma returns_bind {x : Recorded α} {f : α → Recorded β} {b : β} :
    Returns (x >>= f) j b j' ↔ ∃ a j₁, x.Returns j a j₁ ∧ (f a).Returns j₁ b j' := by
  unfold Returns
  cases hx : x.run.run j with
  | mk r j₁ =>
    cases r with
    | error e =>
      rw [run_bind_error hx]
      constructor
      · intro h
        cases h
      · rintro ⟨a, j₂, h, _⟩
        cases h
    | ok a =>
      rw [run_bind_ok hx]
      constructor
      · intro h
        exact ⟨a, j₁, rfl, h⟩
      · rintro ⟨a', j₂, h, hf⟩
        cases h
        exact hf

lemma not_returns_throw {e : Failure} {a : α} : ¬ Returns (throw e) j a j' := by
  intro h
  cases h

lemma returns_liftError {f : ε → Failure} {x : Except ε α} {a : α} :
    Returns (liftError f x) j a j' ↔ x = .ok a ∧ j' = j := by
  cases x with
  | ok b => simp [liftError, returns_pure, eq_comm]
  | error e => simp [liftError, not_returns_throw]

lemma returns_onFailure {steps : Recorded α} {report : Failure → Recorded Unit} {a : α} :
    Returns (steps.onFailure report) j a j' ↔ steps.Returns j a j' := by
  have hr : Returns (ExceptT.tryCatch steps fun e => do report e; throw e) j a j' ↔ steps.Returns j a j' := by
    unfold Returns
    rw [ExceptT.tryCatch, ExceptT.run_mk, StateT.run_bind]
    cases hx : steps.run.run j with
    | mk r j₁ =>
      have hx' : StateT.run steps j = (r, j₁) := hx
      rw [hx']
      cases r with
      | ok b => rfl
      | error e =>
        constructor
        · intro h
          obtain ⟨u, j₂, _, ht⟩ := returns_bind.mp h
          exact absurd ht not_returns_throw
        · intro h
          cases h
  exact hr

lemma returns_log {level : Level} {message : String} {fields : List (String × String)} {u : Unit} :
    Returns (log level message fields) j u j' ↔
      j' = { j with events := j.events ++ [⟨level, message, fields⟩] } := by
  constructor
  · intro h
    cases h
    rfl
  · rintro rfl
    rfl

lemma identifiers_of_log {level : Level} {message : String} {fields : List (String × String)} {u : Unit}
    (h : Returns (log level message fields) j u j') : j'.identifiers = j.identifiers := by
  rw [returns_log.mp h]

lemma returns_drawId {id : String} : Returns drawId j id j' ↔
    id = j.identifiers.current ∧ j' = { j with identifiers := j.identifiers.advance } := by
  constructor
  · intro h
    cases h
    exact ⟨rfl, rfl⟩
  · rintro ⟨rfl, rfl⟩
    rfl

def Succeeds (steps : Recorded α) (before : Journal) (post : α → Prop) : Prop :=
  ∃ value after, steps.Returns before value after ∧ after.identifiers.nth = before.identifiers.nth ∧ post value

lemma succeeds_of_returns {steps : Recorded α} {a : α} (h : steps.Returns j a j')
    (hn : j'.identifiers.nth = j.identifiers.nth) : steps.Succeeds j (fun b => b = a) :=
  ⟨a, j', h, hn, rfl⟩

lemma Succeeds.imp {steps : Recorded α} {post weaker : α → Prop} (h : steps.Succeeds j post)
    (hw : ∀ a, post a → weaker a) : steps.Succeeds j weaker := by
  obtain ⟨a, j₁, hr, hn, hp⟩ := h
  exact ⟨a, j₁, hr, hn, hw a hp⟩

lemma Succeeds.bind {x : Recorded α} {f : α → Recorded β} {middle : α → Prop} {post : β → Prop}
    (hx : x.Succeeds j middle)
    (hf : ∀ a j₁, middle a → j₁.identifiers.nth = j.identifiers.nth → (f a).Succeeds j₁ post) :
    (x >>= f).Succeeds j post := by
  obtain ⟨a, j₁, hr, hn, hm⟩ := hx
  obtain ⟨b, j₂, hr', hn', hp⟩ := hf a j₁ hm hn
  exact ⟨b, j₂, returns_bind.mpr ⟨a, j₁, hr, hr'⟩, hn'.trans hn, hp⟩

lemma succeeds_pure (a : α) (j : Journal) : Succeeds (pure a) j (fun b => b = a) :=
  succeeds_of_returns (returns_pure.mpr ⟨rfl, rfl⟩) rfl

lemma succeeds_liftError {f : ε → Failure} {x : Except ε α} {a : α} (h : x = .ok a) (j : Journal) :
    (liftError f x).Succeeds j (fun b => b = a) :=
  succeeds_of_returns (returns_liftError.mpr ⟨h, rfl⟩) rfl

lemma succeeds_log (level : Level) (message : String) (fields : List (String × String)) (j : Journal) :
    (log level message fields).Succeeds j (fun _ => True) :=
  ⟨(), _, returns_log.mpr rfl, rfl, trivial⟩

lemma Succeeds.result_ok {steps : Recorded α} {post : α → Prop} (h : steps.Succeeds j post) :
    ∃ a, steps.result j = .ok a ∧ post a := by
  obtain ⟨a, j₁, hr, _, hp⟩ := h
  exact ⟨a, result_ok_iff.mpr ⟨j₁, hr⟩, hp⟩

lemma result_bind_ok {x : Recorded α} {f : α → Recorded β} {a : α} {j₁ : Journal} (hx : x.Returns j a j₁) :
    (x >>= f).result j = (f a).result j₁ := by
  rw [result, run_bind_ok hx]
  rfl

lemma result_bind_error {x : Recorded α} {f : α → Recorded β} {e : Failure} (hx : x.result j = .error e) :
    (x >>= f).result j = .error e := by
  have hr : x.run.run j = (.error e, (x.run.run j).2) := Prod.ext hx rfl
  rw [result, run_bind_error hr]

lemma result_onFailure {steps : Recorded α} {level : Level} {message : String}
    {fields : Failure → List (String × String)} :
    (steps.onFailure fun e => log level message (fields e)).result j = steps.result j := by
  have hr : Recorded.result (ExceptT.tryCatch steps fun e => do log level message (fields e); throw e) j =
      steps.result j := by
    unfold result
    rw [ExceptT.tryCatch, ExceptT.run_mk, StateT.run_bind]
    have hs : StateT.run steps j = steps.run.run j := rfl
    rw [hs]
    cases steps.run.run j with
    | mk r j₁ => cases r <;> rfl
  exact hr

/-- From every journal with some identifiers the steps come to one outcome, whatever was logged, and a good
outcome leaves one state of the identifiers. -/
def Yields (steps : Recorded α) (before : Identifiers) (outcome : Except Failure α) (after : Identifiers) : Prop :=
  ∀ j, j.identifiers = before →
    steps.result j = outcome ∧ ∀ a j', steps.Returns j a j' → j'.identifiers = after

variable {ids ids₁ ids₂ : Identifiers}

lemma Yields.bind {x : Recorded α} {f : α → Recorded β} {outcome : Except Failure α} {g : α → Except Failure β}
    (hx : x.Yields ids outcome ids₁) (hf : ∀ a, outcome = .ok a → (f a).Yields ids₁ (g a) ids₂) :
    (x >>= f).Yields ids (outcome >>= g) ids₂ := by
  intro j hj
  obtain ⟨ho, hafter⟩ := hx j hj
  cases outcome with
  | error e =>
    refine ⟨result_bind_error ho, ?_⟩
    intro b j' hr
    obtain ⟨a, j₁, ha, _⟩ := returns_bind.mp hr
    rw [result_ok_iff.mpr ⟨j₁, ha⟩] at ho
    cases ho
  | ok a =>
    obtain ⟨j₁, ha⟩ := result_ok_iff.mp ho
    obtain ⟨hresult, hafter'⟩ := hf a rfl j₁ (hafter a j₁ ha)
    refine ⟨(result_bind_ok ha).trans hresult, ?_⟩
    intro b j' hr
    obtain ⟨a', j₂, ha', hb⟩ := returns_bind.mp hr
    cases ha.symm.trans ha'
    exact hafter' b j' hb

lemma Yields.ok_bind {x : Recorded α} {f : α → Recorded β} {a : α} {outcome : Except Failure β}
    (hx : x.Yields ids (.ok a) ids₁) (hf : (f a).Yields ids₁ outcome ids₂) :
    (x >>= f).Yields ids outcome ids₂ := by
  have hb : outcome = (Except.ok a : Except Failure α) >>= fun _ => outcome := rfl
  rw [hb]
  apply hx.bind
  intro b hab
  cases hab
  exact hf

lemma Yields.error_bind {x : Recorded α} {f : α → Recorded β} {e : Failure} (hx : x.Yields ids (.error e) ids₁) :
    (x >>= f).Yields ids (.error e) ids₂ := by
  have hb : (.error e : Except Failure β) = (Except.error e : Except Failure α) >>= fun _ => .error e := rfl
  rw [hb]
  apply hx.bind
  intro _ h
  cases h

lemma yields_pure (a : α) (ids : Identifiers) : (pure a : Recorded α).Yields ids (.ok a) ids := by
  intro j hj
  refine ⟨rfl, ?_⟩
  intro b j' hr
  rw [(returns_pure.mp hr).2, hj]

lemma yields_throw (e : Failure) (ids ids' : Identifiers) : (throw e : Recorded α).Yields ids (.error e) ids' := by
  intro j _
  exact ⟨rfl, fun _ _ hr => absurd hr not_returns_throw⟩

lemma yields_liftError (f : ε → Failure) (x : Except ε α) (ids : Identifiers) :
    (liftError f x).Yields ids (x.mapError f) ids := by
  cases x with
  | error e => exact yields_throw (f e) ids ids
  | ok a => exact yields_pure a ids

lemma yields_log (level : Level) (message : String) (fields : List (String × String)) (ids : Identifiers) :
    (log level message fields).Yields ids (.ok ()) ids := by
  intro j hj
  refine ⟨rfl, ?_⟩
  intro _ j' hr
  rw [identifiers_of_log hr, hj]

lemma yields_drawId (ids : Identifiers) : drawId.Yields ids (.ok ids.current) ids.advance := by
  rintro j rfl
  refine ⟨rfl, ?_⟩
  intro id j' hr
  rw [(returns_drawId.mp hr).2]

lemma Yields.onFailure {steps : Recorded α} {outcome : Except Failure α} (h : steps.Yields ids outcome ids₁)
    (level : Level) (message : String) (fields : Failure → List (String × String)) :
    (steps.onFailure fun e => log level message (fields e)).Yields ids outcome ids₁ := by
  intro j hj
  obtain ⟨ho, hafter⟩ := h j hj
  refine ⟨result_onFailure.trans ho, ?_⟩
  intro a j' hr
  exact hafter a j' (returns_onFailure.mp hr)

end Recorded

end IdentityProvider
