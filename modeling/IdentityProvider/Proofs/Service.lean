import Mathlib.Logic.Function.Basic
import Mathlib.Logic.Relation
import IdentityProvider.Proofs.Drawing
import IdentityProvider.Proofs.Emission
/-! Calls of one provider that draw from the same identifiers, in any order. -/

namespace IdentityProvider

open Xml

namespace Identifiers

def ofHanded (handed : List String) : Identifiers where
  nth n := handed.getD n ""

lemma upcoming_length (ids : Identifiers) (n : Nat) : (ids.upcoming n).length = n := by
  rw [upcoming, List.length_map, List.length_range]

lemma upcoming_ofHanded (handed : List String) : (ofHanded handed).upcoming handed.length = handed := by
  apply List.ext_getElem
  · simp [upcoming]
  · intro n _ hn
    simp [upcoming, ofHanded, hn]

def AreApart (ids : Identifiers) (bound : Nat) : Prop :=
  ∀ m n, m < bound → n < bound → ids.nth m = ids.nth n → m = n

lemma toString_nat_injective {m n : Nat} (h : toString m = toString n) : m = n := by
  rw [Nat.toString_eq_ofList_toDigits, Nat.toString_eq_ofList_toDigits, String.ofList_inj] at h
  rw [← Nat.ofDigitChars_ten_toDigits (n := m), h, Nat.ofDigitChars_ten_toDigits]

lemma sequential_areApart (stem : String) : (sequential stem).AreApart (UInt64.size - 1) := by
  intro m n hm hn h
  have hmod : ∀ k, k < UInt64.size - 1 → (k + 1) % UInt64.size = k + 1 := fun k hk => Nat.mod_eq_of_lt (by omega)
  have hs : stem ++ toString ((m + 1) % UInt64.size) = stem ++ toString ((n + 1) % UInt64.size) := h
  rw [hmod m hm, hmod n hn] at hs
  exact Nat.succ.inj (toString_nat_injective ((String.append_right_inj stem).mp hs))

end Identifiers

namespace Provider

/-- A call goes on as it does alone with the identifiers that it has been handed. -/
def replay (p : Provider) (c : Call) (handed : List String) : Except Failure EncodedResponse × Journal :=
  (p.respondTo c).run.run { identifiers := .ofHanded handed }

def IsWaiting (p : Provider) (c : Call) (handed : List String) : Prop :=
  handed.length < (p.replay c handed).2.identifiers.drawn

def Emits (p : Provider) (c : Call) (handed : List String) (tree : Element) : Prop :=
  ¬ p.IsWaiting c handed ∧ ∃ answer, (p.replay c handed).1 = .ok answer ∧ answer.Carries p.deflate tree

variable {p : Provider} {c : Call} {handed : List String}

lemma isWaiting_iff (hs : ∀ document keys, (p.signer document keys).Draws 0) :
    p.IsWaiting c handed ↔ handed.length < c.quota := by
  have hdrawn : (p.replay c handed).2.identifiers.drawn = c.quota := by
    rw [replay, draws_respond hs c]
    exact Nat.zero_add _
  rw [IsWaiting, hdrawn]

lemma issued_congr {signOn : SignOn} {version : ProtocolVersion} {now : Instant} {ids ids' : Identifiers}
    {request : AuthnRequest} {destination : String}
    (h : ids.upcoming version.drawn = ids'.upcoming version.drawn) :
    p.issued signOn version now ids request destination =
      p.issued signOn version now ids' request destination := by
  cases version with
  | saml20 =>
    have hthree : [ids.current, ids.advance.current, ids.advance.advance.current] =
        [ids'.current, ids'.advance.current, ids'.advance.advance.current] := h
    simp only [List.cons.injEq, and_true] at hthree
    obtain ⟨hid, hassertion, hsession⟩ := hthree
    rw [issued, issued, Response.issued, Response.issued, hid, hassertion, hsession]
  | saml11 =>
    have htwo : [ids.current, ids.advance.current] = [ids'.current, ids'.advance.current] := h
    simp only [List.cons.injEq, and_true] at htwo
    obtain ⟨hid, hassertion⟩ := htwo
    rw [issued, issued, LegacyResponse.issued, LegacyResponse.issued, hid, hassertion]

lemma outcome_congr {signOn : SignOn} {version : ProtocolVersion} {now : Instant} {ids ids' : Identifiers}
    {settings : SignatureSettings} {encoded : String}
    (h : ids.upcoming version.drawn = ids'.upcoming version.drawn) :
    p.outcome signOn version now ids settings encoded = p.outcome signOn version now ids' settings encoded := by
  have hissued : ∀ request destination, p.issued signOn version now ids request destination =
      p.issued signOn version now ids' request destination := fun _ _ => issued_congr h
  simp only [outcome, hissued]

section Signing

variable {settings : SignatureSettings} (hs : p.signer = Signature.sign settings)

include hs

lemma respondTo_outcome (c : Call) (j : Journal) :
    (p.respondTo c).result j = p.outcome c.signOn c.version c.now j.identifiers settings c.encoded :=
  p.respond_result c.signOn c.version c.now hs c.encoded j

lemma replay_outcome (c : Call) (handed : List String) : (p.replay c handed).1 =
    p.outcome c.signOn c.version c.now (.ofHanded handed) settings c.encoded :=
  respondTo_outcome hs c { identifiers := .ofHanded handed }

lemma respondTo_opening_error {f : Failure} (h : c.opening = .error f) (j : Journal) :
    (p.respondTo c).result j = .error f := by
  rw [respondTo_outcome hs]
  rw [Call.opening] at h
  rcases bind_error_iff.mp h with hd | ⟨request, hd, h⟩
  · simp only [outcome, hd, bind, Except.bind]
  rcases bind_error_iff.mp h with hi | ⟨_, hi, h⟩
  · simp only [outcome, hd, hi, bind, Except.bind]
  rcases bind_error_iff.mp h with hr | ⟨delivery, hr, hv⟩
  · simp only [outcome, hd, hi, hr, bind, Except.bind]
  · rw [outcome_admitted hd (checkIssuer_eq_ok_iff.mp hi) hr, issued_of_invalid (resolveDelivery_ok hr) hv]
    rfl

theorem respondTo_result (c : Call) (j : Journal) :
    (p.respondTo c).result j = (p.replay c (j.identifiers.upcoming c.quota)).1 := by
  cases ho : c.opening with
  | error f =>
    rw [respondTo_opening_error hs ho j]
    exact (respondTo_opening_error hs ho _).symm
  | ok v =>
    have hquota : c.quota = c.version.drawn := by rw [Call.quota, ho, spent]
    have hnext := Identifiers.upcoming_ofHanded (j.identifiers.upcoming c.version.drawn)
    rw [Identifiers.upcoming_length] at hnext
    rw [hquota, respondTo_outcome hs, replay_outcome hs]
    exact outcome_congr hnext.symm

lemma identifiersIn_carried (hd : Deflate.IsCompressor p.deflate) {answer : EncodedResponse} {tree : Element}
    (h : (p.replay c handed).1 = .ok answer) (ht : answer.Carries p.deflate tree) (hl : handed.length = c.quota) :
    c.version.identifiersIn tree = handed.map some := by
  obtain ⟨a⟩ := respond_answer h
  have hdrawn : handed.length = c.version.drawn := by
    cases ho : c.opening with
    | error f => cases h.symm.trans (respondTo_opening_error hs ho _)
    | ok v => rw [hl, Call.quota, ho, spent]
  have hcarries : answer.Carries p.deflate a.signed.merged := ⟨a.written, a.payload, a.parse_written hs⟩
  rw [ht.unique hd hcarries, a.identifiersIn hs, ← hdrawn]
  exact congrArg (List.map some) (Identifiers.upcoming_ofHanded handed)

end Signing

end Provider

structure Service (ι : Type*) where
  identifiers : Identifiers
  drawn : ι → List String

namespace Service

variable {ι : Type*} [DecidableEq ι]

def start (identifiers : Identifiers) : Service ι where
  identifiers := identifiers
  drawn _ := []

def draw (s : Service ι) (i : ι) : Service ι where
  identifiers := s.identifiers.advance
  drawn := Function.update s.drawn i (s.drawn i ++ [s.identifiers.current])

inductive Step (p : Provider) (calls : ι → Call) : Service ι → Service ι → Prop
  | draw {s : Service ι} (i : ι) (h : p.IsWaiting (calls i) (s.drawn i)) : Step p calls s (s.draw i)

/-- What has been drawn is drawn once, and by a call that wanted it. -/
structure Inv (calls : ι → Call) (s : Service ι) : Prop where
  earlier : ∀ i, ∀ id ∈ s.drawn i, ∃ n < s.identifiers.drawn, s.identifiers.nth n = id
  apart : ∀ (i i' : ι) (k k' : Nat) (id : String),
    (s.drawn i)[k]? = some id → (s.drawn i')[k']? = some id → i = i' ∧ k = k'
  within : ∀ i, (s.drawn i).length ≤ (calls i).quota

variable {p : Provider} {calls : ι → Call} {s s' : Service ι} {i j : ι}

lemma draw_same (s : Service ι) (i : ι) : (s.draw i).drawn i = s.drawn i ++ [s.identifiers.current] :=
  Function.update_self i _ s.drawn

lemma draw_other (h : j ≠ i) : (s.draw i).drawn j = s.drawn j :=
  Function.update_of_ne h _ s.drawn

lemma getElem_draw {id : String} {k : Nat} (h : ((s.draw i).drawn j)[k]? = some id) :
    (s.drawn j)[k]? = some id ∨ (j = i ∧ k = (s.drawn i).length ∧ id = s.identifiers.current) := by
  by_cases hj : j = i
  · subst hj
    rw [draw_same] at h
    rcases Nat.lt_trichotomy k (s.drawn j).length with hk | rfl | hk
    · rw [List.getElem?_append_left hk] at h
      exact Or.inl h
    · rw [List.getElem?_concat_length, Option.some.injEq] at h
      exact Or.inr ⟨rfl, rfl, h.symm⟩
    · rw [List.getElem?_eq_none (by simpa using hk)] at h
      cases h
  · rw [draw_other hj] at h
    exact Or.inl h

omit [DecidableEq ι] in
lemma inv_start (identifiers : Identifiers) : Inv calls (start identifiers) where
  earlier _ _ h := absurd h List.not_mem_nil
  apart _ _ _ _ _ h := by cases h
  within _ := Nat.zero_le _

lemma Inv.step (hs : ∀ document keys, (p.signer document keys).Draws 0) (hinv : Inv calls s)
    (hstep : Step p calls s s') {bound : Nat} (hids : s.identifiers.AreApart bound)
    (hb : s'.identifiers.drawn ≤ bound) :
    Inv calls s' := by
  cases hstep with
  | draw i hw =>
    have hnew : ∀ j, ∀ id ∈ s.drawn j, id ≠ s.identifiers.current := by
      intro j id hid he
      obtain ⟨n, hn, rfl⟩ := hinv.earlier j id hid
      have hbound : s.identifiers.drawn + 1 ≤ bound := hb
      have hsame := hids n s.identifiers.drawn (by omega) (by omega) he
      omega
    constructor
    · intro j id hid
      obtain ⟨k, hk⟩ := List.mem_iff_getElem?.mp hid
      rcases getElem_draw hk with hold | ⟨_, _, rfl⟩
      · obtain ⟨n, hn, he⟩ := hinv.earlier j id (List.mem_of_getElem? hold)
        exact ⟨n, Nat.lt_succ_of_lt hn, he⟩
      · exact ⟨s.identifiers.drawn, Nat.lt_succ_self _, rfl⟩
    · intro j j' k k' id h h'
      rcases getElem_draw h with hold | ⟨rfl, rfl, rfl⟩
      · rcases getElem_draw h' with hold' | ⟨_, _, rfl⟩
        · exact hinv.apart j j' k k' id hold hold'
        · exact absurd rfl (hnew j _ (List.mem_of_getElem? hold))
      · rcases getElem_draw h' with hold' | ⟨rfl, rfl, _⟩
        · exact absurd rfl (hnew j' _ (List.mem_of_getElem? hold'))
        · exact ⟨rfl, rfl⟩
    · intro j
      by_cases hj : j = i
      · subst hj
        rw [draw_same, List.length_append]
        exact (Provider.isWaiting_iff hs).mp hw
      · rw [draw_other hj]
        exact hinv.within j

lemma inv_of_steps (hs : ∀ document keys, (p.signer document keys).Draws 0) {identifiers : Identifiers}
    {bound : Nat} (hids : identifiers.AreApart bound)
    (hrun : Relation.ReflTransGen (Step p calls) (start identifiers) s) (hb : s.identifiers.drawn ≤ bound) :
    s.identifiers.nth = identifiers.nth ∧ Inv calls s := by
  induction hrun with
  | refl => exact ⟨rfl, inv_start identifiers⟩
  | @tail s s' _ hstep ih =>
    have hle : s.identifiers.drawn ≤ s'.identifiers.drawn := by
      cases hstep
      exact Nat.le_succ _
    obtain ⟨hnth, hinv⟩ := ih (hle.trans hb)
    have hids' : s.identifiers.AreApart bound := by
      rw [Identifiers.AreApart, hnth]
      exact hids
    refine ⟨?_, hinv.step hs hstep hids' hb⟩
    cases hstep
    exact hnth

omit [DecidableEq ι] in
lemma Inv.length_eq (hs : ∀ document keys, (p.signer document keys).Draws 0) (hinv : Inv calls s) {i : ι}
    (hover : ¬ p.IsWaiting (calls i) (s.drawn i)) : (s.drawn i).length = (calls i).quota := by
  rw [Provider.isWaiting_iff hs] at hover
  exact Nat.le_antisymm (hinv.within i) (Nat.not_lt.mp hover)

end Service

/-- However calls take turns at drawing, no identifier is written twice: a document carries those that its call
has drawn, in their order. A call that fails before it builds a response has drawn none, and any other call all
that its version takes, even if it fails after that. -/
theorem identifiers_never_repeat {settings : SignatureSettings} {p : Provider}
    (hs : p.signer = Signature.sign settings) (hd : Deflate.IsCompressor p.deflate) (stem : String) {ι : Type*}
    [DecidableEq ι] {calls : ι → Call} {s : Service ι}
    (hrun : Relation.ReflTransGen (Service.Step p calls) (Service.start (.sequential stem)) s)
    (hb : s.identifiers.drawn < UInt64.size - 1) :
    (∀ (i i' : ι) (k k' : Nat) (id : String), (s.drawn i)[k]? = some id → (s.drawn i')[k']? = some id →
      i = i' ∧ k = k') ∧
    (∀ i answer, ¬ p.IsWaiting (calls i) (s.drawn i) → (p.replay (calls i) (s.drawn i)).1 = .ok answer →
      ∃ tree, answer.Carries p.deflate tree) ∧
    (∀ i tree, p.Emits (calls i) (s.drawn i) tree →
      (calls i).version.identifiersIn tree = (s.drawn i).map some) ∧
    (∀ (i i' : ι) (tree tree' : Element) (k k' : Nat) (id : String),
      p.Emits (calls i) (s.drawn i) tree → p.Emits (calls i') (s.drawn i') tree' →
      ((calls i).version.identifiersIn tree)[k]? = some (some id) →
      ((calls i').version.identifiersIn tree')[k']? = some (some id) → i = i' ∧ k = k') ∧
    ∀ i, ¬ p.IsWaiting (calls i) (s.drawn i) →
      (∀ f, (calls i).opening = .error f → (p.replay (calls i) (s.drawn i)).1 = .error f ∧ s.drawn i = []) ∧
      ∀ v, (calls i).opening = .ok v → (s.drawn i).length = (calls i).version.drawn := by
  have hquiet : ∀ document keys, (p.signer document keys).Draws 0 := by
    intro document keys
    rw [hs]
    exact Signature.draws_sign settings document keys
  obtain ⟨_, hinv⟩ := Service.inv_of_steps hquiet (Identifiers.sequential_areApart stem) hrun (Nat.le_of_lt hb)
  have hcarries : ∀ i tree, p.Emits (calls i) (s.drawn i) tree →
      (calls i).version.identifiersIn tree = (s.drawn i).map some := by
    rintro i tree ⟨hover, answer, hanswer, htree⟩
    exact Provider.identifiersIn_carried hs hd hanswer htree (hinv.length_eq hquiet hover)
  refine ⟨hinv.apart, ?_, hcarries, ?_, ?_⟩
  · intro i answer _ hanswer
    obtain ⟨a⟩ := Provider.respond_answer hanswer
    exact ⟨a.signed.merged, a.written, a.payload, a.parse_written hs⟩
  · intro i i' tree tree' k k' id h h' hid hid'
    have hmap : ∀ (ids : List String) (n : Nat), (ids.map some)[n]? = some (some id) → ids[n]? = some id := by simp
    rw [hcarries i tree h] at hid
    rw [hcarries i' tree' h'] at hid'
    exact hinv.apart i i' k k' id (hmap _ k hid) (hmap _ k' hid')
  · intro i hover
    have hlength := hinv.length_eq hquiet hover
    constructor
    · intro f hf
      rw [Call.quota, hf] at hlength
      exact ⟨Provider.respondTo_opening_error hs hf _, List.length_eq_zero_iff.mp hlength⟩
    · intro v hv
      rwa [Call.quota, hv] at hlength

namespace Sample

def calls (legacy : Bool) : Call where
  signOn := signOn
  version := if legacy then .saml11 else .saml20
  now := now
  encoded := request

def served : Service Bool :=
  [false, true, false, true, false].foldl Service.draw (Service.start journal.identifiers)

lemma signer_draws (document : Element) (keys : KeyMaterial) : (provider.signer document keys).Draws 0 :=
  Signature.draws_sign {} document keys

lemma quota_calls (legacy : Bool) : (calls legacy).quota = (calls legacy).version.drawn := by
  have hd : decodedRequest (calls legacy).encoded = .ok { id := "q", issuer := "s" } :=
    decodedRequest_ok_iff.mpr ⟨_, decodeRequestDocument_request, parse_request⟩
  rw [Call.quota, Call.opening, hd]
  rfl

theorem identifiers_never_repeat_served :
    Relation.ReflTransGen (Service.Step provider calls)
      (Service.start (.sequential Identifiers.defaultStem)) served ∧
    ∃ response legacy, provider.Emits (calls false) ["_id1", "_id3", "_id5"] response ∧
      ProtocolVersion.saml20.identifiersIn response = [some "_id1", some "_id3", some "_id5"] ∧
      provider.Emits (calls true) ["_id2", "_id4"] legacy ∧
      ProtocolVersion.saml11.identifiersIn legacy = [some "_id2", some "_id4"] := by
  have hstep : ∀ (s : Service Bool) i, (s.drawn i).length < (calls i).version.drawn →
      Service.Step provider calls s (s.draw i) := by
    intro s i h
    apply Service.Step.draw i
    rwa [Provider.isWaiting_iff signer_draws, quota_calls]
  have hrun : Relation.ReflTransGen (Service.Step provider calls)
      (Service.start (.sequential Identifiers.defaultStem)) served := by
    apply Relation.ReflTransGen.tail _ (hstep _ false (by decide))
    apply Relation.ReflTransGen.tail _ (hstep _ true (by decide))
    apply Relation.ReflTransGen.tail _ (hstep _ false (by decide))
    apply Relation.ReflTransGen.tail _ (hstep _ true (by decide))
    exact Relation.ReflTransGen.single (hstep _ false (by decide))
  have hover : ∀ i, ¬ provider.IsWaiting (calls i) (served.drawn i) := by
    intro i
    rw [Provider.isWaiting_iff signer_draws, quota_calls]
    cases i <;> decide
  have hfirst : served.drawn false = ["_id1", "_id3", "_id5"] := by decide +kernel
  have hsecond : served.drawn true = ["_id2", "_id4"] := by decide +kernel
  obtain ⟨_, hcarries, hwritten, _⟩ :=
    identifiers_never_repeat rfl Deflate.compress_isCompressor _ hrun (by decide)
  have hemits : ∀ i, (Identifiers.ofHanded (served.drawn i)).SuitNext (calls i).version.drawn →
      ∃ tree, provider.Emits (calls i) (served.drawn i) tree := by
    intro i hids
    obtain ⟨answer, hanswer⟩ := respond_isOk_of_suitNext (j := { identifiers := .ofHanded (served.drawn i) }) hids
    obtain ⟨tree, htree⟩ := hcarries i answer (hover i) hanswer
    exact ⟨tree, hover i, answer, hanswer, htree⟩
  obtain ⟨response, hresponse⟩ := hemits false (by rw [hfirst]; exact ⟨by decide, by decide +kernel⟩)
  obtain ⟨legacy, hlegacy⟩ := hemits true (by rw [hsecond]; exact ⟨by decide, by decide +kernel⟩)
  have hresponseIds := hwritten false response hresponse
  have hlegacyIds := hwritten true legacy hlegacy
  rw [hfirst] at hresponse hresponseIds
  rw [hsecond] at hlegacy hlegacyIds
  exact ⟨hrun, response, legacy, hresponse, hresponseIds, hlegacy, hlegacyIds⟩

end Sample

end IdentityProvider
