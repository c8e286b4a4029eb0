import IdentityProvider.Principal
import IdentityProvider.Saml.Gate
import Mathlib.Data.List.Sort
/-! Audiences and roles, as lists that are filled member by member. What is there already is not taken up again,
so each member stands where it first occurred. -/

namespace IdentityProvider

section Lists

variable {α : Type} [DecidableEq α] {wanted : α → Bool} {source kept : List α}

def takeUp (wanted : α → Bool) (kept : List α) (x : α) : List α :=
  if wanted x = true ∧ x ∉ kept then kept ++ [x] else kept

/-- The wanted members of a list, each once, in the order in which they first occur in it. -/
structure KeepsFirst (wanted : α → Bool) (source kept : List α) : Prop where
  nodup : kept.Nodup
  mem_iff : ∀ x, x ∈ kept ↔ x ∈ source ∧ wanted x = true
  ordered : kept.Pairwise fun x y => source.idxOf x < source.idxOf y

lemma keepsFirst_nil (wanted : α → Bool) : KeepsFirst wanted [] [] where
  nodup := List.nodup_nil
  mem_iff := by simp
  ordered := List.Pairwise.nil

namespace KeepsFirst

lemma ordered_append (h : KeepsFirst wanted source kept) (more : List α) :
    kept.Pairwise fun x y => (source ++ more).idxOf x < (source ++ more).idxOf y := by
  apply h.ordered.imp_of_mem
  intro x y hx hy hxy
  have hsource : ∀ z ∈ kept, (source ++ more).idxOf z = source.idxOf z := fun z hz =>
    List.idxOf_append_of_mem ((h.mem_iff z).mp hz).1
  rwa [hsource x hx, hsource y hy]

lemma append_one (h : KeepsFirst wanted source kept) (x : α) :
    KeepsFirst wanted (source ++ [x]) (takeUp wanted kept x) := by
  rw [takeUp]
  split_ifs with hx
  · obtain ⟨hwanted, hnew⟩ := hx
    have hfirst : x ∉ source := fun hs => hnew ((h.mem_iff x).mpr ⟨hs, hwanted⟩)
    refine ⟨List.nodup_append.mpr ⟨h.nodup, List.nodup_singleton x, ?_⟩, ?_, ?_⟩
    · rintro y hy _ hm rfl
      exact hnew (List.mem_singleton.mp hm ▸ hy)
    · intro y
      simp only [List.mem_append, List.mem_singleton, h.mem_iff]
      constructor
      · rintro (⟨hs, hw⟩ | rfl)
        · exact ⟨Or.inl hs, hw⟩
        · exact ⟨Or.inr rfl, hwanted⟩
      · rintro ⟨hs | rfl, hw⟩
        · exact Or.inl ⟨hs, hw⟩
        · exact Or.inr rfl
    · rw [List.pairwise_append]
      refine ⟨h.ordered_append [x], List.pairwise_singleton _ x, ?_⟩
      intro y hy z hz
      rw [List.mem_singleton.mp hz, List.idxOf_append_of_mem ((h.mem_iff y).mp hy).1,
        List.idxOf_append_of_notMem hfirst]
      exact (List.idxOf_lt_length_of_mem ((h.mem_iff y).mp hy).1).trans_le (Nat.le_add_right _ _)
  · refine ⟨h.nodup, ?_, h.ordered_append [x]⟩
    intro y
    rw [h.mem_iff, List.mem_append, List.mem_singleton]
    constructor
    · exact fun hy => ⟨Or.inl hy.1, hy.2⟩
    · rintro ⟨hs | rfl, hw⟩
      · exact ⟨hs, hw⟩
      · by_contra hn
        exact hx ⟨hw, fun hk => hn ((h.mem_iff y).mp hk)⟩

lemma append (h : KeepsFirst wanted source kept) (xs : List α) :
    KeepsFirst wanted (source ++ xs) (xs.foldl (takeUp wanted) kept) := by
  induction xs generalizing source kept with
  | nil => rwa [List.append_nil]
  | cons x xs ih =>
    have hrest := ih (h.append_one x)
    rwa [List.append_assoc, List.singleton_append] at hrest

lemma unique {kept' : List α} (h : KeepsFirst wanted source kept) (h' : KeepsFirst wanted source kept') :
    kept = kept' := by
  have hmem : ∀ x, x ∈ kept ↔ x ∈ kept' := fun x => (h.mem_iff x).trans (h'.mem_iff x).symm
  have hperm := (List.perm_ext_iff_of_nodup h.nodup h'.nodup).mpr hmem
  exact List.Perm.eq_of_pairwise (fun _ _ _ _ hxy hyx => absurd hxy hyx.not_gt) h.ordered h'.ordered hperm

lemma again (h : KeepsFirst wanted source kept) : KeepsFirst wanted kept kept := by
  refine ⟨h.nodup, fun x => ⟨fun hx => ⟨hx, ((h.mem_iff x).mp hx).2⟩, And.left⟩, ?_⟩
  rw [List.pairwise_iff_getElem]
  intro i j hi hj hij
  rwa [h.nodup.idxOf_getElem, h.nodup.idxOf_getElem]

end KeepsFirst

lemma foldl_takeUp (xs kept : List α) :
    xs.foldl (takeUp wanted) kept = kept ++ ((xs.filter wanted).filter (· ∉ kept)).eraseDups := by
  induction xs generalizing kept with
  | nil => simp
  | cons x xs ih =>
    rw [List.foldl_cons, ih, takeUp]
    by_cases hw : wanted x = true
    · by_cases hk : x ∈ kept
      · rw [if_neg (by simp [hk]), List.filter_cons_of_pos hw, List.filter_cons_of_neg (by simpa using hk)]
      · rw [if_pos ⟨hw, hk⟩, List.filter_cons_of_pos hw, List.filter_cons_of_pos (by simpa using hk),
          List.eraseDups_cons, List.append_assoc, List.singleton_append]
        congr 3
        simp only [List.filter_filter]
        apply List.filter_congr
        intro y _
        by_cases hy : y = x <;> simp [hy]
    · rw [if_neg (by simp [hw]), List.filter_cons_of_neg hw]

lemma eraseDups_filter_eq_foldl (wanted : α → Bool) (xs : List α) :
    (xs.filter wanted).eraseDups = xs.foldl (takeUp wanted) [] := by
  simp [foldl_takeUp]

lemma keepsFirst_foldl (wanted : α → Bool) (xs : List α) : KeepsFirst wanted xs (xs.foldl (takeUp wanted) []) := by
  simpa using (keepsFirst_nil wanted).append xs

end Lists

lemma audiences_eq_foldl (app : Application) (request : AuthnRequest) :
    audiences app request = app.redirectUris.foldl (takeUp fun _ => true) [request.issuer] := by
  have hall := eraseDups_filter_eq_foldl (fun _ => true) (request.issuer :: app.redirectUris)
  rw [List.filter_true] at hall
  exact hall

lemma Principal.effectiveRoles_eq_foldl (p : Principal) :
    p.effectiveRoles = (p.roles ++ p.permissions).foldl (takeUp (· ≠ "")) [] :=
  eraseDups_filter_eq_foldl _ _

/-- The audiences are the issuer and the redirect URIs, and the roles those of the names that are not empty.
Both come from lists that are filled member by member, in order and without repetition. Given back as input they
do not change. -/
theorem first_occurrences_kept (app : Application) (request : AuthnRequest) (p : Principal) :
    audiences app request = app.redirectUris.foldl (takeUp fun _ => true) [request.issuer] ∧
    KeepsFirst (fun _ => true) (request.issuer :: app.redirectUris) (audiences app request) ∧
    (audiences app request).head? = some request.issuer ∧
    audiences { app with redirectUris := audiences app request } request = audiences app request ∧
    p.effectiveRoles = (p.roles ++ p.permissions).foldl (takeUp (· ≠ "")) [] ∧
    KeepsFirst (· ≠ "") (p.roles ++ p.permissions) p.effectiveRoles ∧
    ∀ n, { p with roles := p.effectiveRoles.take n, permissions := p.effectiveRoles.drop n }.effectiveRoles =
      p.effectiveRoles := by
  have haudiences : KeepsFirst (fun _ => true) (request.issuer :: app.redirectUris) (audiences app request) := by
    rw [audiences_eq_foldl]
    exact keepsFirst_foldl (fun _ => true) (request.issuer :: app.redirectUris)
  have hroles : KeepsFirst (· ≠ "") (p.roles ++ p.permissions) p.effectiveRoles := by
    rw [p.effectiveRoles_eq_foldl]
    exact keepsFirst_foldl _ _
  obtain ⟨others, hothers⟩ : ∃ others, audiences app request = request.issuer :: others := ⟨_, List.eraseDups_cons⟩
  have hhead : (audiences app request).head? = some request.issuer := by
    rw [hothers, List.head?_cons]
  refine ⟨audiences_eq_foldl app request, haudiences, hhead, ?_, p.effectiveRoles_eq_foldl, hroles, ?_⟩
  · -- The issuer leads the output too, where it is there already.
    calc audiences { app with redirectUris := audiences app request } request
        = (audiences app request).foldl (takeUp fun _ => true) [request.issuer] := audiences_eq_foldl _ request
      _ = (audiences app request).foldl (takeUp fun _ => true) [] := by
        rw [hothers]
        simp [takeUp]
      _ = audiences app request := (keepsFirst_foldl _ _).unique haudiences.again
  · intro n
    rw [Principal.effectiveRoles_eq_foldl, List.take_append_drop]
    exact (keepsFirst_foldl _ _).unique hroles.again

end IdentityProvider
