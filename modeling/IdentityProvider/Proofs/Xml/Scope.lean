import Mathlib.Data.List.Basic
import IdentityProvider.Proofs.Xml.CanonicalTree

namespace IdentityProvider.Xml

def declaredIn (attributes : List Attribute) : List (String × String) :=
  attributes.filterMap fun a => (declaredPrefix? a.1).map fun p => (p, a.2)

lemma declare_eq (scope : Scope) (attributes : List Attribute) :
    scope.declare attributes = (declaredIn attributes).reverse ++ scope := by
  induction attributes generalizing scope with
  | nil => rfl
  | cons a attributes ih =>
    rw [← List.singleton_append, declare_append, ih]
    cases hp : declaredPrefix? a.1 <;> simp [Scope.declare, declaredIn, hp]

lemma mem_declaredIn {attributes : List Attribute} {p uri : String} :
    (p, uri) ∈ declaredIn attributes ↔ ∃ a ∈ attributes, declaredPrefix? a.1 = some p ∧ a.2 = uri := by
  simp only [declaredIn, List.mem_filterMap, Option.map_eq_some_iff, Prod.mk.injEq]
  constructor
  · rintro ⟨a, ha, q, hq, rfl, rfl⟩
    exact ⟨a, ha, hq, rfl⟩
  · rintro ⟨a, ha, hq, rfl⟩
    exact ⟨a, ha, p, hq, rfl, rfl⟩

lemma lookup_mem {ds : List (String × String)} {p uri : String} (h : ds.lookup p = some uri) : (p, uri) ∈ ds := by
  obtain ⟨xs, ys, rfl, _⟩ := List.lookup_eq_some_iff.mp h
  simp

lemma lookup_of_mem {ds : List (String × String)} (hn : (ds.map Prod.fst).Nodup) {p uri : String}
    (h : (p, uri) ∈ ds) : ds.lookup p = some uri := by
  induction ds with
  | nil => cases h
  | cons d ds ih =>
    obtain ⟨q, v⟩ := d
    rw [List.map_cons, List.nodup_cons] at hn
    rcases List.mem_cons.mp h with he | hm
    · cases he
      simp
    · have hq : p ≠ q := by
        intro hq
        exact hn.1 (List.mem_map.mpr ⟨(p, uri), hm, hq⟩)
      rw [List.lookup_cons, beq_false_of_ne hq]
      exact ih hn.2 hm

lemma lookup_eq_none_of_fst {ds : List (String × String)} {p : String} (h : p ∉ ds.map Prod.fst) :
    ds.lookup p = none := by
  rw [List.lookup_eq_none_iff]
  intro d hd
  simpa using fun he : p = d.1 => h (he ▸ List.mem_map_of_mem hd)

lemma lookup_perm {ds es : List (String × String)} (h : ds.Perm es) (hn : (ds.map Prod.fst).Nodup) (p : String) :
    ds.lookup p = es.lookup p := by
  cases hl : es.lookup p with
  | some uri => exact lookup_of_mem hn (h.mem_iff.mpr (lookup_mem hl))
  | none =>
    rw [List.lookup_eq_none_iff] at hl ⊢
    exact fun d hd => hl d (h.mem_iff.mp hd)

lemma boundPrefixes_sublist (uri? : String → Option String) (ps : List String) :
    ((ps.filterMap fun p => (uri? p).map fun uri => (p, uri)).map Prod.fst).Sublist ps := by
  induction ps with
  | nil => exact List.Sublist.slnil
  | cons p ps ih =>
    cases hp : uri? p with
    | none => simpa [hp] using ih.cons p
    | some uri => simpa [hp] using ih

section Rendered

variable (scope rendered : Scope)

def neededUri? (p : String) : Option String :=
  match scope.lookup p with
  | some uri => if (rendered.lookup p).getD "" = uri then none else some uri
  | none => if p = "" ∧ (rendered.lookup p).getD "" ≠ "" then some "" else none

lemma neededDeclarations_eq (used : List String) :
    neededDeclarations scope rendered used =
      used.filterMap fun p => (neededUri? scope rendered p).map fun uri => (p, uri) := by
  rw [neededDeclarations]
  congr 1
  funext p
  rw [neededUri?]
  cases scope.lookup p with
  | some uri =>
    dsimp only
    split_ifs <;> rfl
  | none =>
    dsimp only
    split_ifs <;> rfl

lemma mem_neededDeclarations {used : List String} {p uri : String} :
    (p, uri) ∈ neededDeclarations scope rendered used ↔ p ∈ used ∧ neededUri? scope rendered p = some uri := by
  simp only [neededDeclarations_eq, List.mem_filterMap, Option.map_eq_some_iff, Prod.mk.injEq]
  constructor
  · rintro ⟨q, hq, v, hv, rfl, rfl⟩
    exact ⟨hq, hv⟩
  · rintro ⟨hp, hv⟩
    exact ⟨p, hp, uri, hv, rfl, rfl⟩

lemma neededDeclarations_nodup {used : List String} (hu : used.Nodup) :
    ((neededDeclarations scope rendered used).map Prod.fst).Nodup := by
  rw [neededDeclarations_eq]
  exact hu.sublist (boundPrefixes_sublist _ used)

def renderedBelow (used : List String) : Scope :=
  (neededDeclarations scope rendered used).reverse ++ rendered

lemma lookup_renderedBelow {used : List String} (hu : used.Nodup) {p : String} (hp : p ∈ used) :
    (renderedBelow scope rendered used).lookup p =
      (neededUri? scope rendered p).or (rendered.lookup p) := by
  have hn : ((neededDeclarations scope rendered used).reverse.map Prod.fst).Nodup := by
    rw [List.map_reverse, List.Perm.nodup_iff (List.reverse_perm _)]
    exact neededDeclarations_nodup scope rendered hu
  rw [renderedBelow, List.lookup_append]
  cases hv : neededUri? scope rendered p with
  | some uri =>
    have hm := (mem_neededDeclarations scope rendered).mpr ⟨hp, hv⟩
    rw [lookup_of_mem hn (List.mem_reverse.mpr hm), Option.some_or]
  | none =>
    rw [lookup_eq_none_of_fst, Option.none_or]
    rw [List.map_reverse, List.mem_reverse, List.mem_map]
    rintro ⟨⟨q, uri⟩, hm, rfl⟩
    have hq := ((mem_neededDeclarations scope rendered).mp hm).2
    rw [hv] at hq
    cases hq

lemma lookup_renderedBelow_unused {used : List String} {p : String} (hp : p ∉ used) :
    (renderedBelow scope rendered used).lookup p = rendered.lookup p := by
  rw [renderedBelow, List.lookup_append, lookup_eq_none_of_fst, Option.none_or]
  rw [List.map_reverse, List.mem_reverse, List.mem_map]
  rintro ⟨⟨q, uri⟩, hm, rfl⟩
  exact hp ((mem_neededDeclarations scope rendered).mp hm).1

lemma neededDeclarations_again {used : List String} (hu : used.Nodup) :
    neededDeclarations (renderedBelow scope rendered used) rendered used =
      neededDeclarations scope rendered used := by
  rw [neededDeclarations_eq, neededDeclarations_eq]
  apply List.filterMap_congr
  intro p hp
  have hl := lookup_renderedBelow scope rendered hu hp
  congr 1
  cases hv : neededUri? scope rendered p with
  | none =>
    rw [hv, Option.none_or] at hl
    cases hr : rendered.lookup p <;> simp [neededUri?, hl, hr]
  | some uri =>
    rw [hv, Option.some_or] at hl
    have hne : (rendered.lookup p).getD "" ≠ uri := by
      rw [neededUri?] at hv
      cases hs : scope.lookup p with
      | some v =>
        simp only [hs, Option.ite_none_left_eq_some, Option.some.injEq] at hv
        exact hv.2 ▸ hv.1
      | none =>
        simp only [hs, Option.ite_none_right_eq_some, Option.some.injEq] at hv
        exact hv.2 ▸ hv.1.2
    simp [neededUri?, hl, hne]

lemma neededDeclarations_congr {scope' : Scope} {used : List String}
    (h : ∀ p ∈ used, scope.lookup p = scope'.lookup p) :
    neededDeclarations scope rendered used = neededDeclarations scope' rendered used := by
  rw [neededDeclarations_eq, neededDeclarations_eq]
  apply List.filterMap_congr
  intro p hp
  simp only [neededUri?, h p hp]

end Rendered

lemma sortAttributes_congr {scope scope' : Scope} {attributes : List Attribute}
    (h : ∀ a ∈ attributes, sortKey scope a.1 = sortKey scope' a.1) :
    sortAttributes scope attributes = sortAttributes scope' attributes := by
  have hm := List.map_mergeSort (f := id) (l := attributes)
    (r := fun a b => sortKeyLe (sortKey scope a.1) (sortKey scope b.1))
    (s := fun a b => sortKeyLe (sortKey scope' a.1) (sortKey scope' b.1))
    (fun a ha b hb => by simp only [id_eq, h a ha, h b hb])
  simpa only [List.map_id, sortAttributes] using hm

lemma sortKey_congr {scope scope' : Scope} {name : String} {attributes : List Attribute}
    (h : ∀ p ∈ usedPrefixes name attributes, scope.lookup p = scope'.lookup p) {a : Attribute}
    (ha : a ∈ attributes) : sortKey scope a.1 = sortKey scope' a.1 := by
  unfold sortKey
  cases hq : qualifier? a.1 with
  | none => rfl
  | some p =>
    dsimp only
    by_cases hx : p = "xml"
    · rw [if_pos hx, if_pos hx]
    · rw [if_neg hx, if_neg hx, h p (mem_usedPrefixes.mpr ⟨hx, Or.inr ⟨a, ha, hq⟩⟩)]

mutual

/-- The prefixes that are used in a tree outside the reach of its own declarations of them. -/
def Node.freePrefixes : Node → List String
  | .element name attributes children =>
    (usedPrefixes name (plainAttributes attributes) ++ freePrefixes children).filter
      fun p => !(declaredIn attributes).any (fun d => d.1 == p)
  | .text _ => []

def freePrefixes : List Node → List String
  | [] => []
  | n :: ns => n.freePrefixes ++ freePrefixes ns

end

lemma lookup_declare_congr {scope scope' : Scope} {attributes : List Attribute} {p : String}
    (h : (declaredIn attributes).any (fun d => d.1 == p) = false → scope.lookup p = scope'.lookup p) :
    (scope.declare attributes).lookup p = (scope'.declare attributes).lookup p := by
  rw [declare_eq, declare_eq, List.lookup_append, List.lookup_append]
  cases hl : (declaredIn attributes).reverse.lookup p with
  | some uri => rfl
  | none =>
    have hn : (declaredIn attributes).any (fun d => d.1 == p) = false := by
      rw [List.lookup_eq_none_iff] at hl
      rw [List.any_eq_false]
      intro d hd
      have he := hl d (List.mem_reverse.mpr hd)
      simp only [bne_iff_ne] at he
      simpa using Ne.symm he
    rw [h hn]

lemma lookup_declare_free {scope scope' : Scope} {name : String} {attributes : List Attribute}
    {children : List Node} (h : ∀ p ∈ (Node.element name attributes children).freePrefixes,
    scope.lookup p = scope'.lookup p) :
    ∀ p ∈ usedPrefixes name (plainAttributes attributes) ++ freePrefixes children,
      (scope.declare attributes).lookup p = (scope'.declare attributes).lookup p := by
  intro p hp
  apply lookup_declare_congr
  intro hn
  apply h
  rw [Node.freePrefixes]
  exact List.mem_filter.mpr ⟨hp, by rw [hn]; rfl⟩

lemma canonicalTrees_congr {scope scope' : Scope} (rendered : Scope) {ns : List Node}
    (h : ∀ p ∈ freePrefixes ns, scope.lookup p = scope'.lookup p) :
    canonicalTrees scope rendered ns = canonicalTrees scope' rendered ns := by
  induction ns using nodes_induction generalizing scope scope' rendered with
  | nil => rfl
  | text s ns ih =>
    simp only [canonicalTrees, canonicalTree]
    rw [ih rendered fun p hp => h p (by simpa [freePrefixes, Node.freePrefixes] using hp)]
  | element name attributes children ns ihc ih =>
    rw [freePrefixes, List.forall_mem_append] at h
    obtain ⟨hu, hc⟩ := List.forall_mem_append.mp (lookup_declare_free h.1)
    have ho : declarationsOf scope rendered name attributes = declarationsOf scope' rendered name attributes :=
      neededDeclarations_congr _ rendered hu
    have hs : sortAttributes (scope.declare attributes) (plainAttributes attributes) =
        sortAttributes (scope'.declare attributes) (plainAttributes attributes) :=
      sortAttributes_congr fun a ha => sortKey_congr hu ha
    simp only [canonicalTrees, canonicalTree, canonicalAttributes, ho, hs]
    rw [ihc _ hc, ih rendered h.2]

def isPrefixedTag (p name : String) (attributes : List Attribute) : Bool :=
  qualifier? name == some p && (attributes.map Prod.fst).all fun key => (qualifier? key).isNone

lemma freePrefixes_prefixed {p : String} {ns : List Node}
    (h : allNodes (isPrefixedTag p) (fun _ => true) ns = true) : ∀ q ∈ freePrefixes ns, q = p := by
  induction ns using nodes_induction with
  | nil => simp [freePrefixes]
  | text s ns ih =>
    simp only [allNodes, Node.all, Bool.and_eq_true] at h
    simpa [freePrefixes, Node.freePrefixes] using ih h.2
  | element name attributes children ns ihc ih =>
    simp only [allNodes, Node.all, isPrefixedTag, Bool.and_eq_true, beq_iff_eq, List.all_eq_true,
      List.forall_mem_map] at h
    obtain ⟨⟨⟨hname, hattributes⟩, hc⟩, hr⟩ := h
    intro q hq
    rw [freePrefixes, Node.freePrefixes, List.mem_append, List.mem_filter, List.mem_append] at hq
    rcases hq with ⟨hu | hf, _⟩ | hf
    · rcases (mem_usedPrefixes.mp hu).2 with he | ⟨a, ha, he⟩
      · simpa [hname] using he
      · have hnone := hattributes a (mem_plainAttributes.mp ha).1
        simp [he] at hnone
    · exact ihc hc q hf
    · exact ih hr q hf

end IdentityProvider.Xml
