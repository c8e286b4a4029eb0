import Mathlib.Data.List.TakeWhile
import IdentityProvider.Proofs.Xml.Scope
/-! The canonical form is again a tree of XML 1.0, and its own canonical form. -/

namespace IdentityProvider.Xml

lemma qualifier_ncName {name p : String} (hn : isQName name = true) (h : qualifier? name = some p) :
    isNcName p.toList = true := by
  rw [qualifier?] at h
  split at h
  · rename_i hc
    cases h
    rw [isQName] at hn
    split at hn
    · rename_i hd
      rw [List.dropWhile_eq_nil_iff] at hd
      have hcolon := hd ':' (List.contains_iff_mem.mp hc)
      simp at hcolon
    · rw [Bool.and_eq_true] at hn
      simpa using hn.1
  · cases h

lemma isQName_declarationKey {p : String} (h : p = "" ∨ isNcName p.toList = true) :
    isQName (declarationKey p) = true := by
  rcases h with rfl | h
  · decide
  · have hp : p ≠ "" := by
      rintro rfl
      cases h
    have hk : (declarationKey p).toList = ['x', 'm', 'l', 'n', 's', ':'] ++ p.toList := by
      simp [declarationKey, hp]
    have hx : isNcName ['x', 'm', 'l', 'n', 's'] = true := by decide
    have hd : (declarationKey p).toList.dropWhile (· != ':') = ':' :: p.toList := by simp [hk]
    have ht : (declarationKey p).toList.takeWhile (· != ':') = ['x', 'm', 'l', 'n', 's'] := by simp [hk]
    simp only [isQName, hd, ht, hx, h, Bool.and_self]

lemma used_ncName {name p : String} {attributes : List Attribute} (hn : isQName name = true)
    (ha : ∀ a ∈ attributes, isQName a.1 = true) (hp : p ∈ usedPrefixes name attributes) :
    p = "" ∨ isNcName p.toList = true := by
  rcases (mem_usedPrefixes.mp hp).2 with he | ⟨a, hm, hq⟩
  · cases hq : qualifier? name with
    | none => exact Or.inl (by simpa [hq] using he)
    | some q =>
      have hpq : p = q := by simpa [hq] using he
      exact Or.inr (hpq ▸ qualifier_ncName hn hq)
  · exact Or.inr (qualifier_ncName (ha a hm) hq)

section Tag

variable {scope rendered : Scope} {name : String} {attributes : List Attribute}

lemma declarationKey_mem_qName (h : isNamedTag name attributes = true) {d : String × String}
    (hd : d ∈ declarationsOf scope rendered name attributes) : isQName (declarationKey d.1) = true := by
  rw [namedTag_iff] at h
  have hu := ((mem_neededDeclarations _ _).mp hd).1
  exact isQName_declarationKey
    (used_ncName h.1 (fun a ha => h.2.1 a (mem_plainAttributes.mp ha).1) hu)

lemma canonicalTag_named (h : isNamedTag name attributes = true) :
    isNamedTag name (canonicalAttributes scope rendered name attributes) = true := by
  have h' := namedTag_iff.mp h
  rw [namedTag_iff, canonicalAttributes]
  refine ⟨h'.1, ?_, ?_⟩
  · intro a ha
    rcases List.mem_append.mp ha with hd | hp
    · obtain ⟨d, hm, rfl⟩ := List.mem_map.mp hd
      exact declarationKey_mem_qName h hm
    · exact h'.2.1 a (mem_plainAttributes.mp (mem_sortAttributes.mp hp)).1
  · have hdeclared : ((declarationsOf scope rendered name attributes).map
        fun d => declarationKey d.1).Nodup := by
      have hn := neededDeclarations_nodup (scope.declare attributes) rendered
        (usedPrefixes_nodup name (plainAttributes attributes))
      have hm := hn.map fun _ _ => declarationKey_injective
      rwa [List.map_map] at hm
    have hplain : ((sortAttributes (scope.declare attributes) (plainAttributes attributes)).map
        Prod.fst).Nodup := by
      have hs : ((plainAttributes attributes).map Prod.fst).Nodup :=
        h'.2.2.sublist (List.filter_sublist.map _)
      exact ((sortAttributes_perm _ _).map Prod.fst).nodup_iff.mpr hs
    rw [List.map_append, List.map_map, List.nodup_append]
    refine ⟨hdeclared, hplain, ?_⟩
    intro k hk l hl hkl
    obtain ⟨d, _, rfl⟩ := List.mem_map.mp hk
    obtain ⟨a, ha, rfl⟩ := List.mem_map.mp hl
    have hp := (mem_plainAttributes.mp (mem_sortAttributes.mp ha)).2
    rw [← hkl] at hp
    simp [declarationAttribute] at hp

lemma declared_uri {p uri : String} (h : (p, uri) ∈ scope.declare attributes) :
    (p, uri) ∈ scope ∨ ∃ a ∈ attributes, declaredPrefix? a.1 = some p ∧ a.2 = uri := by
  rw [declare_eq, List.mem_append, List.mem_reverse, mem_declaredIn] at h
  exact h.symm

lemma neededUri_isXmlText {p uri : String} (hs : ∀ d ∈ scope, isXmlText d.2 = true)
    (h : neededUri? scope rendered p = some uri) : isXmlText uri = true := by
  rw [neededUri?] at h
  cases hl : scope.lookup p with
  | some v =>
    simp only [hl, Option.ite_none_left_eq_some, Option.some.injEq] at h
    exact h.2 ▸ hs _ (lookup_mem hl)
  | none =>
    simp only [hl, Option.ite_none_right_eq_some, Option.some.injEq] at h
    rw [← h.2]
    rfl

lemma canonicalTag_writable (hs : ∀ d ∈ scope.declare attributes, isXmlText d.2 = true)
    (hn : isNamedTag name attributes = true) (hw : isWritableTag name attributes = true) :
    isWritableTag name (canonicalAttributes scope rendered name attributes) = true := by
  rw [isWritableTag_iff] at hw ⊢
  refine ⟨hw.1, ?_⟩
  intro a ha
  rcases List.mem_append.mp ha with hd | hp
  · obtain ⟨d, hm, rfl⟩ := List.mem_map.mp hd
    constructor
    · have hq := declarationKey_mem_qName hn hm
      exact qName_isXmlText hq
    · exact neededUri_isXmlText hs ((mem_neededDeclarations _ _).mp hm).2
  · exact hw.2 a (mem_plainAttributes.mp (mem_sortAttributes.mp hp)).1

lemma declare_isXmlText (hs : ∀ d ∈ scope, isXmlText d.2 = true)
    (hw : isWritableTag name attributes = true) :
    ∀ d ∈ scope.declare attributes, isXmlText d.2 = true := by
  rintro ⟨p, uri⟩ hd
  rcases declared_uri hd with hd | ⟨a, ha, _, rfl⟩
  · exact hs _ hd
  · exact ((isWritableTag_iff.mp hw).2 a ha).2

end Tag

lemma canonicalTrees_named (scope rendered : Scope) {ns : List Node}
    (h : allNodes isNamedTag (fun _ => true) ns = true) :
    allNodes isNamedTag (fun _ => true) (canonicalTrees scope rendered ns) = true := by
  induction ns using nodes_induction generalizing scope rendered with
  | nil => rfl
  | text s ns ih =>
    simp only [canonicalTrees, canonicalTree, allNodes, Node.all, Bool.and_eq_true] at h ⊢
    exact ⟨trivial, ih _ _ h.2⟩
  | element name attributes children ns ihc ih =>
    simp only [canonicalTrees, canonicalTree, allNodes, Node.all, Bool.and_eq_true] at h ⊢
    exact ⟨⟨canonicalTag_named h.1.1, ihc _ _ h.1.2⟩, ih _ _ h.2⟩

lemma canonicalTrees_writable {scope : Scope} (rendered : Scope) {ns : List Node}
    (hs : ∀ d ∈ scope, isXmlText d.2 = true) (hn : allNodes isNamedTag (fun _ => true) ns = true)
    (hw : allNodes isWritableTag isXmlText ns = true) :
    allNodes isWritableTag isXmlText (canonicalTrees scope rendered ns) = true := by
  induction ns using nodes_induction generalizing scope rendered with
  | nil => rfl
  | text s ns ih =>
    simp only [canonicalTrees, canonicalTree, allNodes, Node.all, Bool.and_eq_true] at hn hw ⊢
    exact ⟨hw.1, ih _ hs hn.2 hw.2⟩
  | element name attributes children ns ihc ih =>
    simp only [canonicalTrees, canonicalTree, allNodes, Node.all, Bool.and_eq_true] at hn hw ⊢
    have hd := declare_isXmlText hs hw.1.1
    exact ⟨⟨canonicalTag_writable hd hn.1.1 hw.1.1, ihc _ hd hn.1.2 hw.1.2⟩, ih _ hs hn.2 hw.2⟩

def isBoundTag (_ : String) (attributes : List Attribute) : Bool :=
  (declaredIn attributes).all fun d => d.1 == "" || d.2 != ""

def Element.IsBound (e : Element) : Prop :=
  e.toNode.all isBoundTag (fun _ => true) = true

instance (e : Element) : Decidable e.IsBound :=
  inferInstanceAs (Decidable (_ = true))

lemma Element.IsBound.merged {e : Element} (h : e.IsBound) : e.merged.IsBound := by
  rw [Element.IsBound, all_toNode] at h ⊢
  simpa only [Element.merged, allNodes_merged _ (fun _ => true) rfl (by simp)] using h

/-- What holds between the bindings in scope and the rendered ones all the way down a tree. -/
structure Consistent (scope rendered : Scope) : Prop where
  bound : ∀ p, p ≠ "" → scope.lookup p ≠ some ""
  rendered_bound : ∀ p, p ≠ "" → scope.lookup p = none → rendered.lookup p = none

lemma consistent_nil : Consistent [] [] where
  bound _ _ := by simp
  rendered_bound _ _ h := h

section Consistent

variable {scope rendered : Scope} {attributes : List Attribute}

lemma Consistent.declare (h : Consistent scope rendered) {name : String}
    (ha : isBoundTag name attributes = true) : Consistent (scope.declare attributes) rendered where
  bound p hp hl := by
    rw [declare_eq, List.lookup_append] at hl
    cases hd : (declaredIn attributes).reverse.lookup p with
    | some uri =>
      have hm := List.mem_reverse.mp (lookup_mem hd)
      have hb := List.all_eq_true.mp ha _ hm
      rw [hd, Option.some_or, Option.some.injEq] at hl
      simp [hp, hl] at hb
    | none =>
      rw [hd, Option.none_or] at hl
      exact h.bound p hp hl
  rendered_bound p hp hl := by
    rw [declare_eq, List.lookup_append, Option.or_eq_none_iff] at hl
    exact h.rendered_bound p hp hl.2

lemma Consistent.lookup_below (h : Consistent scope rendered) {used : List String} (hu : used.Nodup)
    {p : String} (hp : p ≠ "") (hm : p ∈ used) :
    (renderedBelow scope rendered used).lookup p = scope.lookup p := by
  rw [lookup_renderedBelow scope rendered hu hm, neededUri?]
  cases hl : scope.lookup p with
  | none => simp [hp, h.rendered_bound p hp hl]
  | some uri =>
    have hne : uri ≠ "" := fun he => h.bound p hp (he ▸ hl)
    cases hr : rendered.lookup p with
    | none => simp [Ne.symm hne]
    | some v =>
      by_cases hv : v = uri <;> simp [hv]

lemma default_below {used : List String} (hu : used.Nodup) (hm : "" ∈ used) :
    ((renderedBelow scope rendered used).lookup "").getD "" = (scope.lookup "").getD "" := by
  rw [lookup_renderedBelow scope rendered hu hm, neededUri?]
  cases hl : scope.lookup "" with
  | none =>
    by_cases hr : (rendered.lookup "").getD "" = "" <;> simp [hr]
  | some uri =>
    by_cases hr : (rendered.lookup "").getD "" = uri <;> simp [hr]

lemma Consistent.below (h : Consistent scope rendered) {used : List String} (hu : used.Nodup) :
    Consistent scope (renderedBelow scope rendered used) where
  bound := h.bound
  rendered_bound p hp hl := by
    by_cases hm : p ∈ used
    · rw [h.lookup_below hu hp hm, hl]
    · rw [lookup_renderedBelow_unused scope rendered hm]
      exact h.rendered_bound p hp hl

lemma Consistent.sortKey_below (h : Consistent scope rendered) {name : String}
    (hn : ∀ a ∈ attributes, isQName a.1 = true) {a : Attribute} (ha : a ∈ attributes) :
    sortKey (renderedBelow scope rendered (usedPrefixes name attributes)) a.1 = sortKey scope a.1 := by
  unfold sortKey
  cases hq : qualifier? a.1 with
  | none => rfl
  | some p =>
    dsimp only
    by_cases hx : p = "xml"
    · rw [if_pos hx, if_pos hx]
    · have hp : p ≠ "" := by
        rintro rfl
        cases qualifier_ncName (hn a ha) hq
      have hm : p ∈ usedPrefixes name attributes := mem_usedPrefixes.mpr ⟨hx, Or.inr ⟨a, ha, hq⟩⟩
      rw [if_neg hx, if_neg hx, h.lookup_below (usedPrefixes_nodup _ _) hp hm]

end Consistent

section Again

variable (scope rendered : Scope) (name : String) (attributes : List Attribute)

lemma sorted_plain {a : Attribute}
    (ha : a ∈ sortAttributes (scope.declare attributes) (plainAttributes attributes)) :
    declaredPrefix? a.1 = none :=
  (mem_plainAttributes.mp (mem_sortAttributes.mp ha)).2

lemma declare_canonicalAttributes :
    rendered.declare (canonicalAttributes scope rendered name attributes) =
      renderedBelow (scope.declare attributes) rendered (usedPrefixes name (plainAttributes attributes)) := by
  rw [canonicalAttributes, declare_append, declare_declarations, declare_plain]
  · rfl
  · exact fun a ha => sorted_plain scope attributes ha

lemma plain_canonicalAttributes :
    plainAttributes (canonicalAttributes scope rendered name attributes) =
      sortAttributes (scope.declare attributes) (plainAttributes attributes) := by
  rw [canonicalAttributes]
  rw [plainAttributes, List.filter_append, List.filter_eq_nil_iff.mpr, List.filter_eq_self.mpr,
    List.nil_append]
  · intro a ha
    simp [sorted_plain scope attributes ha]
  · intro a ha
    obtain ⟨d, _, rfl⟩ := List.mem_map.mp ha
    simp [declarationAttribute]

lemma used_canonicalAttributes :
    usedPrefixes name (plainAttributes (canonicalAttributes scope rendered name attributes)) =
      usedPrefixes name (plainAttributes attributes) := by
  rw [plain_canonicalAttributes]
  exact usedPrefixes_perm name (sortAttributes_perm _ _)

lemma declarationsOf_canonicalAttributes :
    declarationsOf rendered rendered name (canonicalAttributes scope rendered name attributes) =
      declarationsOf scope rendered name attributes := by
  rw [declarationsOf, declare_canonicalAttributes, used_canonicalAttributes]
  exact neededDeclarations_again _ _ (usedPrefixes_nodup _ _)

end Again

theorem canonicalTrees_twice {scope rendered : Scope} (h : Consistent scope rendered) {ns : List Node}
    (hn : allNodes isNamedTag (fun _ => true) ns = true)
    (hb : allNodes isBoundTag (fun _ => true) ns = true) :
    canonicalTrees rendered rendered (canonicalTrees scope rendered ns) = canonicalTrees scope rendered ns := by
  induction ns using nodes_induction generalizing scope rendered with
  | nil => rfl
  | text s ns ih =>
    simp only [allNodes, Node.all, Bool.and_eq_true] at hn hb
    simp only [canonicalTrees, canonicalTree, ih h hn.2 hb.2]
  | element name attributes children ns ihc ih =>
    simp only [allNodes, Node.all, Bool.and_eq_true] at hn hb
    have hd := h.declare hb.1.1
    have hu := usedPrefixes_nodup name (plainAttributes attributes)
    have hq : ∀ a ∈ plainAttributes attributes, isQName a.1 = true := fun a ha =>
      (namedTag_iff.mp hn.1.1).2.1 a (mem_plainAttributes.mp ha).1
    -- The rendered bindings give every attribute the key by which it was sorted.
    have hs : sortAttributes (renderedBelow (scope.declare attributes) rendered
          (usedPrefixes name (plainAttributes attributes)))
        (sortAttributes (scope.declare attributes) (plainAttributes attributes)) =
          sortAttributes (scope.declare attributes) (plainAttributes attributes) :=
      sortAttributes_sorted fun a ha => hd.sortKey_below hq ha
    have hc := ihc (hd.below hu) hn.1.2 hb.1.2
    have ha : canonicalAttributes rendered rendered name (canonicalAttributes scope rendered name attributes) =
        canonicalAttributes scope rendered name attributes := by
      rw [canonicalAttributes, declarationsOf_canonicalAttributes, declare_canonicalAttributes,
        plain_canonicalAttributes, hs]
      rfl
    simp only [canonicalTrees, canonicalTree, ha, declare_canonicalAttributes,
      declarationsOf_canonicalAttributes, ih h hn.2 hb.2]
    exact congrArg (fun ns => Node.element name _ ns :: _) hc

section Element

variable {e : Element}

lemma isNamed_iff : e.IsNamed ↔ allNodes isNamedTag (fun _ => true) [e.toNode] = true := by
  simp [Element.IsNamed, allNodes]

lemma isWritable_iff : e.IsWritable ↔ allNodes isWritableTag isXmlText [e.toNode] = true := by
  simp [Element.IsWritable, allNodes]

lemma isBound_iff : e.IsBound ↔ allNodes isBoundTag (fun _ => true) [e.toNode] = true := by
  simp [Element.IsBound, allNodes]

lemma Element.IsNamed.canonicalElement (h : e.IsNamed) : (e.canonicalElement [] []).IsNamed :=
  isNamed_iff.mpr (canonicalTrees_named [] [] (isNamed_iff.mp h))

lemma Element.IsWritable.canonicalElement (hw : e.IsWritable) (h : e.IsNamed) :
    (e.canonicalElement [] []).IsWritable := by
  have hs : ∀ d ∈ ([] : Scope), isXmlText d.2 = true := by simp
  exact isWritable_iff.mpr (canonicalTrees_writable [] hs (isNamed_iff.mp h) (isWritable_iff.mp hw))

lemma canonicalElement_twice (h : e.IsNamed) (hb : e.IsBound) :
    (e.canonicalElement [] []).canonicalElement [] [] = e.canonicalElement [] [] := by
  have hc := canonicalTrees_twice consistent_nil (isNamed_iff.mp h) (isBound_iff.mp hb)
  simp only [canonicalTrees, ← canonicalElement_toNode, List.cons.injEq, and_true] at hc
  exact toNode_injective hc

end Element

lemma parse_canonicalize {e : Element} {c : String} (hn : e.IsNamed) (hc : e.canonicalize = .ok c) :
    parse c = .ok (e.canonicalElement [] []).merged := by
  rw [(canonicalize_ok_iff.mp hc).2]
  exact parse_render canonicalEscapes hn.canonicalElement

end IdentityProvider.Xml
