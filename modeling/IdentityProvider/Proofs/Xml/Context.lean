import IdentityProvider.Proofs.Xml.Placement
/-! What the canonical form of a subtree takes from its context: the bindings of the prefixes that are used
where the subtree does not declare them. Declarations of the context may as well stand on the subtree itself. -/

namespace IdentityProvider.Xml

def inheritedUri? (inherited : List Attribute) (p : String) : Option String :=
  (inherited.reverse.find? fun a => declaredPrefix? a.1 == some p).map Prod.snd

def Element.UsesFree (e : Element) (p : String) : Prop :=
  ∃ o ∈ e.toNode.occurrences [], o.tag.uses p = true ∧ ∀ t ∈ o.tag :: o.above, t.declared? p = none

/-- Declarations that an element takes over: the last of every inherited prefix that it does not itself declare.
-/
structure Element.TakesOver (e : Element) (inherited : List Attribute) (ds : List (String × String)) : Prop where
  nodup : (ds.map Prod.fst).Nodup
  mem_iff : ∀ p uri, (p, uri) ∈ ds ↔
    inheritedUri? inherited p = some uri ∧ ∀ a ∈ e.attributes, declaredPrefix? a.1 ≠ some p

def Element.declareAll (e : Element) (ds : List (String × String)) : Element :=
  { e with attributes := e.attributes ++ ds.map declarationAttribute }

def areXmlDeclarations (ds : List (String × String)) : Bool :=
  ds.all fun d => isXmlText d.1 && isXmlText d.2

lemma lookup_declaredIn_find (attributes : List Attribute) (p : String) :
    (declaredIn attributes).lookup p = (attributes.find? fun a => declaredPrefix? a.1 == some p).map Prod.snd := by
  induction attributes with
  | nil => rfl
  | cons a attributes ih =>
    rw [declaredIn] at ih ⊢
    rw [List.filterMap_cons, List.find?_cons]
    cases hd : declaredPrefix? a.1 with
    | none => exact ih
    | some q =>
      by_cases hq : q = p
      · simp [hq]
      · have hb : (some q == some p) = false := by simpa using hq
        rw [hb, Option.map_some, List.lookup_cons, beq_false_of_ne (Ne.symm hq)]
        exact ih

lemma lookup_inherited (inherited : List Attribute) (p : String) :
    (Scope.declare [] inherited).lookup p = inheritedUri? inherited p := by
  rw [declare_eq, List.append_nil, declaredIn, ← List.filterMap_reverse]
  exact lookup_declaredIn_find _ p

lemma mem_declared_of_inheritedUri {inherited : List Attribute} {p uri : String}
    (h : inheritedUri? inherited p = some uri) : p ∈ (declaredIn inherited).map Prod.fst := by
  rw [← lookup_inherited, declare_eq, List.append_nil] at h
  exact List.mem_map.mpr ⟨(p, uri), List.mem_reverse.mp (lookup_mem h), rfl⟩

lemma declared_none_iff {name : String} {attributes : List Attribute} (hq : ∀ a ∈ attributes, isQName a.1 = true)
    {p : String} : (StartTag.mk name attributes).declared? p = none ↔
    ∀ a ∈ attributes, declaredPrefix? a.1 ≠ some p := by
  rw [StartTag.declared?, ← lookup_declaredIn hq, lookup_declaredIn_find]
  simp

lemma not_declared_of_any {name p : String} {attributes : List Attribute}
    (hq : ∀ a ∈ attributes, isQName a.1 = true) (h : (declaredIn attributes).any (fun d => d.1 == p) = false) :
    (StartTag.mk name attributes).declared? p = none := by
  rw [declared_none_iff hq]
  intro a ha hd
  have hm : (p, a.2) ∈ declaredIn attributes := mem_declaredIn.mpr ⟨a, ha, hd, rfl⟩
  rw [List.any_eq_false] at h
  exact h _ hm (beq_self_eq_true p)

lemma occurrence_of_freePrefixes {p : String} {ns : List Node} (hn : allNodes isNamedTag (fun _ => true) ns = true)
    (hp : p ∈ freePrefixes ns) (above : List StartTag) (ha : ∀ t ∈ above, t.declared? p = none) :
    p ≠ "xml" ∧ ∃ o ∈ occurrences above ns, o.tag.uses p = true ∧
      ∀ t ∈ o.tag :: o.above, t.declared? p = none := by
  induction ns using nodes_induction generalizing above with
  | nil => cases hp
  | text s ns ih =>
    simp only [allNodes, Node.all, Bool.and_eq_true] at hn
    exact ih hn.2 hp above ha
  | element name attributes children ns ihc ih =>
    simp only [allNodes, Node.all, Bool.and_eq_true] at hn
    rw [occurrences, Node.occurrences]
    rw [freePrefixes, Node.freePrefixes, List.mem_append, List.mem_filter, Bool.not_eq_true',
      List.mem_append] at hp
    rcases hp with ⟨hp, hd⟩ | hp
    · have hall : ∀ t ∈ StartTag.mk name attributes :: above, t.declared? p = none :=
        List.forall_mem_cons.mpr ⟨not_declared_of_any (namedTag_iff.mp hn.1.1).2.1 hd, ha⟩
      rcases hp with hu | hc
      · have hx := (mem_usedPrefixes.mp hu).1
        exact ⟨hx, _, List.mem_cons_self, (uses_iff hx).mpr hu, hall⟩
      · obtain ⟨hx, o, ho, h⟩ := ihc hn.1.2 hc _ hall
        exact ⟨hx, o, List.mem_cons_of_mem _ (List.mem_append_left _ ho), h⟩
    · obtain ⟨hx, o, ho, h⟩ := ih hn.2 hp above ha
      exact ⟨hx, o, List.mem_cons_of_mem _ (List.mem_append_right _ ho), h⟩

namespace Element

variable {e : Element}

lemma IsNamed.usesFree (hn : e.IsNamed) {p : String} (hp : p ∈ freePrefixes [e.toNode]) :
    p ≠ "xml" ∧ e.UsesFree p := by
  have h := occurrence_of_freePrefixes (isNamed_iff.mp hn) hp [] (by simp)
  rwa [occurrences, occurrences, List.append_nil] at h

lemma canonicalizeIn_of_tree {f : Element} {inherited inherited' : List Attribute}
    (hc : checkNode e.toNode = checkNode f.toNode)
    (ht : canonicalTree (Scope.declare [] inherited) [] e.toNode =
    canonicalTree (Scope.declare [] inherited') [] f.toNode) :
    e.canonicalizeIn inherited = f.canonicalizeIn inherited' := by
  rw [canonicalizeIn, canonicalizeIn, canonicalNode_eq, canonicalNode_eq, hc, ht]

theorem IsNamed.canonicalizeIn_congr (hn : e.IsNamed) {first second : List Attribute}
    (h : ∀ p, p ≠ "xml" → e.UsesFree p → inheritedUri? first p = inheritedUri? second p) :
    e.canonicalizeIn first = e.canonicalizeIn second := by
  have hl : ∀ p ∈ freePrefixes [e.toNode], (Scope.declare [] first).lookup p =
    (Scope.declare [] second).lookup p := by
    intro p hp
    obtain ⟨hx, hu⟩ := hn.usesFree hp
    rw [lookup_inherited, lookup_inherited, h p hx hu]
  have ht := canonicalTrees_congr [] hl
  rw [canonicalTrees, canonicalTrees, canonicalTrees, canonicalTrees] at ht
  exact canonicalizeIn_of_tree rfl (List.cons.inj ht).1

lemma exists_takesOver (e : Element) (inherited : List Attribute) : ∃ ds, e.TakesOver inherited ds := by
  let isOpen p := !(e.attributes.any fun a => declaredPrefix? a.1 == some p)
  let prefixes := (((declaredIn inherited).map Prod.fst).eraseDups).filter isOpen
  have hn : prefixes.Nodup := (eraseDups_nodup _).filter _
  refine ⟨prefixes.filterMap fun p => (inheritedUri? inherited p).map fun uri => (p, uri), ?_, ?_⟩
  · exact hn.sublist (boundPrefixes_sublist _ prefixes)
  · intro p uri
    have ho : isOpen p = true ↔ ∀ a ∈ e.attributes, declaredPrefix? a.1 ≠ some p := by simp [isOpen]
    simp only [List.mem_filterMap, Option.map_eq_some_iff, Prod.mk.injEq, prefixes, List.mem_filter,
      List.mem_eraseDups]
    constructor
    · rintro ⟨q, ⟨_, hq⟩, v, hv, rfl, rfl⟩
      exact ⟨hv, ho.mp hq⟩
    · rintro ⟨hu, hp⟩
      exact ⟨p, ⟨mem_declared_of_inheritedUri hu, ho.mpr hp⟩, uri, hu, rfl, rfl⟩

lemma takesOver_declarations {ds : List (String × String)} (hn : (ds.map Prod.fst).Nodup)
    (hf : ∀ d ∈ ds, ∀ a ∈ e.attributes, declaredPrefix? a.1 ≠ some d.1) :
    e.TakesOver (ds.map declarationAttribute) ds where
  nodup := hn
  mem_iff p uri := by
    have hr : (ds.reverse.map Prod.fst).Nodup := by
      rw [List.map_reverse, List.nodup_reverse]
      exact hn
    rw [← lookup_inherited, declare_declarations, List.append_nil]
    constructor
    · intro hm
      exact ⟨lookup_of_mem hr (List.mem_reverse.mpr hm), hf _ hm⟩
    · rintro ⟨hl, _⟩
      exact List.mem_reverse.mp (lookup_mem hl)

section TakesOver

variable {inherited : List Attribute} {ds : List (String × String)}

lemma declare_declareAll (e : Element) (ds : List (String × String)) :
    Scope.declare [] (e.declareAll ds).attributes = ds.reverse ++ Scope.declare [] e.attributes := by
  rw [declareAll, declare_append, declare_declarations]

lemma plainAttributes_declareAll (e : Element) (ds : List (String × String)) :
    plainAttributes (e.declareAll ds).attributes = plainAttributes e.attributes := by
  have hds : plainAttributes (ds.map declarationAttribute) = [] := by
    rw [plainAttributes, List.filter_eq_nil_iff]
    intro a ha
    obtain ⟨d, _, rfl⟩ := List.mem_map.mp ha
    simp [declarationAttribute]
  rw [plainAttributes] at hds ⊢
  rw [declareAll, List.filter_append, hds, List.append_nil]
  rfl

lemma TakesOver.lookup (h : e.TakesOver inherited ds) (p : String) :
    ((Scope.declare [] inherited).declare e.attributes).lookup p =
      (Scope.declare [] (e.declareAll ds).attributes).lookup p := by
  have hr : (ds.reverse.map Prod.fst).Nodup := by
    rw [List.map_reverse, List.nodup_reverse]
    exact h.nodup
  have hown : (Scope.declare [] e.attributes).lookup p = inheritedUri? e.attributes p := lookup_inherited _ p
  have hsplit : ((Scope.declare [] inherited).declare e.attributes).lookup p =
      (inheritedUri? e.attributes p).or (inheritedUri? inherited p) := by
    rw [declare_eq, List.lookup_append, lookup_inherited]
    rw [declare_eq, List.append_nil] at hown
    rw [hown]
  rw [hsplit, declare_declareAll, List.lookup_append, hown]
  by_cases hd : ∀ a ∈ e.attributes, declaredPrefix? a.1 ≠ some p
  · have hnone : inheritedUri? e.attributes p = none := by simpa [inheritedUri?] using hd
    rw [hnone, Option.none_or, Option.or_none]
    cases hu : inheritedUri? inherited p with
    | some uri => exact (lookup_of_mem hr (List.mem_reverse.mpr ((h.mem_iff p uri).mpr ⟨hu, hd⟩))).symm
    | none =>
      cases hl : ds.reverse.lookup p with
      | none => rfl
      | some uri =>
        have hm := ((h.mem_iff p uri).mp (List.mem_reverse.mp (lookup_mem hl))).1
        rw [hu] at hm
        cases hm
  · have hnone : ds.reverse.lookup p = none := by
      apply lookup_eq_none_of_fst
      rw [List.map_reverse, List.mem_reverse, List.mem_map]
      rintro ⟨⟨q, uri⟩, hm, rfl⟩
      exact hd ((h.mem_iff q uri).mp hm).2
    have hsome : inheritedUri? e.attributes p ≠ none := by simpa [inheritedUri?] using hd
    rw [hnone, Option.none_or]
    cases ho : inheritedUri? e.attributes p with
    | none => exact absurd ho hsome
    | some uri => rfl

lemma TakesOver.canonicalTree (h : e.TakesOver inherited ds) :
    canonicalTree (Scope.declare [] inherited) [] e.toNode =
      canonicalTree (Scope.declare [] []) [] (e.declareAll ds).toNode := by
  have hp := plainAttributes_declareAll e ds
  have hused : ∀ p ∈ usedPrefixes e.name (plainAttributes e.attributes),
      ((Scope.declare [] inherited).declare e.attributes).lookup p =
        (Scope.declare [] (e.declareAll ds).attributes).lookup p := fun p _ => h.lookup p
  have hd : declarationsOf (Scope.declare [] inherited) [] e.name e.attributes =
      declarationsOf [] [] e.name (e.declareAll ds).attributes := by
    rw [declarationsOf, declarationsOf, hp]
    exact neededDeclarations_congr _ [] hused
  have hs : sortAttributes ((Scope.declare [] inherited).declare e.attributes) (plainAttributes e.attributes) =
      sortAttributes (Scope.declare [] (e.declareAll ds).attributes)
        (plainAttributes (e.declareAll ds).attributes) := by
    rw [hp]
    exact sortAttributes_congr fun a ha => sortKey_congr hused ha
  have hfree : ∀ p ∈ freePrefixes e.children, ((Scope.declare [] inherited).declare e.attributes).lookup p =
      (Scope.declare [] (e.declareAll ds).attributes).lookup p := fun p _ => h.lookup p
  have hc := canonicalTrees_congr
    ((declarationsOf (Scope.declare [] inherited) [] e.name e.attributes).reverse ++ []) hfree
  rw [← canonicalElement_toNode, ← canonicalElement_toNode]
  congr 1
  rw [canonicalElement, canonicalElement, canonicalAttributes, canonicalAttributes, hd, hs]
  rw [hd] at hc
  rw [hc]
  rfl

lemma isXmlText_declarationKey (p : String) : isXmlText (declarationKey p) = isXmlText p := by
  have hx : isXmlText "xmlns:" = true := by decide
  by_cases hp : p = ""
  · rw [hp]
    decide
  · rw [declarationKey, if_neg hp, isXmlText_append, hx, Bool.true_and]

lemma checkAttributes_append (xs ys : List Attribute) :
    checkAttributes (xs ++ ys) = checkAttributes xs >>= fun _ => checkAttributes ys := by
  induction xs with
  | nil => rfl
  | cons x xs ih =>
    rw [List.cons_append, checkAttributes, checkAttributes, ih]
    cases checkChars x.1.toList with
    | error f => rfl
    | ok u => cases checkChars x.2.toList <;> rfl

lemma all_declarations (ds : List (String × String)) :
    (ds.map declarationAttribute).all (fun a => isXmlText a.1 && isXmlText a.2) = areXmlDeclarations ds := by
  simp [areXmlDeclarations, declarationAttribute, isXmlText_declarationKey, Function.comp_def]

lemma checkNode_declareAll (h : areXmlDeclarations ds = true) :
    checkNode e.toNode = checkNode (e.declareAll ds).toNode := by
  have hc : checkAttributes (e.declareAll ds).attributes = checkAttributes e.attributes := by
    rw [declareAll, checkAttributes_append, checkAttributes_ok_iff.mpr ((all_declarations ds).trans h)]
    cases checkAttributes e.attributes <;> rfl
  rw [toNode, toNode, checkNode, checkNode, hc]
  rfl

lemma isWritable_declareAll : (e.declareAll ds).IsWritable ↔ e.IsWritable ∧ areXmlDeclarations ds = true := by
  rw [IsWritable, IsWritable, all_toNode, all_toNode, isWritableTag, isWritableTag, declareAll, List.all_append,
    all_declarations]
  simp only [Bool.and_eq_true]
  tauto

theorem TakesOver.canonicalize_eq (h : e.TakesOver inherited ds) (hds : areXmlDeclarations ds = true) :
    e.canonicalizeIn inherited = (e.declareAll ds).canonicalize :=
  canonicalizeIn_of_tree (checkNode_declareAll hds) h.canonicalTree

theorem TakesOver.canonicalize_ok_iff (h : e.TakesOver inherited ds) {written : String} :
    (e.declareAll ds).canonicalize = .ok written ↔
      e.canonicalizeIn inherited = .ok written ∧ areXmlDeclarations ds = true := by
  have ht := h.canonicalTree
  rw [← canonicalElement_toNode, ← canonicalElement_toNode] at ht
  rw [canonicalize, canonicalizeIn_ok_iff, canonicalizeIn_ok_iff, ht, isWritable_declareAll]
  tauto

end TakesOver

end Element

end IdentityProvider.Xml
