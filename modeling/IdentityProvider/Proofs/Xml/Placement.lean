import IdentityProvider.Proofs.Xml.CanonicalForm
import IdentityProvider.Proofs.Xml.Respelling
/-! Where the canonical form puts declarations and attributes, told from the tree alone: what the tags around an
element declare and use, with no scope threaded through. -/

namespace IdentityProvider.Xml

structure StartTag where
  name : String
  attributes : List Attribute
deriving Repr, DecidableEq

def StartTag.declared? (t : StartTag) (p : String) : Option String :=
  t.attributes.lookup (declarationKey p)

def StartTag.uses (t : StartTag) (p : String) : Bool :=
  (qualifier? t.name).getD "" == p || (plainAttributes t.attributes).any fun a => qualifier? a.1 == some p

/-- What a prefix is bound to inside some tags, the innermost of which comes first. The default namespace counts
as bound to nothing where no tag declares it. -/
def uri? (p : String) (tags : List StartTag) : Option String :=
  (tags.findSome? fun t => t.declared? p).or (if p = "" then some "" else none)

def uriAtUse (p : String) : List StartTag → String
  | [] => ""
  | t :: above => if t.uses p then (uri? p (t :: above)).getD "" else uriAtUse p above

/-- The namespace of an attribute, for which a prefix stands itself when it is unbound, and the local name. -/
def expandedName (tags : List StartTag) (key : String) : String × String :=
  match qualifier? key with
  | none => ("", key)
  | some p => (if p = "xml" then xmlNamespace else (uri? p tags).getD p, localPart key)

structure Occurrence where
  tag : StartTag
  above : List StartTag
deriving Repr, DecidableEq

mutual

def Node.occurrences (above : List StartTag) : Node → List Occurrence
  | .element name attributes children =>
    ⟨⟨name, attributes⟩, above⟩ :: occurrences (⟨name, attributes⟩ :: above) children
  | .text _ => []

def occurrences (above : List StartTag) : List Node → List Occurrence
  | [] => []
  | n :: ns => n.occurrences above ++ occurrences above ns

end

structure Occurrence.Places (o : Occurrence) (declarations : List (String × String))
    (attributes : List Attribute) : Prop where
  declares : ∀ p u, (p, u) ∈ declarations ↔
    p ≠ "xml" ∧ o.tag.uses p = true ∧ uri? p (o.tag :: o.above) = some u ∧ u ≠ uriAtUse p o.above
  prefixes_ascend : (declarations.map Prod.fst).Pairwise (· < ·)
  attributes_perm : attributes.Perm (plainAttributes o.tag.attributes)
  names_ascend : (attributes.map fun a => expandedName (o.tag :: o.above) a.1).Pairwise fun m n =>
    m.1 < n.1 ∨ m.1 = n.1 ∧ m.2 ≤ n.2

def startTags : List Token → List (List Char × List Char)
  | [] => []
  | .startTag name attributes :: ts => (name, attributes) :: startTags ts
  | _ :: ts => startTags ts

def Occurrence.IsWritten (o : Occurrence) (tag : List Char × List Char) : Prop :=
  ∃ declarations attributes, o.Places declarations attributes ∧
    tag = (o.tag.name.toList, declarations.flatMap canonicalDeclaration ++ attributes.flatMap canonicalAttribute) ∧
    elementAttributes (readAttributes tag.2) = .ok (declarations.map declarationAttribute ++ attributes)

lemma uses_iff {name p : String} {attributes : List Attribute} (hp : p ≠ "xml") :
    StartTag.uses ⟨name, attributes⟩ p = true ↔ p ∈ usedPrefixes name (plainAttributes attributes) := by
  simp only [StartTag.uses, mem_usedPrefixes, Bool.or_eq_true, beq_iff_eq, List.any_eq_true]
  constructor
  · rintro (h | h)
    · exact ⟨hp, Or.inl h.symm⟩
    · exact ⟨hp, Or.inr h⟩
  · rintro ⟨_, h | h⟩
    · exact Or.inl h.symm
    · exact Or.inr h

lemma lookup_declaredIn {attributes : List Attribute} (hq : ∀ a ∈ attributes, isQName a.1 = true) (p : String) :
    (declaredIn attributes).lookup p = attributes.lookup (declarationKey p) := by
  induction attributes with
  | nil => rfl
  | cons a attributes ih =>
    obtain ⟨key, value⟩ := a
    rw [List.forall_mem_cons] at hq
    have ih := ih hq.2
    rw [declaredIn] at ih ⊢
    rw [List.filterMap_cons, List.lookup_cons, ← ih]
    cases hd : declaredPrefix? key with
    | none =>
      have hk : declarationKey p ≠ key := by
        rintro rfl
        simp at hd
      simp [beq_false_of_ne hk]
    | some q =>
      have hk : key = declarationKey q := declarationKey_of_declaredPrefix hq.1 hd
      rw [Option.map_some]
      by_cases hp : p = q
      · rw [hk, hp]
        simp
      · have hne : declarationKey p ≠ key := fun h => hp (declarationKey_injective (h.trans hk))
        rw [List.lookup_cons, beq_false_of_ne hp, beq_false_of_ne hne]

lemma lookup_declare_named {name : String} {attributes : List Attribute} (h : isNamedTag name attributes = true)
    (scope : Scope) (p : String) :
    (scope.declare attributes).lookup p = ((StartTag.mk name attributes).declared? p).or (scope.lookup p) := by
  have hr := lookup_perm (List.reverse_perm (declaredIn attributes)).symm (declaredIn_nodup h) p
  rw [declare_eq, List.lookup_append, ← hr, lookup_declaredIn (namedTag_iff.mp h).2.1]
  rfl

lemma uri_cons (p : String) (t : StartTag) (above : List StartTag) :
    uri? p (t :: above) = (t.declared? p).or (uri? p above) := by
  rw [uri?, uri?, List.findSome?_cons]
  cases t.declared? p <;> rfl

lemma uriAtUse_of_unbound {p : String} {above : List StartTag} (h : uri? p above = none) :
    uriAtUse p above = "" := by
  induction above with
  | nil => rfl
  | cons t above ih =>
    have ha := h
    rw [uri_cons, Option.or_eq_none_iff] at ha
    rw [uriAtUse, h, ih ha.2]
    simp

/-- The threaded scopes tell what the tags around a place declare, and what they are rendered as. -/
structure Tracks (scope rendered : Scope) (above : List StartTag) : Prop where
  bound : ∀ p, (scope.lookup p).or (if p = "" then some "" else none) = uri? p above
  rendered : ∀ p, p ≠ "xml" → (rendered.lookup p).getD "" = uriAtUse p above

lemma tracks_nil : Tracks [] [] [] where
  bound _ := rfl
  rendered _ _ := rfl

section Tracks

variable {scope rendered : Scope} {above : List StartTag} {name : String} {attributes : List Attribute}

lemma Tracks.bound_inside (h : Tracks scope rendered above) (hn : isNamedTag name attributes = true) (p : String) :
    ((scope.declare attributes).lookup p).or (if p = "" then some "" else none) =
      uri? p (⟨name, attributes⟩ :: above) := by
  rw [lookup_declare_named hn, Option.or_assoc, h.bound, uri_cons]

lemma Tracks.needed_iff (h : Tracks scope rendered above) (hn : isNamedTag name attributes = true) {p : String}
    (hp : p ≠ "xml") {u : String} :
    neededUri? (scope.declare attributes) rendered p = some u ↔
      uri? p (⟨name, attributes⟩ :: above) = some u ∧ u ≠ uriAtUse p above := by
  rw [← h.bound_inside hn, ← h.rendered p hp, neededUri?]
  cases (scope.declare attributes).lookup p with
  | some v =>
    simp only [Option.ite_none_left_eq_some, Option.some.injEq, Option.some_or]
    constructor
    · rintro ⟨hne, rfl⟩
      exact ⟨rfl, Ne.symm hne⟩
    · rintro ⟨rfl, hne⟩
      exact ⟨Ne.symm hne, rfl⟩
  | none =>
    simp only [Option.ite_none_right_eq_some, Option.some.injEq, Option.none_or]
    constructor
    · rintro ⟨⟨hd, hne⟩, rfl⟩
      exact ⟨⟨hd, rfl⟩, Ne.symm hne⟩
    · rintro ⟨⟨hd, rfl⟩, hne⟩
      exact ⟨⟨hd, Ne.symm hne⟩, rfl⟩

lemma Tracks.below (h : Tracks scope rendered above) (hn : isNamedTag name attributes = true) :
    Tracks (scope.declare attributes)
      (renderedBelow (scope.declare attributes) rendered (usedPrefixes name (plainAttributes attributes)))
      (⟨name, attributes⟩ :: above) where
  bound := h.bound_inside hn
  rendered p hp := by
    rw [uriAtUse]
    by_cases hu : p ∈ usedPrefixes name (plainAttributes attributes)
    · rw [if_pos ((uses_iff hp).mpr hu), lookup_renderedBelow _ _ (usedPrefixes_nodup _ _) hu]
      cases hd : neededUri? (scope.declare attributes) rendered p with
      | some u =>
        rw [((h.needed_iff hn hp).mp hd).1]
        rfl
      | none =>
        rw [Option.none_or, h.rendered p hp]
        cases hl : uri? p (⟨name, attributes⟩ :: above) with
        | none =>
          rw [uri_cons, Option.or_eq_none_iff] at hl
          exact uriAtUse_of_unbound hl.2
        | some u =>
          by_contra hne
          have hs := (h.needed_iff hn hp).mpr ⟨hl, fun he => hne he.symm⟩
          rw [hd] at hs
          cases hs
    · rw [if_neg fun he => hu ((uses_iff hp).mp he), lookup_renderedBelow_unused _ _ hu, h.rendered p hp]

lemma Tracks.sortKey_eq (h : Tracks scope rendered above) (hn : isNamedTag name attributes = true) (key : String) :
    sortKey (scope.declare attributes) key = expandedName (⟨name, attributes⟩ :: above) key := by
  unfold sortKey expandedName
  cases qualifier? key with
  | none => rfl
  | some p =>
    dsimp only
    rw [← h.bound_inside hn]
    cases (scope.declare attributes).lookup p with
    | some u => rfl
    | none =>
      by_cases hp : p = ""
      · simp [hp]
      · simp [hp]

lemma declarationsOf_ascend (scope rendered : Scope) (name : String) (attributes : List Attribute) :
    ((declarationsOf scope rendered name attributes).map Prod.fst).Pairwise (· < ·) := by
  have hlt : ∀ p q : String, p ≤ q → p ≠ q → p < q := by
    intro p q hle hne
    by_contra hlt
    exact hne (String.le_antisymm hle (String.not_lt.mp hlt))
  have hu : (usedPrefixes name (plainAttributes attributes)).Pairwise (· < ·) :=
    (usedPrefixes_sorted _ _).imp₂ hlt (usedPrefixes_nodup _ _)
  rw [declarationsOf, neededDeclarations_eq]
  rw [List.pairwise_map, List.pairwise_filterMap]
  refine hu.imp ?_
  intro p q hpq d hd d' hd'
  obtain ⟨u, _, rfl⟩ := Option.map_eq_some_iff.mp hd
  obtain ⟨u', _, rfl⟩ := Option.map_eq_some_iff.mp hd'
  exact hpq

lemma Tracks.places (h : Tracks scope rendered above) (hn : isNamedTag name attributes = true) :
    Occurrence.Places ⟨⟨name, attributes⟩, above⟩ (declarationsOf scope rendered name attributes)
      (sortAttributes (scope.declare attributes) (plainAttributes attributes)) where
  declares p u := by
    rw [declarationsOf, mem_neededDeclarations]
    constructor
    · rintro ⟨hu, hd⟩
      have hp := (mem_usedPrefixes.mp hu).1
      exact ⟨hp, (uses_iff hp).mpr hu, (h.needed_iff hn hp).mp hd⟩
    · rintro ⟨hp, hu, hd⟩
      exact ⟨(uses_iff hp).mp hu, (h.needed_iff hn hp).mpr hd⟩
  prefixes_ascend := declarationsOf_ascend scope rendered name attributes
  attributes_perm := sortAttributes_perm _ _
  names_ascend := by
    rw [List.pairwise_map]
    refine (sortAttributes_pairwise _ _).imp ?_
    intro a b hab
    rw [sortKeyLe_iff, h.sortKey_eq hn, h.sortKey_eq hn] at hab
    exact hab

lemma Tracks.isWritten (h : Tracks scope rendered above) (hn : isNamedTag name attributes = true) :
    Occurrence.IsWritten ⟨⟨name, attributes⟩, above⟩ (name.toList,
      (canonicalAttributes scope rendered name attributes).flatMap (renderAttribute canonicalEscapes)) := by
  refine ⟨_, _, h.places hn, ?_, ?_⟩
  · rw [canonicalAttributes, List.flatMap_append, List.flatMap_map, canonicalDeclaration_eq, canonicalAttribute_eq]
  · have hc : isNamedTag name (canonicalAttributes scope rendered name attributes) = true := canonicalTag_named hn
    exact elementAttributes_render canonicalEscapes (namedTag_words hc).2 (namedTag_iff.mp hc).2.2

end Tracks

@[simp] lemma startTags_append (ts us : List Token) : startTags (ts ++ us) = startTags ts ++ startTags us := by
  induction ts with
  | nil => rfl
  | cons t ts ih => cases t <;> simp [startTags, ih]

@[simp] lemma startTags_text (e : Escapes) (s : String) (ns : List Node) :
    startTags (tokensOfNodes e (.text s :: ns)) = startTags (tokensOfNodes e ns) := rfl

@[simp] lemma startTags_element (e : Escapes) (name : String) (attributes : List Attribute)
    (children ns : List Node) :
    startTags (tokensOfNodes e (.element name attributes children :: ns)) =
      (name.toList, attributes.flatMap (renderAttribute e)) ::
        (startTags (tokensOfNodes e children) ++ startTags (tokensOfNodes e ns)) := by
  simp [tokensOfNodes, tokensOfNode, startTags]

lemma startTags_merged (e : Escapes) (ns : List Node) :
    startTags (tokensOfNodes e (mergedNodes ns)) = startTags (tokensOfNodes e ns) := by
  induction ns using nodes_induction with
  | nil => rfl
  | text s ns ih =>
    have hj := apply_joinText (f := fun ns => startTags (tokensOfNodes e ns)) (startTags_text e "")
      (fun _ _ _ => rfl) s
      (mergedNodes ns)
    rw [mergedNodes, Node.merged, Node.joinedTo, hj, startTags_text, startTags_text, ih]
  | element name attributes children ns ihc ih =>
    rw [mergedNodes, Node.merged, Node.joinedTo, startTags_element, startTags_element, ihc, ih]

lemma isWritten_canonicalTrees {scope rendered : Scope} {above : List StartTag} (h : Tracks scope rendered above)
    {ns : List Node} (hn : allNodes isNamedTag (fun _ => true) ns = true) :
    List.Forall₂ Occurrence.IsWritten (occurrences above ns)
      (startTags (tokensOfNodes canonicalEscapes (canonicalTrees scope rendered ns))) := by
  induction ns using nodes_induction generalizing scope rendered above with
  | nil => exact .nil
  | text s ns ih =>
    simp only [allNodes, Node.all, Bool.and_eq_true] at hn
    exact ih h hn.2
  | element name attributes children ns ihc ih =>
    simp only [allNodes, Node.all, Bool.and_eq_true] at hn
    obtain ⟨⟨ht, hc⟩, hr⟩ := hn
    rw [occurrences, Node.occurrences, canonicalTrees, canonicalTree, startTags_element]
    exact .cons (h.isWritten ht) (List.rel_append (ihc (h.below ht) hc) (ih h hr))

/-- Every element of a tree is written with one start tag, in the order of the elements, and its declarations
and attributes are those that the tags of the element and of those around it ask for. -/
theorem canonicalize_startTags {e : Element} (hn : e.IsNamed) (hw : e.IsWritable) :
    ∃ written, e.canonicalize = .ok written ∧
      List.Forall₂ Occurrence.IsWritten (e.toNode.occurrences []) (startTags (scan written.toList)) := by
  refine ⟨_, canonicalize_ok_iff.mpr ⟨hw, rfl⟩, ?_⟩
  have hs := scan_render canonicalEscapes hn.canonicalElement.merged (merged_textsApart _)
  have hone : ∀ n, tokensOfNode canonicalEscapes n = tokensOfNodes canonicalEscapes [n] := by simp [tokensOfNodes]
  have hf := isWritten_canonicalTrees tracks_nil (isNamed_iff.mp hn)
  rw [occurrences, occurrences, List.append_nil, canonicalTrees, canonicalTrees, ← canonicalElement_toNode,
    ← startTags_merged] at hf
  rw [String.toList_ofList, ← renderNode_merged, hs, hone]
  exact hf

def shadowing : Element where
  name := "p:a"
  attributes := [("xmlns", "urn:d"), ("q:y", "1"), ("xmlns:q", "urn:q"), ("x", "2"), ("xmlns:p", "urn:p")]
  children :=
    [.element "b" [] [.element "c" [("xmlns", ""), ("xmlns:q", "urn:r")] [.element "q:d" [("u:z", "")] []]],
      .text "t", .element "q:e" [("xml:id", "i"), ("xmlns:p", "urn:p")] [.element "p:f" [] []]]

theorem canonicalize_startTags_shadowing :
    shadowing.IsNamed ∧ shadowing.IsWritable ∧ ∃ written, shadowing.canonicalize = .ok written ∧
      List.Forall₂ Occurrence.IsWritten (shadowing.toNode.occurrences []) (startTags (scan written.toList)) := by
  have hn : shadowing.IsNamed := by decide
  have hw : shadowing.IsWritable := by decide
  exact ⟨hn, hw, canonicalize_startTags hn hw⟩

end IdentityProvider.Xml
