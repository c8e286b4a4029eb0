import IdentityProvider.Proofs.Xml.CanonicalForm
import IdentityProvider.Proofs.Xml.Normalization
/-! The trees that normalization leaves alone, and that the canonical form tells them from all others. -/

namespace IdentityProvider.Xml

def isStableText (s : String) : Bool :=
  s.toList.all fun c => c != '\r'

def isStableValue (s : String) : Bool :=
  s.toList.all fun c => c != '\r' && c != '\n' && c != '\t'

def areStableValues (attributes : List Attribute) : Bool :=
  attributes.all fun a => isStableValue a.2

lemma areStableValues_nil : areStableValues [] = true := rfl

lemma areStableValues_cons (key value : String) (attributes : List Attribute) :
    areStableValues ((key, value) :: attributes) = (isStableValue value && areStableValues attributes) := rfl

def Element.IsStable (e : Element) : Prop :=
  e.toNode.all (fun _ attributes => areStableValues attributes) isStableText = true

instance (e : Element) : Decidable e.IsStable :=
  inferInstanceAs (Decidable (_ = true))

lemma normalizeLines_stable {cs : List Char} (h : ∀ c ∈ cs, c ≠ '\r') : normalizeLines false cs = cs := by
  induction cs with
  | nil => rfl
  | cons c cs ih =>
    rw [List.forall_mem_cons] at h
    rw [normalizeLines_cons, if_neg h.1, if_neg (by simp), ih h.2]

lemma normalizedText_stable {s : String} (h : isStableText s = true) : normalizedText s = s := by
  have hs : ∀ c ∈ s.toList, c ≠ '\r' := by simpa [isStableText] using h
  rw [normalizedText, normalizeLines_stable hs, String.ofList_toList]

lemma isStableText_of_value {s : String} (h : isStableValue s = true) : isStableText s = true := by
  simp only [isStableValue, isStableText, List.all_eq_true, Bool.and_eq_true] at h ⊢
  exact fun c hc => (h c hc).1.1

lemma normalizedValue_stable {s : String} (h : isStableValue s = true) : normalizedValue s = s := by
  have hs : ∀ c ∈ s.toList, blankChar c = id c := by
    intro c hc
    have hb := List.all_eq_true.mp h c hc
    simp only [Bool.and_eq_true, bne_iff_ne] at hb
    rw [blankChar, if_neg (by simp [hb.1.2, hb.2]), id]
  rw [normalizedValue, normalizedText_stable (isStableText_of_value h), blankedValue, List.map_congr_left hs,
    List.map_id, String.ofList_toList]

lemma normalizeLines_mem {b : Bool} {cs : List Char} {c : Char} (h : c ∈ normalizeLines b cs) :
    c ≠ '\r' ∧ (c ∈ cs ∨ c = '\n') := by
  induction cs generalizing b with
  | nil => cases h
  | cons d cs ih =>
    rw [normalizeLines_cons] at h
    have hrest : ∀ {b'}, c ∈ normalizeLines b' cs → c ≠ '\r' ∧ (c ∈ d :: cs ∨ c = '\n') := fun hc =>
      ⟨(ih hc).1, (ih hc).2.imp_left (List.mem_cons_of_mem d)⟩
    split at h
    · rcases List.mem_cons.mp h with rfl | h
      · exact ⟨by decide, Or.inr rfl⟩
      · exact hrest h
    · rename_i hd
      split at h
      · exact hrest h
      · rcases List.mem_cons.mp h with rfl | h
        · exact ⟨hd, Or.inl List.mem_cons_self⟩
        · exact hrest h

lemma isStableText_normalizedText (s : String) : isStableText (normalizedText s) = true := by
  rw [isStableText, normalizedText, String.toList_ofList, List.all_eq_true]
  intro c hc
  simpa using (normalizeLines_mem hc).1

lemma isStableValue_normalizedValue (s : String) : isStableValue (normalizedValue s) = true := by
  rw [isStableValue, normalizedValue, blankedValue, String.toList_ofList, normalizedText, String.toList_ofList,
    List.all_eq_true]
  intro c hc
  obtain ⟨d, hd, rfl⟩ := List.mem_map.mp hc
  have hr := (normalizeLines_mem hd).1
  rw [blankChar]
  split
  · decide
  · rename_i hne
    rw [not_or] at hne
    simp [hr, hne.1, hne.2]

lemma isXmlText_normalizedText {s : String} (h : isXmlText s = true) : isXmlText (normalizedText s) = true := by
  rw [isXmlText, normalizedText, String.toList_ofList, List.all_eq_true]
  intro c hc
  rcases (normalizeLines_mem hc).2 with hm | rfl
  · exact List.all_eq_true.mp h c hm
  · decide

lemma isXmlText_normalizedValue {s : String} (h : isXmlText s = true) : isXmlText (normalizedValue s) = true := by
  have ht := isXmlText_normalizedText h
  rw [isXmlText, normalizedValue, blankedValue, String.toList_ofList, List.all_eq_true]
  intro c hc
  obtain ⟨d, hd, rfl⟩ := List.mem_map.mp hc
  rw [blankChar]
  split
  · decide
  · exact List.all_eq_true.mp ht d hd

lemma normalizedValue_ne_empty {s : String} (h : s ≠ "") : normalizedValue s ≠ "" := by
  cases hs : s.toList with
  | nil => exact absurd (String.toList_eq_nil_iff.mp hs) h
  | cons c cs =>
    have hne : normalizeLines false (c :: cs) ≠ [] := by
      rw [normalizeLines_cons]
      split
      · exact List.cons_ne_nil _ _
      · rw [if_neg (by simp)]
        exact List.cons_ne_nil _ _
    intro he
    have hl := congrArg String.toList he
    rw [normalizedValue, blankedValue, String.toList_ofList, normalizedText, String.toList_ofList, hs] at hl
    exact hne (List.map_eq_nil_iff.mp hl)

lemma normalizedValue_hash (s : String) : normalizedValue ("#" ++ s) = "#" ++ normalizedValue s := by
  have hs : ("#" ++ s).toList = '#' :: s.toList := by simp
  have hb : blankChar '#' = '#' := by decide
  have hl : ∀ t : String, (normalizedValue t).toList = (normalizeLines false t.toList).map blankChar := by
    intro t
    rw [normalizedValue, blankedValue, String.toList_ofList, normalizedText, String.toList_ofList]
  have hh : ∀ t : String, ("#" ++ t).toList = '#' :: t.toList := fun t => by simp
  apply String.toList_inj.mp
  rw [hl, hs, normalizeLines_ordinary (by decide) (by decide), List.map_cons, hb, hh, hl]

lemma normalized_attributes_stable {attributes : List Attribute} (h : areStableValues attributes = true) :
    (attributes.map fun a => (a.1, normalizedValue a.2)) = attributes := by
  have hid : ∀ a ∈ attributes, (a.1, normalizedValue a.2) = id a := by
    intro a hm
    rw [normalizedValue_stable (List.all_eq_true.mp h a hm)]
    rfl
  rw [List.map_congr_left hid, List.map_id]

lemma mapNodes_fixed {value content : String → String} {tag : String → List Attribute → Bool}
    {test : String → Bool} (ht : ∀ name attributes, tag name attributes = true → ∀ a ∈ attributes, value a.2 = a.2)
    (hc : ∀ s, test s = true → content s = s) {ns : List Node} (h : allNodes tag test ns = true) :
    mapNodes value content ns = ns := by
  induction ns using nodes_induction with
  | nil => rfl
  | text s ns ih =>
    simp only [allNodes, Node.all, Bool.and_eq_true] at h
    rw [mapNodes, Node.mapTexts, hc s h.1, ih h.2]
  | element name attributes children ns ihc ih =>
    simp only [allNodes, Node.all, Bool.and_eq_true] at h
    have ha : (attributes.map fun a => (a.1, value a.2)) = attributes := by
      have hid : ∀ a ∈ attributes, (a.1, value a.2) = id a := by
        intro a hm
        rw [ht name attributes h.1.1 a hm]
        rfl
      rw [List.map_congr_left hid, List.map_id]
    rw [mapNodes, Node.mapTexts, ha, ihc h.1.2, ih h.2]

lemma allNodes_of_forall {tag : String → List Attribute → Bool} {test : String → Bool}
    (ht : ∀ name attributes, tag name attributes = true) (hc : ∀ s, test s = true) (ns : List Node) :
    allNodes tag test ns = true := by
  induction ns using nodes_induction with
  | nil => rfl
  | text s ns ih => rw [allNodes, Node.all, hc, ih, Bool.and_self]
  | element name attributes children ns ihc ih =>
    rw [allNodes, Node.all, ht, ihc, ih, Bool.and_self, Bool.and_self]

lemma allNodes_singleton (tag : String → List Attribute → Bool) (test : String → Bool) (n : Node) :
    allNodes tag test [n] = n.all tag test := by
  rw [allNodes, allNodes, Bool.and_true]

namespace Element

variable {e : Element}

lemma IsStable.normalized (h : e.IsStable) : e.normalized = e := by
  rw [IsStable, ← allNodes_singleton] at h
  have hn : mapNodes normalizedValue normalizedText [e.toNode] = [e.toNode] := by
    refine mapNodes_fixed ?_ ?_ h
    · intro _ attributes ha a hm
      exact normalizedValue_stable (List.all_eq_true.mp ha a hm)
    · intro s hs
      exact normalizedText_stable hs
  exact toNode_injective (List.cons.inj hn).1

lemma normalized_isStable (e : Element) : e.normalized.IsStable := by
  rw [IsStable, Element.normalized, toNode_mapTexts, all_mapTexts, ← allNodes_singleton]
  apply allNodes_of_forall
  · intro _ attributes
    rw [areStableValues, List.all_map, List.all_eq_true]
    intro a _
    rw [Function.comp_apply, isStableValue_normalizedValue]
  · exact isStableText_normalizedText

lemma IsWritable.normalized (h : e.IsWritable) : e.normalized.IsWritable := by
  rw [IsWritable, ← allNodes_singleton] at h
  rw [IsWritable, Element.normalized, toNode_mapTexts, all_mapTexts, ← allNodes_singleton]
  refine allNodes_mono ?_ ?_ h
  · intro name attributes hw
    rw [isWritableTag_iff] at hw ⊢
    refine ⟨hw.1, ?_⟩
    intro a ha
    obtain ⟨b, hb, rfl⟩ := List.mem_map.mp ha
    exact ⟨(hw.2 b hb).1, isXmlText_normalizedValue (hw.2 b hb).2⟩
  · intro s hs
    exact isXmlText_normalizedText hs

end Element

def areStablePlainValues (attributes : List Attribute) : Bool :=
  areStableValues (plainAttributes attributes)

def areStableDeclarations (attributes : List Attribute) : Bool :=
  areStableValues (attributes.filter fun a => (declaredPrefix? a.1).isSome)

lemma areStableDeclarations_nil : areStableDeclarations [] = true := rfl

lemma areStableDeclarations_stable {value : String} (h : isStableValue value = true) (key : String)
    (attributes : List Attribute) :
    areStableDeclarations ((key, value) :: attributes) = areStableDeclarations attributes := by
  simp only [areStableDeclarations, List.filter_cons]
  split
  · rw [areStableValues_cons, h, Bool.true_and]
  · rfl

lemma areStableDeclarations_plain {key : String} (h : declaredPrefix? key = none) (value : String)
    (attributes : List Attribute) :
    areStableDeclarations ((key, value) :: attributes) = areStableDeclarations attributes := by
  have hd : (declaredPrefix? key).isSome = false := by rw [h, Option.isSome_none]
  rw [areStableDeclarations, List.filter_cons_of_neg (by simp [hd])]
  rfl

lemma areStableValues_split (attributes : List Attribute) :
    areStableValues attributes = (areStableDeclarations attributes && areStablePlainValues attributes) := by
  induction attributes with
  | nil => rfl
  | cons a attributes ih =>
    simp only [areStableValues, areStableDeclarations, areStablePlainValues, plainAttributes] at ih ⊢
    rw [List.all_cons, ih]
    cases hd : declaredPrefix? a.1 with
    | none =>
      simp only [List.filter_cons, hd, Option.isSome_none, Option.isNone_none, if_true, List.all_cons,
        Bool.false_eq_true, if_false]
      ac_rfl
    | some p =>
      simp only [List.filter_cons, hd, Option.isSome_some, Option.isNone_some, if_true, List.all_cons,
        Bool.false_eq_true, if_false]
      ac_rfl

lemma allNodes_and (tag tag' : String → List Attribute → Bool) (test test' : String → Bool) (ns : List Node) :
    allNodes (fun name attributes => tag name attributes && tag' name attributes) (fun s => test s && test' s) ns =
      (allNodes tag test ns && allNodes tag' test' ns) := by
  induction ns using nodes_induction with
  | nil => rfl
  | text s ns ih =>
    simp only [allNodes, Node.all, ih]
    ac_rfl
  | element name attributes children ns ihc ih =>
    simp only [allNodes, Node.all, ih, ihc]
    ac_rfl

lemma stable_canonicalTrees (scope rendered : Scope) (ns : List Node) :
    allNodes (fun _ attributes => areStablePlainValues attributes) isStableText
      (canonicalTrees scope rendered ns) =
      allNodes (fun _ attributes => areStablePlainValues attributes) isStableText ns := by
  induction ns using nodes_induction generalizing scope rendered with
  | nil => rfl
  | text s ns ih => simp only [canonicalTrees, canonicalTree, allNodes, Node.all, ih]
  | element name attributes children ns ihc ih =>
    have ha : areStablePlainValues (canonicalAttributes scope rendered name attributes) =
        areStablePlainValues attributes := by
      rw [areStablePlainValues, plain_canonicalAttributes, areStablePlainValues, areStableValues, areStableValues,
        (sortAttributes_perm _ _).all_eq]
    simp only [canonicalTrees, canonicalTree, allNodes, Node.all, ha, ihc, ih]

lemma isStableText_append (s t : String) : isStableText (s ++ t) = (isStableText s && isStableText t) := by
  simp [isStableText]

lemma stable_of_canonicalize {e f : Element} {c : String} (he : e.IsNamed) (hf : f.IsNamed)
    (hce : e.canonicalize = .ok c) (hcf : f.canonicalize = .ok c) :
    e.toNode.all (fun _ attributes => areStablePlainValues attributes) isStableText =
      f.toNode.all (fun _ attributes => areStablePlainValues attributes) isStableText := by
  have hshown : ∀ g : Element, (g.canonicalElement [] []).merged.toNode.all
      (fun _ attributes => areStablePlainValues attributes) isStableText =
        g.toNode.all (fun _ attributes => areStablePlainValues attributes) isStableText := by
    intro g
    have ht := stable_canonicalTrees [] [] [g.toNode]
    rw [canonicalTrees, canonicalTrees, ← canonicalElement_toNode, allNodes_singleton, allNodes_singleton] at ht
    rw [← ht, all_toNode, all_toNode, Element.merged, allNodes_merged _ _ rfl isStableText_append]
  have hm := parse_canonicalize he hce
  rw [parse_canonicalize hf hcf, Except.ok.injEq] at hm
  rw [← hshown e, ← hshown f, hm]

/-- The canonical form of a tree tells it from the normalized tree, unless they are the same tree. -/
theorem isStable_iff_canonicalize {e : Element} {c c' : String} (hn : e.IsNamed)
    (hd : e.toNode.all (fun _ attributes => areStableDeclarations attributes) (fun _ => true) = true)
    (hc : e.canonicalize = .ok c) (hc' : e.normalized.canonicalize = .ok c') : e.IsStable ↔ c' = c := by
  constructor
  · intro hs
    rw [hs.normalized, hc, Except.ok.injEq] at hc'
    exact hc'.symm
  · rintro rfl
    have hnormalized : e.normalized.toNode.all (fun _ attributes => areStablePlainValues attributes) isStableText =
        true := by
      have hs := e.normalized_isStable
      rw [Element.IsStable, ← allNodes_singleton] at hs
      rw [← allNodes_singleton]
      refine allNodes_mono ?_ (fun _ h => h) hs
      intro _ attributes ha
      rw [areStableValues_split, Bool.and_eq_true] at ha
      exact ha.2
    have hn' : e.normalized.IsNamed := hn.mapTexts normalizedValue normalizedText
    have hplain := stable_of_canonicalize hn hn' hc hc'
    rw [hnormalized, ← allNodes_singleton] at hplain
    rw [← allNodes_singleton] at hd
    have hboth := allNodes_and (fun _ attributes => areStableDeclarations attributes)
      (fun _ attributes => areStablePlainValues attributes) (fun _ => true) isStableText [e.toNode]
    rw [hd, hplain, Bool.and_self, allNodes_singleton] at hboth
    simpa only [Element.IsStable, areStableValues_split, Bool.true_and] using hboth

end IdentityProvider.Xml
