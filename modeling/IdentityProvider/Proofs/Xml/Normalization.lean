import IdentityProvider.Proofs.Xml.Lookup
import IdentityProvider.Proofs.Xml.ReadBack
/-! What a processor of XML 1.0 makes of the characters of a document before it reads them, and what that does
to the markup of a tree. -/

namespace IdentityProvider.Xml

def normalizeLines (afterReturn : Bool) : List Char → List Char
  | [] => []
  | c :: cs =>
    if c = '\r' then '\n' :: normalizeLines true cs
    else if c = '\n' ∧ afterReturn = true then normalizeLines false cs
    else c :: normalizeLines false cs

inductive Place where
  | content
  | tag
  | value (quote : Char)

def Place.next : Place → Char → Place
  | .content, c => if c = '<' then .tag else .content
  | .tag, c => if c = '>' then .content else if c = '"' ∨ c = '\'' then .value c else .tag
  | .value quote, c => if c = quote then .tag else .value quote

def blankChar (c : Char) : Char :=
  if c = '\t' ∨ c = '\n' then ' ' else c

def normalizeValues : Place → List Char → List Char
  | _, [] => []
  | .value quote, c :: cs => blankChar c :: normalizeValues ((Place.value quote).next c) cs
  | place, c :: cs => c :: normalizeValues (place.next c) cs

/-- What every processor makes of the text of a document that holds nothing but elements and texts. -/
def normalize (written : String) : String :=
  String.ofList (normalizeValues .content (normalizeLines false written.toList))

def normalizedText (s : String) : String :=
  String.ofList (normalizeLines false s.toList)

def blankedValue (s : String) : String :=
  String.ofList (s.toList.map blankChar)

def normalizedValue (s : String) : String :=
  blankedValue (normalizedText s)

mutual

def Node.mapTexts (value content : String → String) : Node → Node
  | .element name attributes children =>
    .element name (attributes.map fun a => (a.1, value a.2)) (mapNodes value content children)
  | .text s => .text (content s)

def mapNodes (value content : String → String) : List Node → List Node
  | [] => []
  | n :: ns => n.mapTexts value content :: mapNodes value content ns

end

def Element.mapTexts (value content : String → String) (e : Element) : Element :=
  ⟨e.name, e.attributes.map fun a => (a.1, value a.2), mapNodes value content e.children⟩

def Element.normalized (e : Element) : Element :=
  e.mapTexts normalizedValue normalizedText

section MapTexts

variable (value content : String → String)

lemma mapNodes_eq_map (ns : List Node) : mapNodes value content ns = ns.map (Node.mapTexts value content) := by
  induction ns with
  | nil => rfl
  | cons n ns ih => rw [mapNodes, ih, List.map_cons]

lemma mapNodes_mapNodes (value' content' : String → String) (ns : List Node) :
    mapNodes value' content' (mapNodes value content ns) =
      mapNodes (fun s => value' (value s)) (fun s => content' (content s)) ns := by
  induction ns using nodes_induction with
  | nil => rfl
  | text s ns ih => simp only [mapNodes, Node.mapTexts, ih]
  | element name attributes children ns ihc ih =>
    simp only [mapNodes, Node.mapTexts, ih, ihc, List.map_map, Function.comp_def]

lemma allNodes_mapNodes (tag : String → List Attribute → Bool) (test : String → Bool) (ns : List Node) :
    allNodes tag test (mapNodes value content ns) =
      allNodes (fun name attributes => tag name (attributes.map fun a => (a.1, value a.2)))
        (fun s => test (content s))
        ns := by
  induction ns using nodes_induction with
  | nil => rfl
  | text s ns ih => simp only [mapNodes, Node.mapTexts, allNodes, Node.all, ih]
  | element name attributes children ns ihc ih => simp only [mapNodes, Node.mapTexts, allNodes, Node.all, ih, ihc]

lemma all_mapTexts (tag : String → List Attribute → Bool) (test : String → Bool) (n : Node) :
    (n.mapTexts value content).all tag test =
      n.all (fun name attributes => tag name (attributes.map fun a => (a.1, value a.2))) fun s => test
        (content s) := by
  have h := allNodes_mapNodes value content tag test [n]
  simpa only [mapNodes, allNodes, Bool.and_true] using h

namespace Element

variable (e : Element)

lemma toNode_mapTexts : (e.mapTexts value content).toNode = e.toNode.mapTexts value content := rfl

lemma mapTexts_ofText (name : String) (attributes : List Attribute) (s : String) :
    (ofText name attributes s).mapTexts value content =
      ofText name (attributes.map fun a => (a.1, value a.2)) (content s) := rfl

lemma mapTexts_ofElements (name : String) (attributes : List Attribute) (children : List Element) :
    (ofElements name attributes children).mapTexts value content =
      ofElements name (attributes.map fun a => (a.1, value a.2)) (children.map (mapTexts value content)) := by
  have hc : mapNodes value content (children.map toNode) = (children.map (mapTexts value content)).map toNode := by
    rw [mapNodes_eq_map, List.map_map, List.map_map]
    rfl
  rw [ofElements, ofElements, mapTexts, hc]

lemma attribute_mapTexts (key : String) :
    (e.mapTexts value content).attribute? key = (e.attribute? key).map value := by
  have hl : ∀ attributes : List Attribute,
      (attributes.map fun a => (a.1, value a.2)).lookup key = (attributes.lookup key).map value := by
    intro attributes
    induction attributes with
    | nil => rfl
    | cons a attributes ih =>
      rw [List.map_cons, List.lookup_cons, List.lookup_cons, ih]
      cases key == a.1 <;> rfl
  exact hl e.attributes

lemma elements_mapTexts : (e.mapTexts value content).elements = e.elements.map (mapTexts value content) := by
  have hn : ∀ ns : List Node, (mapNodes value content ns).filterMap Node.element? =
      (ns.filterMap Node.element?).map (mapTexts value content) := by
    intro ns
    induction ns using nodes_induction with
    | nil => rfl
    | text s ns ih => simpa only [mapNodes, Node.mapTexts, elements_text] using ih
    | element name attributes children ns _ ih =>
      simp only [mapNodes, Node.mapTexts, elements_element, ih, List.map_cons]
      rfl
  exact hn e.children

lemma mapTexts_insertChild (position : Nat) (child : Element) :
    (e.insertChild position child).mapTexts value content =
      (e.mapTexts value content).insertChild position (child.mapTexts value content) := by
  have hc : mapNodes value content (e.children.take position ++ child.toNode :: e.children.drop position) =
      (mapNodes value content e.children).take position ++
        (child.mapTexts value content).toNode :: (mapNodes value content e.children).drop position := by
    rw [mapNodes_eq_map, mapNodes_eq_map, List.map_append, List.map_cons, List.map_take, List.map_drop]
    rfl
  rw [insertChild, insertChild, mapTexts, hc]
  rfl

variable {e}

lemma IsNamed.mapTexts (h : e.IsNamed) : (e.mapTexts value content).IsNamed := by
  have ht : (fun name (attributes : List Attribute) => isNamedTag name
    (attributes.map fun a => (a.1, value a.2))) =
      isNamedTag := by
    funext name attributes
    rw [isNamedTag, List.map_map]
    rfl
  rw [IsNamed, toNode_mapTexts, all_mapTexts, ht]
  exact h

end Element

end MapTexts

lemma normalizeLines_cons (b : Bool) (c : Char) (cs : List Char) : normalizeLines b (c :: cs) =
    if c = '\r' then '\n' :: normalizeLines true cs
    else if c = '\n' ∧ b = true then normalizeLines false cs
    else c :: normalizeLines false cs := rfl

lemma normalizeLines_ordinary {c : Char} (hr : c ≠ '\r') (hn : c ≠ '\n') (b : Bool) (cs : List Char) :
    normalizeLines b (c :: cs) = c :: normalizeLines false cs := by
  rw [normalizeLines_cons, if_neg hr, if_neg (fun h => hn h.1)]

lemma normalizeLines_plain {cs : List Char} (h : ∀ c ∈ cs, c ≠ '\r' ∧ c ≠ '\n') (rest : List Char) :
    normalizeLines false (cs ++ rest) = cs ++ normalizeLines false rest := by
  induction cs with
  | nil => rfl
  | cons c cs ih =>
    rw [List.forall_mem_cons] at h
    rw [List.cons_append, normalizeLines_ordinary h.1.1 h.1.2, ih h.2, List.cons_append]

lemma normalizeLines_append {c : Char} (hr : c ≠ '\r') (hn : c ≠ '\n') (b : Bool) (cs rest : List Char) :
    normalizeLines b (cs ++ c :: rest) = normalizeLines b cs ++ c :: normalizeLines false rest := by
  induction cs generalizing b with
  | nil => exact normalizeLines_ordinary hr hn b rest
  | cons d cs ih =>
    rw [List.cons_append, normalizeLines_cons, normalizeLines_cons]
    split
    · rw [ih, List.cons_append]
    · split
      · exact ih false
      · rw [ih, List.cons_append]

lemma escapeChar_cases (c : Char) : escapeChar c = [c] ∨
    ∃ d ds, escapeChar c = d :: ds ∧ ∀ x ∈ d :: ds, x ≠ '\r' ∧ x ≠ '\n' ∧ x ≠ '\t' := by
  have hr : ∀ s : String, s.toList ≠ [] → (s.toList.all fun x => x != '\r' && x != '\n' && x != '\t') = true →
      ∃ d ds, s.toList = d :: ds ∧ ∀ x ∈ d :: ds, x ≠ '\r' ∧ x ≠ '\n' ∧ x ≠ '\t' := by
    intro s hne hs
    obtain ⟨d, ds, hd⟩ := List.exists_cons_of_ne_nil hne
    refine ⟨d, ds, hd, ?_⟩
    rw [← hd]
    intro x hx
    have hx' := List.all_eq_true.mp hs x hx
    simpa [and_assoc] using hx'
  rw [escapeChar]
  split_ifs
  · exact Or.inr (hr "&amp;" (by decide) (by decide))
  · exact Or.inr (hr "&lt;" (by decide) (by decide))
  · exact Or.inr (hr "&gt;" (by decide) (by decide))
  · exact Or.inr (hr "&apos;" (by decide) (by decide))
  · exact Or.inr (hr "&quot;" (by decide) (by decide))
  · exact Or.inl rfl

lemma normalizeLines_escape (b : Bool) (cs : List Char) :
    normalizeLines b (cs.flatMap escapeChar) = (normalizeLines b cs).flatMap escapeChar := by
  induction cs generalizing b with
  | nil => rfl
  | cons c cs ih =>
    have hcr : escapeChar '\r' = ['\r'] := by decide
    have hlf : escapeChar '\n' = ['\n'] := by decide
    rw [List.flatMap_cons, normalizeLines_cons b c cs]
    by_cases hr : c = '\r'
    · rw [if_pos hr, hr, hcr, List.singleton_append, normalizeLines_cons, if_pos rfl, ih, List.flatMap_cons, hlf,
        List.singleton_append]
    · rw [if_neg hr]
      by_cases hn : c = '\n'
      · subst hn
        rw [hlf, List.singleton_append, normalizeLines_cons, if_neg hr]
        split
        · exact ih false
        · rw [ih, List.flatMap_cons, hlf, List.singleton_append]
      · rw [if_neg (fun h => hn h.1), List.flatMap_cons, ← ih false]
        rcases escapeChar_cases c with he | ⟨d, ds, he, hx⟩
        · rw [he, List.singleton_append, normalizeLines_ordinary hr hn, List.singleton_append]
        · rw [List.forall_mem_cons] at hx
          rw [he, List.cons_append, normalizeLines_ordinary hx.1.1 hx.1.2.1,
            normalizeLines_plain fun x hm => ⟨(hx.2 x hm).1, (hx.2 x hm).2.1⟩, List.cons_append]

lemma blankChar_escape (cs : List Char) :
    (cs.flatMap escapeChar).map blankChar = (cs.map blankChar).flatMap escapeChar := by
  have hc : ∀ c, (escapeChar c).map blankChar = escapeChar (blankChar c) := by
    intro c
    rcases escapeChar_cases c with he | ⟨d, ds, he, hx⟩
    · rw [he, List.map_singleton, blankChar]
      split
      · decide
      · exact he.symm
    · have hsame : ∀ x ∈ d :: ds, blankChar x = x := by
        intro x hm
        rw [blankChar, if_neg]
        rintro (rfl | rfl)
        · exact (hx _ hm).2.2 rfl
        · exact (hx _ hm).2.1 rfl
      have hb : blankChar c = c := by
        rw [blankChar, if_neg]
        rintro (rfl | rfl)
        · have ht : escapeChar '\t' = ['\t'] := by decide
          rw [ht] at he
          exact (hx '\t' (by rw [← he]; decide)).2.2 rfl
        · have hl : escapeChar '\n' = ['\n'] := by decide
          rw [hl] at he
          exact (hx '\n' (by rw [← he]; decide)).2.1 rfl
      rw [hb, he, List.map_congr_left hsame, List.map_id']
  rw [List.map_flatMap, List.flatMap_map]
  congr 1
  funext c
  exact hc c

inductive TextsLone : List Node → Prop
  | nil : TextsLone []
  | text {s : String} {ns : List Node} : startsWithText ns = false → TextsLone ns → TextsLone (.text s :: ns)
  | element {name : String} {attributes : List Attribute} {children ns : List Node} :
      TextsLone children → TextsLone ns → TextsLone (.element name attributes children :: ns)

lemma tagWord_unbroken {cs : List Char} (h : IsTagWord cs) : ∀ c ∈ cs, c ≠ '\r' ∧ c ≠ '\n' :=
  fun c hc => ⟨tagChar_ne (h.2 c hc) (by decide), tagChar_ne (h.2 c hc) (by decide)⟩

lemma renderNode_element (e : Escapes) (name : String) (attributes : List Attribute) (children : List Node)
    (rest : List Char) : renderNode e (.element name attributes children) ++ rest =
      '<' :: (name.toList ++ (attributes.flatMap (renderAttribute e) ++ '>' ::
        (renderNodes e children ++ '<' :: '/' :: (name.toList ++ '>' :: rest)))) := by
  simp [renderNode]

section Lines

lemma normalizeLines_attribute {key : String} (h : IsTagWord key.toList) (value : String) (rest : List Char) :
    normalizeLines false (renderAttribute wireEscapes (key, value) ++ rest) =
      renderAttribute wireEscapes (key, normalizedText value) ++ normalizeLines false rest := by
  have hplain : ∀ c ∈ ' ' :: key.toList ++ ['=', '"'], c ≠ '\r' ∧ c ≠ '\n' := by
    intro c hc
    simp only [List.cons_append, List.mem_cons, List.mem_append, List.not_mem_nil, or_false] at hc
    rcases hc with rfl | hc | rfl | rfl
    · decide
    · exact tagWord_unbroken h c hc
    · decide
    · decide
  have hshape : ∀ v : List Char, ' ' :: (key.toList ++ '=' :: '"' :: (v ++ ['"'])) ++ rest =
      (' ' :: key.toList ++ ['=', '"']) ++ (v ++ '"' :: rest) := by simp
  have hescape : wireEscapes.value = escapeChar := rfl
  rw [renderAttribute, hshape, normalizeLines_plain hplain, normalizeLines_append (by decide) (by decide), hescape,
    normalizeLines_escape, renderAttribute, normalizedText, String.toList_ofList, hescape]
  simp

lemma normalizeLines_attributes {attributes : List Attribute} (h : ∀ a ∈ attributes, IsTagWord a.1.toList)
    (rest : List Char) :
    normalizeLines false (attributes.flatMap (renderAttribute wireEscapes) ++ rest) =
      (attributes.map fun a => (a.1, normalizedText a.2)).flatMap (renderAttribute wireEscapes) ++
        normalizeLines false rest := by
  induction attributes with
  | nil => rfl
  | cons a attributes ih =>
    rw [List.forall_mem_cons] at h
    rw [List.flatMap_cons, List.append_assoc, normalizeLines_attribute h.1, ih h.2, List.map_cons,
      List.flatMap_cons, List.append_assoc]

lemma normalizeLines_element {name : String} {attributes : List Attribute} {children : List Node}
    (ht : isNamedTag name attributes = true)
    (hc : ∀ rest, normalizeLines false (renderNodes wireEscapes children ++ '<' :: rest) =
      renderNodes wireEscapes (mapNodes normalizedText normalizedText children) ++
        '<' :: normalizeLines false rest)
    (rest : List Char) :
    normalizeLines false (renderNode wireEscapes (.element name attributes children) ++ rest) =
      renderNode wireEscapes ((Node.element name attributes children).mapTexts normalizedText normalizedText) ++
        normalizeLines false rest := by
  obtain ⟨hn, ha⟩ := namedTag_words ht
  have hname := tagWord_unbroken hn
  rw [Node.mapTexts, renderNode_element, renderNode_element, normalizeLines_ordinary (by decide) (by decide),
    normalizeLines_plain hname, normalizeLines_attributes ha, normalizeLines_ordinary (by decide) (by decide), hc,
    normalizeLines_ordinary (by decide) (by decide), normalizeLines_plain hname,
    normalizeLines_ordinary (by decide) (by decide)]

lemma normalizeLines_render {ns : List Node} (h : TextsLone ns)
    (hn : allNodes isNamedTag (fun _ => true) ns = true) (rest : List Char) :
    normalizeLines false (renderNodes wireEscapes ns ++ '<' :: rest) =
      renderNodes wireEscapes (mapNodes normalizedText normalizedText ns) ++ '<' :: normalizeLines false rest := by
  induction h generalizing rest with
  | nil => exact normalizeLines_ordinary (by decide) (by decide) false rest
  | @text s ns hs _ ih =>
    simp only [allNodes, Node.all, Bool.true_and] at hn
    -- A text next to this one could begin with the line feed that a final carriage return takes along.
    obtain ⟨r, hr⟩ := render_opens_tag wireEscapes hs rest
    have hescape : wireEscapes.text = escapeChar := rfl
    simp only [mapNodes, Node.mapTexts, renderNodes, renderNode, List.append_assoc]
    rw [hr, normalizeLines_append (by decide) (by decide), ← normalizeLines_ordinary (by decide) (by decide) false,
      ← hr, ih hn, hescape, normalizeLines_escape, normalizedText, String.toList_ofList]
  | @element name attributes children ns _ _ ihc ih =>
    simp only [allNodes, Node.all, Bool.and_eq_true] at hn
    rw [renderNodes, List.append_assoc, normalizeLines_element hn.1.1 (ihc hn.1.2), ih hn.2, mapNodes, renderNodes,
      List.append_assoc]

end Lines

section Values

lemma normalizeValues_content {cs : List Char} (h : '<' ∉ cs) (rest : List Char) :
    normalizeValues .content (cs ++ rest) = cs ++ normalizeValues .content rest := by
  induction cs with
  | nil => rfl
  | cons c cs ih =>
    rw [List.mem_cons, not_or] at h
    rw [List.cons_append, normalizeValues, Place.next, if_neg (Ne.symm h.1), ih h.2, List.cons_append]
    exact fun _ hp => Place.noConfusion hp

lemma normalizeValues_tag {cs : List Char} (h : ∀ c ∈ cs, c ≠ '>' ∧ c ≠ '"' ∧ c ≠ '\'') (rest : List Char) :
    normalizeValues .tag (cs ++ rest) = cs ++ normalizeValues .tag rest := by
  induction cs with
  | nil => rfl
  | cons c cs ih =>
    rw [List.forall_mem_cons] at h
    rw [List.cons_append, normalizeValues, Place.next, if_neg h.1.1, if_neg (by simp [h.1.2.1, h.1.2.2]), ih h.2,
      List.cons_append]
    exact fun _ hp => Place.noConfusion hp

lemma normalizeValues_value {cs : List Char} (h : '"' ∉ cs) (rest : List Char) :
    normalizeValues (.value '"') (cs ++ '"' :: rest) = cs.map blankChar ++ '"' :: normalizeValues .tag rest := by
  induction cs with
  | nil => rfl
  | cons c cs ih =>
    rw [List.mem_cons, not_or] at h
    rw [List.cons_append, normalizeValues, Place.next, if_neg (Ne.symm h.1), ih h.2, List.map_cons,
      List.cons_append]

lemma normalizeValues_attributes {attributes : List Attribute} (h : ∀ a ∈ attributes, IsTagWord a.1.toList)
    (rest : List Char) :
    normalizeValues .tag (attributes.flatMap (renderAttribute wireEscapes) ++ rest) =
      (attributes.map fun a => (a.1, blankedValue a.2)).flatMap (renderAttribute wireEscapes) ++
        normalizeValues .tag rest := by
  induction attributes with
  | nil => rfl
  | cons a attributes ih =>
    rw [List.forall_mem_cons] at h
    have hplain : ∀ c ∈ ' ' :: a.1.toList ++ ['='], c ≠ '>' ∧ c ≠ '"' ∧ c ≠ '\'' := by
      intro c hc
      simp only [List.cons_append, List.mem_cons, List.mem_append, List.not_mem_nil, or_false] at hc
      rcases hc with rfl | hc | rfl
      · decide
      · exact tagWord_unquoted h.1 c hc
      · decide
    have hshape : ∀ v more : List Char, ' ' :: (a.1.toList ++ '=' :: '"' :: (v ++ ['"'])) ++ more =
        (' ' :: a.1.toList ++ ['=']) ++ '"' :: (v ++ '"' :: more) := by simp
    have hopen : ∀ more, normalizeValues .tag ('"' :: more) = '"' :: normalizeValues (.value '"') more :=
      fun _ => rfl
    have hescape : wireEscapes.value = escapeChar := rfl
    have hquote := escaped_value_closes_no_quote wireEscapes a.2.toList
    rw [hescape] at hquote
    rw [List.flatMap_cons, List.append_assoc, renderAttribute, hescape, hshape, normalizeValues_tag hplain, hopen,
      normalizeValues_value hquote, ih h.2, blankChar_escape, List.map_cons, List.flatMap_cons, List.append_assoc,
      renderAttribute, hescape, blankedValue, String.toList_ofList]
    simp

lemma normalizeValues_element {name : String} {attributes : List Attribute} {children : List Node}
    (ht : isNamedTag name attributes = true)
    (hc : ∀ rest, normalizeValues .content (renderNodes wireEscapes children ++ rest) =
      renderNodes wireEscapes (mapNodes blankedValue id children) ++ normalizeValues .content rest)
    (rest : List Char) :
    normalizeValues .content (renderNode wireEscapes (.element name attributes children) ++ rest) =
      renderNode wireEscapes ((Node.element name attributes children).mapTexts blankedValue id) ++
        normalizeValues .content rest := by
  obtain ⟨hn, ha⟩ := namedTag_words ht
  have hopen : ∀ more, normalizeValues .content ('<' :: more) = '<' :: normalizeValues .tag more := fun _ => rfl
  have hclose : ∀ more, normalizeValues .tag ('>' :: more) = '>' :: normalizeValues .content more := fun _ => rfl
  have hslash : ∀ more, normalizeValues .tag ('/' :: more) = '/' :: normalizeValues .tag more := fun _ => rfl
  rw [Node.mapTexts, renderNode_element, renderNode_element, hopen, normalizeValues_tag (tagWord_unquoted hn),
    normalizeValues_attributes ha, hclose, hc, hopen, hslash, normalizeValues_tag (tagWord_unquoted hn), hclose]

lemma normalizeValues_render {ns : List Node} (hn : allNodes isNamedTag (fun _ => true) ns = true)
    (rest : List Char) :
    normalizeValues .content (renderNodes wireEscapes ns ++ rest) =
      renderNodes wireEscapes (mapNodes blankedValue id ns) ++ normalizeValues .content rest := by
  induction ns using nodes_induction generalizing rest with
  | nil => rfl
  | text s ns ih =>
    simp only [allNodes, Node.all, Bool.true_and] at hn
    have ho : '<' ∉ s.toList.flatMap wireEscapes.text := by simpa using fun c _ => wireEscapes.text_opens_no_tag c
    simp only [mapNodes, Node.mapTexts, renderNodes, renderNode, List.append_assoc, id]
    rw [normalizeValues_content ho, ih hn]
  | element name attributes children ns ihc ih =>
    simp only [allNodes, Node.all, Bool.and_eq_true] at hn
    rw [renderNodes, List.append_assoc, normalizeValues_element hn.1.1 (ihc hn.1.2), ih hn.2, mapNodes,
      renderNodes, List.append_assoc]

end Values

def Element.IsLone (e : Element) : Prop :=
  TextsLone e.children

lemma Element.IsLone.insertChild {document child : Element} (hd : document.IsLone) (hc : child.IsLone)
    (position : Nat) :
    (document.insertChild position child).IsLone := by
  have hins : ∀ {ns : List Node}, TextsLone ns → ∀ k, TextsLone (ns.take k ++ child.toNode :: ns.drop k) ∧
      (k ≠ 0 → startsWithText ns = false → startsWithText (ns.take k ++ child.toNode :: ns.drop k) = false) := by
    intro ns h
    induction h with
    | nil =>
      intro k
      rw [List.take_nil, List.drop_nil]
      exact ⟨.element hc .nil, fun _ _ => rfl⟩
    | @text s ns hs hl ih =>
      intro k
      cases k with
      | zero => exact ⟨.element hc (.text hs hl), fun hk => absurd rfl hk⟩
      | succ k =>
        refine ⟨.text ?_ (ih k).1, fun _ ht => ht⟩
        cases k with
        | zero => rfl
        | succ k => exact (ih (k + 1)).2 (Nat.succ_ne_zero k) hs
    | element hch hl ihc ih =>
      intro k
      cases k with
      | zero => exact ⟨.element hc (.element hch hl), fun hk => absurd rfl hk⟩
      | succ k => exact ⟨.element hch (ih k).1, fun _ _ => rfl⟩
  exact (hins hd position).1

lemma isLone_ofText (name : String) (attributes : List Attribute) (s : String) :
    (Element.ofText name attributes s).IsLone :=
  .text rfl .nil

lemma isLone_childless (name : String) (attributes : List Attribute) :
    Element.IsLone ⟨name, attributes, []⟩ :=
  .nil

lemma isLone_ofElements {name : String} {attributes : List Attribute} {children : List Element} :
    (Element.ofElements name attributes children).IsLone ↔ ∀ e ∈ children, e.IsLone := by
  have hl : TextsLone (children.map Element.toNode) ↔ ∀ e ∈ children, e.IsLone := by
    induction children with
    | nil => exact ⟨fun _ _ h => absurd h List.not_mem_nil, fun _ => .nil⟩
    | cons e children ih =>
      rw [List.forall_mem_cons, List.map_cons]
      constructor
      · intro h
        cases h with
        | element he hes => exact ⟨he, ih.mp hes⟩
      · rintro ⟨he, hes⟩
        exact .element he (ih.mpr hes)
  exact hl

theorem normalize_render {e : Element} (hn : e.IsNamed) (hl : e.IsLone) :
    normalize (String.ofList (renderNode wireEscapes e.toNode)) =
      String.ofList (renderNode wireEscapes e.normalized.toNode) := by
  have hn' := hn.mapTexts normalizedText normalizedText
  rw [Element.IsNamed, all_toNode, Bool.and_eq_true] at hn hn'
  have hlines := normalizeLines_element hn.1 (normalizeLines_render hl hn.2) []
  have hvalues := normalizeValues_element hn'.1 (normalizeValues_render hn'.2) []
  have hempty : normalizeLines false [] = [] ∧ normalizeValues .content [] = [] := ⟨rfl, rfl⟩
  have htwice : (Element.mapTexts normalizedText normalizedText e).mapTexts blankedValue id = e.normalized := by
    simp only [Element.mapTexts, Element.normalized, mapNodes_mapNodes, List.map_map, Function.comp_def, id]
    rfl
  rw [hempty.1, List.append_nil, List.append_nil] at hlines
  rw [hempty.2, List.append_nil, List.append_nil] at hvalues
  rw [normalize, String.toList_ofList, ← htwice]
  exact congrArg String.ofList ((congrArg (normalizeValues .content) hlines).trans hvalues)

end IdentityProvider.Xml
