import IdentityProvider.Proofs.Outcome
import IdentityProvider.Proofs.Xml.Scanning
/-! Reading the markup of a tree gives the tree back, with adjacent texts made one and without empty texts. -/

namespace IdentityProvider.Xml

mutual

def tokensOfNode (e : Escapes) : Node → List Token
  | .element name attributes children =>
    .startTag name.toList (attributes.flatMap (renderAttribute e)) ::
      (tokensOfNodes e children ++ [.endTag name.toList])
  | .text s => [.text (s.toList.flatMap e.text)]

def tokensOfNodes (e : Escapes) : List Node → List Token
  | [] => []
  | n :: ns => tokensOfNode e n ++ tokensOfNodes e ns

end

lemma namedTag_iff {name : String} {attributes : List Attribute} :
    isNamedTag name attributes = true ↔
      isQName name = true ∧ (∀ a ∈ attributes, isQName a.1 = true) ∧ (attributes.map Prod.fst).Nodup := by
  simp only [isNamedTag, areNames, Bool.and_eq_true, List.all_eq_true, decide_eq_true_eq, and_assoc,
    List.forall_mem_map]

lemma namedTag_words {name : String} {attributes : List Attribute} (h : isNamedTag name attributes = true) :
    IsTagWord name.toList ∧ ∀ a ∈ attributes, IsTagWord a.1.toList := by
  obtain ⟨hn, ha, _⟩ := namedTag_iff.mp h
  exact ⟨qName_isTagWord hn, fun a hm => qName_isTagWord (ha a hm)⟩

lemma tokens_startTag (e : Escapes) {name : String} {attributes : List Attribute}
    (h : isNamedTag name attributes = true) (rest : List Char) :
    tokens ('<' :: (name.toList ++ attributes.flatMap (renderAttribute e) ++ '>' :: rest)) =
      .startTag name.toList (attributes.flatMap (renderAttribute e)) :: tokens rest := by
  obtain ⟨hn, ha⟩ := namedTag_words h
  exact tokens_markup (readMarkup_startTag e hn ha rest)

lemma tokens_endTag {name : String} (h : isQName name = true) (rest : List Char) :
    tokens ('<' :: '/' :: (name.toList ++ '>' :: rest)) = .endTag name.toList :: tokens rest :=
  tokens_markup (readMarkup_endTag (qName_isTagWord h) rest)

lemma escape_ne_nil (e : Escapes) (c : Char) : e.text c ≠ [] := by
  intro h
  have hr := e.text_reads c [] []
  simp [h, unescapeOnto] at hr

lemma render_opens_tag (e : Escapes) {ns : List Node} (h : startsWithText ns = false) (rest : List Char) :
    ∃ r, renderNodes e ns ++ '<' :: rest = '<' :: r := by
  cases ns with
  | nil => exact ⟨rest, rfl⟩
  | cons n ns =>
    cases n with
    | element => exact ⟨_, rfl⟩
    | text s => cases h

lemma tokens_render (e : Escapes) {ns : List Node} (h : TextsApart ns)
    (hn : allNodes isNamedTag (fun _ => true) ns = true) (rest : List Char) :
    tokens (renderNodes e ns ++ '<' :: rest) = tokensOfNodes e ns ++ tokens ('<' :: rest) := by
  induction h generalizing rest with
  | nil => rfl
  | @text s ns hs ht _ ih =>
    simp only [allNodes, Node.all, Bool.true_and] at hn
    have hr : s.toList.flatMap e.text ≠ [] := by
      intro hr
      rw [List.flatMap_eq_nil_iff] at hr
      obtain ⟨c, cs, hc⟩ := List.exists_cons_of_ne_nil (by simpa using hs : s.toList ≠ [])
      exact escape_ne_nil e c (hr c (by simp [hc]))
    -- The text ends where the next tag opens, which is why no text may follow it.
    have ho : '<' ∉ s.toList.flatMap e.text := by simpa using fun c _ => e.text_opens_no_tag c
    obtain ⟨r, he⟩ := render_opens_tag e ht rest
    simp only [renderNodes, renderNode, tokensOfNodes, tokensOfNode, List.append_assoc]
    rw [← ih hn, he, tokens_text hr ho, List.singleton_append]
  | @element name attributes children ns _ _ ihc ih =>
    simp only [allNodes, Node.all, Bool.and_eq_true] at hn
    obtain ⟨⟨ht, hc⟩, hr⟩ := hn
    have hq := (namedTag_iff.mp ht).1
    simp only [renderNodes, renderNode, tokensOfNodes, tokensOfNode, List.append_assoc, List.cons_append,
      List.nil_append]
    rw [← List.append_assoc, tokens_startTag e ht, ihc hc, tokens_endTag hq, ih hr]

lemma nested_tokens (e : Escapes) (ns : List Node) (opened : List (List Char)) (ts : List Token) :
    nested opened (tokensOfNodes e ns ++ ts) = tokensOfNodes e ns ++ nested opened ts := by
  induction ns using nodes_induction generalizing opened ts with
  | nil => rfl
  | text s ns ih => simp [tokensOfNodes, tokensOfNode, nested, ih]
  | element name attributes children ns ihc ih =>
    simp [tokensOfNodes, tokensOfNode, nested, ihc, ih]

lemma scan_render (e : Escapes) {t : Element} (hn : t.IsNamed) (ha : TextsApart t.children) :
    scan (renderNode e t.toNode) = tokensOfNode e t.toNode := by
  rw [Element.IsNamed, all_toNode, Bool.and_eq_true] at hn
  have hd : dropByteOrderMark (renderNode e t.toNode) = renderNode e t.toNode := by
    simp [dropByteOrderMark, Element.toNode, renderNode]
  have ht : tokens (renderNode e t.toNode) = tokensOfNode e t.toNode := by
    have hq := (namedTag_iff.mp hn.1).1
    simp only [Element.toNode, renderNode, tokensOfNode]
    rw [tokens_startTag e hn.1, tokens_render e ha hn.2, tokens_endTag hq, tokens]
  rw [scan, hd, ht]
  simp [Element.toNode, tokensOfNode, nested, nested_tokens]

lemma draft_startTag (e : Escapes) {name : String} {attributes : List Attribute}
    (h : isNamedTag name attributes = true) (opened : List Element) :
    Draft.step ⟨opened, none⟩ (.startTag name.toList (attributes.flatMap (renderAttribute e))) =
      .ok ⟨⟨name, attributes, []⟩ :: opened, none⟩ := by
  simp only [Draft.step, Option.isSome_none, Bool.false_eq_true, if_false]
  rw [elementAttributes_render e (namedTag_words h).2 (namedTag_iff.mp h).2.2, String.ofList_toList]
  rfl

lemma draft_tokens (e : Escapes) {ns : List Node} (hn : allNodes isNamedTag (fun _ => true) ns = true)
    (x : Element) (outer : List Element) :
    (tokensOfNodes e ns).foldlM Draft.step ⟨x :: outer, none⟩ =
      .ok ⟨{ x with children := ns.reverse ++ x.children } :: outer, none⟩ := by
  induction ns using nodes_induction generalizing x outer with
  | nil => rfl
  | text s ns ih =>
    simp only [allNodes, Node.all, Bool.true_and] at hn
    have hs : Draft.step ⟨x :: outer, none⟩ (.text (s.toList.flatMap e.text)) =
        .ok ⟨{ x with children := .text s :: x.children } :: outer, none⟩ := by
      simp [Draft.step, unescape_flatMap e.text_reads, Draft.push]
    simp only [tokensOfNodes, tokensOfNode, List.singleton_append]
    rw [foldlM_cons_ok hs, ih hn]
    simp
  | element name attributes children ns ihc ih =>
    simp only [allNodes, Node.all, Bool.and_eq_true] at hn
    obtain ⟨⟨ht, hc⟩, hr⟩ := hn
    -- Children are gathered in reverse, so that the end tag finds them as they were pushed.
    have hend : Draft.step ⟨⟨name, attributes, children.reverse ++ []⟩ :: x :: outer, none⟩
        (.endTag name.toList) =
        .ok ⟨{ x with children := .element name attributes children :: x.children } :: outer, none⟩ := by
      simp [Draft.step, Draft.complete, Draft.push, Element.toNode]
    simp only [tokensOfNodes, tokensOfNode, List.cons_append, List.append_assoc]
    rw [foldlM_cons_ok (draft_startTag e ht (x :: outer)), foldlM_append_ok (ihc hc _ _), List.nil_append,
      foldlM_cons_ok hend, ih hr]
    simp

theorem parse_render (e : Escapes) {t : Element} (hn : t.IsNamed) :
    parse (String.ofList (renderNode e t.toNode)) = .ok t.merged := by
  have hm := hn.merged
  have hs := scan_render e hm (merged_textsApart t.children)
  rw [Element.IsNamed, all_toNode, Bool.and_eq_true] at hm
  have hend : Draft.step ⟨[⟨t.name, t.attributes, (mergedNodes t.children).reverse ++ []⟩], none⟩
      (.endTag t.name.toList) = .ok ⟨[], some t.merged⟩ := by
    simp [Draft.step, Draft.complete, Element.merged]
  have hf : (scan (renderNode e t.toNode)).foldlM Draft.step Draft.empty = .ok ⟨[], some t.merged⟩ := by
    rw [← renderNode_merged, hs]
    simp only [Element.toNode, tokensOfNode, Draft.empty]
    rw [foldlM_cons_ok (draft_startTag e hm.1 []), foldlM_append_ok (draft_tokens e hm.2 _ _)]
    exact foldlM_cons_ok hend []
  rw [parse, String.toList_ofList, hf]
  rfl

def areXmlValues (attributes : List Attribute) : Bool :=
  attributes.all fun a => isXmlText a.2

def Element.HasXmlContent (e : Element) : Prop :=
  e.toNode.all (fun _ attributes => areXmlValues attributes) isXmlText = true

instance (e : Element) : Decidable e.HasXmlContent :=
  inferInstanceAs (Decidable (_ = true))

lemma qName_isXmlText {s : String} (h : isQName s = true) : isXmlText s = true :=
  List.all_eq_true.mpr fun c hc => (qName_chars h c hc).2

lemma namedTag_isWritableTag {name : String} {attributes : List Attribute}
    (h : isNamedTag name attributes = true) :
    isWritableTag name attributes = areXmlValues attributes := by
  obtain ⟨hn, ha, _⟩ := namedTag_iff.mp h
  rw [Bool.eq_iff_iff, isWritableTag_iff, areXmlValues, List.all_eq_true]
  constructor
  · rintro ⟨_, hw⟩ a hm
    exact (hw a hm).2
  · intro hv
    exact ⟨qName_isXmlText hn, fun a hm => ⟨qName_isXmlText (ha a hm), hv a hm⟩⟩

lemma Element.IsNamed.isWritable_iff {e : Element} (h : e.IsNamed) : e.IsWritable ↔ e.HasXmlContent := by
  rw [Element.IsNamed, all_toNode, Bool.and_eq_true] at h
  rw [Element.IsWritable, Element.HasXmlContent, all_toNode, all_toNode, namedTag_isWritableTag h.1,
    allNodes_congr isXmlText (fun _ _ => namedTag_isWritableTag) h.2]

/-- A tree can be written just if its contents may stand in XML 1.0. It then reads back with its adjacent texts
made one and without its empty texts, as it was otherwise, and that tree is written alike. -/
theorem toXml_reads_back {t : Element} (h : t.IsNamed) :
    ((∃ written, t.toXml = .ok written) ↔ t.HasXmlContent) ∧
      ∀ written, t.toXml = .ok written →
        parse written = .ok t.merged ∧ TextsApart t.merged.children ∧ t.merged.toXml = .ok written := by
  constructor
  · rw [← h.isWritable_iff]
    constructor
    · rintro ⟨written, hw⟩
      exact (toXml_ok_iff.mp hw).1
    · intro hw
      exact ⟨_, toXml_ok_iff.mpr ⟨hw, rfl⟩⟩
  · intro written hw
    obtain ⟨hwritable, rfl⟩ := toXml_ok_iff.mp hw
    refine ⟨parse_render wireEscapes h, merged_textsApart t.children, ?_⟩
    rw [toXml_ok_iff, renderNode_merged]
    exact ⟨hwritable.merged, rfl⟩

def splitTexts : Element where
  name := "p:r"
  attributes := [("l", "\t\"<&'>"), ("k", "")]
  children := [.text " x", .text "", .text "]]>", .element "b" [("p:k", "\n")] [.text "", .element "c" [] []],
    .text "\r"]

theorem splitTexts_reads_back :
    splitTexts.IsNamed ∧ splitTexts.HasXmlContent ∧
      ∃ written, splitTexts.toXml = .ok written ∧ parse written = .ok splitTexts.merged ∧
        TextsApart splitTexts.merged.children ∧ splitTexts.merged.toXml = .ok written := by
  have hn : splitTexts.IsNamed := by decide
  have hc : splitTexts.HasXmlContent := by decide
  obtain ⟨hok, hread⟩ := toXml_reads_back hn
  obtain ⟨written, hw⟩ := hok.mpr hc
  exact ⟨hn, hc, written, hw, hread written hw⟩

end IdentityProvider.Xml
