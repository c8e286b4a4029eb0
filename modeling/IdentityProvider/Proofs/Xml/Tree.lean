import IdentityProvider.Proofs.Xml.Name
/-! Properties of every element and text of a tree, and trees in which adjacent texts are one. -/

namespace IdentityProvider.Xml

lemma nodes_induction {P : List Node → Prop} (nil : P [])
    (text : ∀ content ns, P ns → P (.text content :: ns))
    (element : ∀ name attributes children ns, P children → P ns →
      P (.element name attributes children :: ns)) : ∀ ns, P ns
  | [] => nil
  | .text content :: ns => text content ns (nodes_induction nil text element ns)
  | .element name attributes children :: ns =>
    element name attributes children ns (nodes_induction nil text element children)
      (nodes_induction nil text element ns)

mutual

def Node.all (tag : String → List Attribute → Bool) (content : String → Bool) : Node → Bool
  | .element name attributes children => tag name attributes && allNodes tag content children
  | .text s => content s

def allNodes (tag : String → List Attribute → Bool) (content : String → Bool) : List Node → Bool
  | [] => true
  | n :: ns => n.all tag content && allNodes tag content ns

end

def isXmlText (s : String) : Bool :=
  s.toList.all isXmlChar

def areNames (name : String) (keys : List String) : Bool :=
  isQName name && keys.all isQName && decide keys.Nodup

def isNamedTag (name : String) (attributes : List Attribute) : Bool :=
  areNames name (attributes.map Prod.fst)

def isWritableTag (name : String) (attributes : List Attribute) : Bool :=
  isXmlText name && attributes.all (fun a => isXmlText a.1 && isXmlText a.2)

lemma isWritableTag_iff {name : String} {attributes : List Attribute} :
    isWritableTag name attributes = true ↔
      isXmlText name = true ∧ ∀ a ∈ attributes, isXmlText a.1 = true ∧ isXmlText a.2 = true := by
  simp [isWritableTag]

def Element.IsNamed (e : Element) : Prop :=
  e.toNode.all isNamedTag (fun _ => true) = true

def Element.IsWritable (e : Element) : Prop :=
  e.toNode.all isWritableTag isXmlText = true

instance (e : Element) : Decidable e.IsNamed :=
  inferInstanceAs (Decidable (_ = true))

instance (e : Element) : Decidable e.IsWritable :=
  inferInstanceAs (Decidable (_ = true))

lemma all_toNode (tag : String → List Attribute → Bool) (content : String → Bool) (e : Element) :
    e.toNode.all tag content = (tag e.name e.attributes && allNodes tag content e.children) := rfl

lemma all_childless (tag : String → List Attribute → Bool) (content : String → Bool) (name : String)
    (attributes : List Attribute) : Node.all tag content (Element.toNode ⟨name, attributes, []⟩) =
    tag name attributes := by
  simp [all_toNode, allNodes]

lemma all_ofText (tag : String → List Attribute → Bool) (content : String → Bool) (name : String)
    (attributes : List Attribute) (s : String) :
    (Element.ofText name attributes s).toNode.all tag content = (tag name attributes && content s) := by
  simp [all_toNode, Element.ofText, allNodes, Node.all]

lemma all_ofElements (tag : String → List Attribute → Bool) (content : String → Bool) (name : String)
    (attributes : List Attribute) (children : List Element) :
    (Element.ofElements name attributes children).toNode.all tag content =
      (tag name attributes && children.all fun e => e.toNode.all tag content) := by
  have hc : allNodes tag content (children.map Element.toNode) =
      children.all fun e => e.toNode.all tag content := by
    induction children with
    | nil => rfl
    | cons e children ih => simp [allNodes, ih]
  simp only [all_toNode, Element.ofElements, hc]

lemma allNodes_append (tag : String → List Attribute → Bool) (content : String → Bool) (xs ys : List Node) :
    allNodes tag content (xs ++ ys) = (allNodes tag content xs && allNodes tag content ys) := by
  induction xs with
  | nil => simp [allNodes]
  | cons n ns ih => simp [allNodes, ih, Bool.and_assoc]

lemma allNodes_iff {tag : String → List Attribute → Bool} {content : String → Bool} {ns : List Node} :
    allNodes tag content ns = true ↔ ∀ n ∈ ns, n.all tag content = true := by
  induction ns with
  | nil => simp [allNodes]
  | cons n ns ih => rw [allNodes, Bool.and_eq_true, ih, List.forall_mem_cons]

lemma allNodes_congr {guard tag tag' : String → List Attribute → Bool} (content : String → Bool)
    (ht : ∀ name attributes, guard name attributes = true → tag name attributes = tag' name attributes)
    {ns : List Node} (h : allNodes guard (fun _ => true) ns = true) :
    allNodes tag content ns = allNodes tag' content ns := by
  induction ns using nodes_induction with
  | nil => rfl
  | text s ns ih =>
    simp only [allNodes, Node.all, Bool.and_eq_true] at h
    rw [allNodes, allNodes, ih h.2]
    rfl
  | element name attributes children ns ihc ih =>
    simp only [allNodes, Node.all, Bool.and_eq_true] at h
    simp only [allNodes, Node.all, ht name attributes h.1.1, ihc h.1.2, ih h.2]

lemma allNodes_mono {tag tag' : String → List Attribute → Bool} {content content' : String → Bool}
    (ht : ∀ name attributes, tag name attributes = true → tag' name attributes = true)
    (hc : ∀ s, content s = true → content' s = true) {ns : List Node}
    (h : allNodes tag content ns = true) : allNodes tag' content' ns = true := by
  induction ns using nodes_induction with
  | nil => rfl
  | text s ns ih =>
    simp only [allNodes, Node.all, Bool.and_eq_true] at h ⊢
    exact ⟨hc s h.1, ih h.2⟩
  | element name attributes children ns ihc ih =>
    simp only [allNodes, Node.all, Bool.and_eq_true] at h ⊢
    exact ⟨⟨ht _ _ h.1.1, ihc h.1.2⟩, ih h.2⟩

def joinText (s : String) : List Node → List Node
  | .text t :: ns => .text (s ++ t) :: ns
  | ns => if s = "" then ns else .text s :: ns

def Node.joinedTo : Node → List Node → List Node
  | .text s, ns => joinText s ns
  | .element name attributes children, ns => .element name attributes children :: ns

mutual

def Node.merged : Node → Node
  | .element name attributes children => .element name attributes (mergedNodes children)
  | .text s => .text s

def mergedNodes : List Node → List Node
  | [] => []
  | n :: ns => n.merged.joinedTo (mergedNodes ns)

end

def Element.merged (e : Element) : Element :=
  { e with children := mergedNodes e.children }

lemma toNode_injective {e f : Element} (h : e.toNode = f.toNode) : e = f := by
  cases e
  cases f
  simpa [Element.toNode] using h

lemma toNode_merged (e : Element) : e.merged.toNode = e.toNode.merged := rfl

@[simp] lemma joinText_empty (ns : List Node) : joinText "" ns = ns := by
  unfold joinText
  split <;> simp

lemma joinText_joinText (s t : String) (ns : List Node) :
    joinText s (joinText t ns) = joinText (s ++ t) ns := by
  by_cases ht : t = ""
  · simp [ht]
  · have hst : s ++ t ≠ "" := by simp [ht]
    cases ns with
    | nil => simp [joinText, ht, hst]
    | cons n ns => cases n <;> simp [joinText, ht, hst, String.append_assoc]

/-- A reading that passes empty texts over, and does not see where one text ends and the next begins, does not
tell whether a text is joined or only put before. -/
lemma apply_joinText {α : Type} {f : List Node → α} (hempty : ∀ ns, f (.text "" :: ns) = f ns)
    (happend : ∀ s t ns, f (.text (s ++ t) :: ns) = f (.text s :: .text t :: ns)) (s : String) (ns : List Node) :
    f (joinText s ns) = f (.text s :: ns) := by
  by_cases hs : s = ""
  · rw [hs, joinText_empty, hempty]
  · cases ns with
    | nil => simp only [joinText, if_neg hs]
    | cons n ns =>
      cases n with
      | element => simp only [joinText, if_neg hs]
      | text t => exact happend s t ns

lemma merged_joinedTo (n : Node) (xs ys : List Node) :
    mergedNodes (n.joinedTo xs ++ ys) = n.merged.joinedTo (mergedNodes (xs ++ ys)) := by
  cases n with
  | element name attributes children => rfl
  | text s =>
    simp only [Node.joinedTo, Node.merged]
    by_cases hs : s = ""
    · simp [hs]
    · cases xs with
      | nil => simp [joinText, hs, mergedNodes, Node.joinedTo, Node.merged]
      | cons x xs =>
        cases x with
        | element => simp [joinText, hs, mergedNodes, Node.joinedTo, Node.merged]
        | text t =>
          change joinText (s ++ t) _ = joinText s (joinText t _)
          rw [joinText_joinText]

@[simp] lemma merged_twice (ns : List Node) : mergedNodes (mergedNodes ns) = mergedNodes ns := by
  induction ns using nodes_induction with
  | nil => rfl
  | text s ns ih =>
    have hm := merged_joinedTo (.text s) (mergedNodes ns) []
    simpa only [List.append_nil, ih, mergedNodes, Node.merged] using hm
  | element name attributes children ns ihc ih =>
    simp [mergedNodes, Node.merged, Node.joinedTo, ihc, ih]

lemma mergedNode_twice (n : Node) : n.merged.merged = n.merged := by
  cases n <;> simp [Node.merged]

lemma merged_append_merged (xs ys : List Node) : mergedNodes (xs ++ mergedNodes ys) = mergedNodes (xs ++ ys) := by
  induction xs with
  | nil => simp
  | cons x xs ih => simp [mergedNodes, ih]

lemma merged_merged_append (xs ys : List Node) : mergedNodes (mergedNodes xs ++ ys) = mergedNodes (xs ++ ys) := by
  induction xs with
  | nil => simp [mergedNodes]
  | cons x xs ih =>
    simp only [mergedNodes, List.cons_append]
    rw [merged_joinedTo, ih, mergedNode_twice]

lemma merged_append_element (xs ys : List Node) (name : String) (attributes : List Attribute)
    (children : List Node) :
    mergedNodes (xs ++ .element name attributes children :: ys) =
      mergedNodes xs ++ .element name attributes (mergedNodes children) :: mergedNodes ys := by
  induction xs with
  | nil => rfl
  | cons x xs ih =>
    simp only [List.cons_append, mergedNodes, ih]
    cases x with
    | element => rfl
    | text s =>
      simp only [Node.merged, Node.joinedTo]
      cases mergedNodes xs with
      | nil =>
        simp only [joinText, List.nil_append]
        split <;> rfl
      | cons z zs =>
        cases z <;> simp only [joinText, List.cons_append]
        split <;> rfl

def startsWithText : List Node → Bool
  | .text _ :: _ => true
  | _ => false

lemma joinText_apart {s : String} {ns : List Node} (hs : s ≠ "") (hn : startsWithText ns = false) :
    joinText s ns = .text s :: ns := by
  unfold joinText
  split
  · cases hn
  · exact if_neg hs

inductive TextsApart : List Node → Prop
  | nil : TextsApart []
  | text {s : String} {ns : List Node} : s ≠ "" → startsWithText ns = false → TextsApart ns →
      TextsApart (.text s :: ns)
  | element {name : String} {attributes : List Attribute} {children ns : List Node} :
      TextsApart children → TextsApart ns → TextsApart (.element name attributes children :: ns)

lemma TextsApart.joinText {s : String} {ns : List Node} (h : TextsApart ns) : TextsApart (joinText s ns) := by
  by_cases hs : s = ""
  · simpa [hs] using h
  · cases h with
    | nil => simpa [Xml.joinText, hs] using TextsApart.text hs rfl .nil
    | text ht hn ha => exact .text (by simp [ht]) hn ha
    | element hc ha => simpa [Xml.joinText, hs] using TextsApart.text hs rfl (.element hc ha)

lemma merged_textsApart (ns : List Node) : TextsApart (mergedNodes ns) := by
  induction ns using nodes_induction with
  | nil => exact .nil
  | text s ns ih => exact ih.joinText
  | element name attributes children ns ihc ih => exact .element ihc ih

lemma all_joinText {tag : String → List Attribute → Bool} {content : String → Bool}
    (he : content "" = true) (ha : ∀ s t, content (s ++ t) = (content s && content t)) (s : String)
    (ns : List Node) :
    allNodes tag content (joinText s ns) = (content s && allNodes tag content ns) := by
  by_cases hs : s = ""
  · simp [hs, he]
  · cases ns with
    | nil => simp [joinText, hs, allNodes, Node.all]
    | cons n ns => cases n <;> simp [joinText, hs, allNodes, Node.all, ha, Bool.and_assoc]

lemma allNodes_merged (tag : String → List Attribute → Bool) (content : String → Bool)
    (he : content "" = true) (ha : ∀ s t, content (s ++ t) = (content s && content t)) (ns : List Node) :
    allNodes tag content (mergedNodes ns) = allNodes tag content ns := by
  induction ns using nodes_induction with
  | nil => rfl
  | text s ns ih => simp [mergedNodes, Node.merged, Node.joinedTo, allNodes, Node.all, all_joinText he ha, ih]
  | element name attributes children ns ihc ih =>
    simp [mergedNodes, Node.merged, Node.joinedTo, allNodes, Node.all, ihc, ih]

lemma isXmlText_append (s t : String) : isXmlText (s ++ t) = (isXmlText s && isXmlText t) := by
  simp [isXmlText]

lemma Element.IsNamed.merged {e : Element} (h : e.IsNamed) : e.merged.IsNamed := by
  rw [Element.IsNamed, all_toNode] at h ⊢
  simpa only [Element.merged, allNodes_merged _ (fun _ => true) rfl (by simp)] using h

lemma Element.IsWritable.merged {e : Element} (h : e.IsWritable) : e.merged.IsWritable := by
  rw [Element.IsWritable, all_toNode] at h ⊢
  simpa only [Element.merged, allNodes_merged _ isXmlText rfl isXmlText_append] using h

end IdentityProvider.Xml
