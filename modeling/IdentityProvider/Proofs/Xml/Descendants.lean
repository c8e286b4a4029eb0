import IdentityProvider.Proofs.Xml.Lookup

namespace IdentityProvider.Xml

mutual

def Node.elementsNamed (name : String) : Node → List Element
  | .element tag attributes children =>
    (if localPart tag = name then [⟨tag, attributes, children⟩] else []) ++ elementsNamed name children
  | .text _ => []

def elementsNamed (name : String) : List Node → List Element
  | [] => []
  | n :: ns => n.elementsNamed name ++ elementsNamed name ns

end

def Element.allNamed (e : Element) (name : String) : List Element :=
  e.toNode.elementsNamed name

def isTagBut (name tag : String) (_ : List Attribute) : Bool :=
  localPart tag != name

variable (name : String)

lemma elementsNamed_singleton (n : Node) : elementsNamed name [n] = n.elementsNamed name := by
  rw [elementsNamed, elementsNamed, List.append_nil]

lemma elementsNamed_append (xs ys : List Node) :
    elementsNamed name (xs ++ ys) = elementsNamed name xs ++ elementsNamed name ys := by
  induction xs with
  | nil => rfl
  | cons n ns ih => rw [List.cons_append, elementsNamed, elementsNamed, ih, List.append_assoc]

lemma elementsNamed_map (es : List Element) :
    elementsNamed name (es.map Element.toNode) = es.flatMap fun e => e.allNamed name := by
  induction es with
  | nil => rfl
  | cons e es ih => rw [List.map_cons, elementsNamed, ih, List.flatMap_cons, Element.allNamed]

variable {name} in
lemma elementsNamed_eq_nil {ns : List Node} (h : allNodes (isTagBut name) (fun _ => true) ns = true) :
    elementsNamed name ns = [] := by
  induction ns using nodes_induction with
  | nil => rfl
  | text s ns ih =>
    simp only [allNodes, Node.all, Bool.true_and] at h
    exact ih h
  | element tag attributes children ns ihc ih =>
    simp only [allNodes, Node.all, Bool.and_eq_true, isTagBut, bne_iff_ne] at h
    rw [elementsNamed, Node.elementsNamed, if_neg h.1.1, ihc h.1.2, ih h.2]
    rfl

lemma elementsNamed_merged (ns : List Node) :
    elementsNamed name (mergedNodes ns) = (elementsNamed name ns).map Element.merged := by
  induction ns using nodes_induction with
  | nil => rfl
  | text s ns ih =>
    have htext : ∀ t ms, elementsNamed name (.text t :: ms) = elementsNamed name ms := fun _ _ => rfl
    have hj := apply_joinText (htext "") (fun _ _ _ => rfl) s (mergedNodes ns)
    rw [mergedNodes, Node.merged, Node.joinedTo, hj, htext, htext, ih]
  | element tag attributes children ns ihc ih =>
    rw [mergedNodes, Node.merged, Node.joinedTo, elementsNamed, elementsNamed, Node.elementsNamed,
      Node.elementsNamed, ihc, ih, List.map_append, List.map_append]
    split <;> rfl

namespace Element

lemma allNamed_merged (e : Element) : e.merged.allNamed name = (e.allNamed name).map merged := by
  have hm := elementsNamed_merged name [e.toNode]
  have hone : mergedNodes [e.toNode] = [e.merged.toNode] := rfl
  rwa [hone, elementsNamed_singleton, elementsNamed_singleton] at hm

variable {name}

lemma allNamed_eq_nil {e : Element} (h : e.toNode.all (isTagBut name) (fun _ => true) = true) :
    e.allNamed name = [] := by
  have hn : elementsNamed name [e.toNode] = [] := elementsNamed_eq_nil (by rw [allNodes, h]; rfl)
  rwa [elementsNamed_singleton] at hn

lemma allNamed_of_ne {e : Element} (h : e.localName ≠ name) : e.allNamed name = elementsNamed name e.children := by
  have hl : ¬ localPart e.name = name := h
  rw [allNamed, toNode, Node.elementsNamed, if_neg hl, List.nil_append]

lemma allNamed_of_eq (tag : String) (h : localPart tag = name) {attributes : List Attribute} {children : List Node}
    (hc : elementsNamed name children = []) :
    (⟨tag, attributes, children⟩ : Element).allNamed name = [⟨tag, attributes, children⟩] := by
  rw [allNamed, toNode, Node.elementsNamed, if_pos h, hc, List.append_nil]

lemma allNamed_ofText {tag : String} (h : localPart tag ≠ name) (attributes : List Attribute) (content : String) :
    (ofText tag attributes content).allNamed name = [] :=
  allNamed_of_ne (e := ofText tag attributes content) h

lemma allNamed_childless {tag : String} (h : localPart tag ≠ name) (attributes : List Attribute) :
    (⟨tag, attributes, []⟩ : Element).allNamed name = [] :=
  allNamed_of_ne (e := ⟨tag, attributes, []⟩) h

lemma allNamed_ofElements {tag : String} (h : localPart tag ≠ name) (attributes : List Attribute)
    (children : List Element) :
    (ofElements tag attributes children).allNamed name = children.flatMap fun e => e.allNamed name := by
  rw [allNamed_of_ne (e := ofElements tag attributes children) h, ofElements, elementsNamed_map]

lemma allNamed_insertChild {e child : Element} (h : e.localName ≠ name)
    (hc : child.toNode.all (isTagBut name) (fun _ => true) = true) (position : Nat) :
    (e.insertChild position child).allNamed name = e.allNamed name := by
  have hl : (e.insertChild position child).localName ≠ name := h
  have hn : child.toNode.elementsNamed name = [] := allNamed_eq_nil hc
  rw [allNamed_of_ne hl, allNamed_of_ne h, insertChild, elementsNamed_append, elementsNamed, hn, List.nil_append,
    ← elementsNamed_append, List.take_append_drop]

end Element

end IdentityProvider.Xml
