import IdentityProvider.Proofs.Xml.CanonicalTree
import IdentityProvider.Proofs.Xml.Lookup
import IdentityProvider.Signature.Verify
/-! A signature put into a document, and taken out of it once the document has been read. -/

namespace IdentityProvider.Signature

open Xml

section Insertion

variable {document child : Element} {position : Nat}

lemma insertChild_merged :
    (document.insertChild position child).merged.children =
      mergedNodes (document.children.take position) ++
        child.merged.toNode :: mergedNodes (document.children.drop position) :=
  merged_append_element _ _ child.name child.attributes child.children

lemma all_insertChild (tag : String → List Attribute → Bool) (content : String → Bool) :
    (document.insertChild position child).toNode.all tag content =
      (document.toNode.all tag content && child.toNode.all tag content) := by
  have hsplit := allNodes_append tag content (document.children.take position) (document.children.drop position)
  rw [List.take_append_drop] at hsplit
  simp only [all_toNode, Element.insertChild, allNodes_append, allNodes, hsplit]
  ac_rfl

lemma insertChild_isNamed (hd : document.IsNamed) (hc : child.IsNamed) :
    (document.insertChild position child).IsNamed := by
  rw [Element.IsNamed, all_insertChild, hd, hc]
  rfl

lemma insertChild_isWritable (hd : document.IsWritable) (hc : child.IsWritable) :
    (document.insertChild position child).IsWritable := by
  rw [Element.IsWritable, all_insertChild, hd, hc]
  rfl

end Insertion

lemma isNamed_eq_any (name : String) (n : Node) :
    n.isNamed name = (n.element?).any (fun e => e.localName == name) := by
  cases n <;> rfl

lemma not_isNamed_of_elements {name : String} {ns : List Node}
    (h : ∀ e ∈ ns.filterMap Node.element?, e.localName ≠ name) : ∀ n ∈ ns, n.isNamed name = false := by
  intro n hn
  rw [isNamed_eq_any]
  cases he : n.element? with
  | none => rfl
  | some e =>
    have hne := h e (List.mem_filterMap.mpr ⟨n, hn, he⟩)
    simpa using hne

lemma mergedNodes_unnamed {name : String} {ns : List Node}
    (h : ∀ e ∈ ns.filterMap Node.element?, e.localName ≠ name) :
    ∀ e ∈ (mergedNodes ns).filterMap Node.element?, e.localName ≠ name := by
  rw [elements_mergedNodes]
  intro e he
  obtain ⟨f, hf, rfl⟩ := List.mem_map.mp he
  exact h f hf

section Removal

variable {document signature : Element} (position : Nat)

lemma find_insertChild (hs : signature.localName = "Signature")
    (h : ∀ e ∈ document.elements, e.localName ≠ "Signature") :
    (document.insertChild position signature).find? "Signature" = some signature := by
  have hbefore : ∀ e ∈ (document.children.take position).filterMap Node.element?, e.localName ≠ "Signature" :=
    fun e he => h e (((List.take_sublist _ _).filterMap _).subset he)
  have hnone : ((document.children.take position).filterMap Node.element?).find?
      (fun c => c.localName == "Signature") = none := by
    rw [List.find?_eq_none]
    exact fun e he => by simpa using hbefore e he
  have he : signature.toNode.element? = some signature := rfl
  rw [Element.find?, Element.elements, Element.insertChild, List.filterMap_append, List.find?_append, hnone,
    Option.none_or, List.filterMap_cons_some he, List.find?_cons_of_pos (by simp [hs])]

lemma find_insertChild_of_ne {name : String} (hn : signature.localName ≠ name) :
    (document.insertChild position signature).find? name = document.find? name := by
  have he : signature.toNode.element? = some signature := rfl
  have hsplit : document.elements = (document.children.take position).filterMap Node.element? ++
      (document.children.drop position).filterMap Node.element? := by
    rw [← List.filterMap_append, List.take_append_drop, Element.elements]
  rw [Element.find?, Element.find?, hsplit, Element.elements, Element.insertChild, List.filterMap_append,
    List.find?_append, List.find?_append, List.filterMap_cons_some he, List.find?_cons_of_neg (by simpa using hn)]

lemma removeChild_insertChild (hs : signature.localName = "Signature")
    (h : ∀ e ∈ document.elements, e.localName ≠ "Signature") :
    ((document.insertChild position signature).merged.removeChild "Signature").merged = document.merged := by
  have hbefore : ∀ n ∈ mergedNodes (document.children.take position), n.isNamed "Signature" = false :=
    not_isNamed_of_elements (mergedNodes_unnamed
      fun e he => h e (((List.take_sublist _ _).filterMap _).subset he))
  have hsig : signature.merged.toNode.isNamed "Signature" = true := by
    have he : signature.merged.toNode.element? = some signature.merged := rfl
    rw [isNamed_eq_any, he]
    simpa using hs
  -- The texts around the signature were kept apart by it, and merge only now.
  have herase : ((document.insertChild position signature).merged.children).eraseP (Node.isNamed "Signature") =
      mergedNodes (document.children.take position) ++ mergedNodes (document.children.drop position) := by
    rw [insertChild_merged, List.eraseP_append_right _ (by simpa using hbefore), List.eraseP_cons_of_pos hsig]
  have hmerged : mergedNodes (mergedNodes (document.children.take position) ++
      mergedNodes (document.children.drop position)) = mergedNodes document.children := by
    rw [merged_merged_append, merged_append_merged, List.take_append_drop]
  rw [Element.removeChild, herase]
  simp only [Element.merged, Element.insertChild, hmerged]

lemma find_signature_merged (hs : signature.localName = "Signature")
    (h : ∀ e ∈ document.elements, e.localName ≠ "Signature") :
    (document.insertChild position signature).merged.find? "Signature" = some signature.merged := by
  rw [Element.find_merged, find_insertChild position hs h]
  rfl

lemma canonicalize_removeChild (hs : signature.localName = "Signature")
    (h : ∀ e ∈ document.elements, e.localName ≠ "Signature") :
    ((document.insertChild position signature).merged.removeChild "Signature").canonicalize =
      document.canonicalize := by
  rw [Element.canonicalize, ← canonicalizeIn_merged, removeChild_insertChild position hs h, canonicalizeIn_merged]
  rfl

end Removal

end IdentityProvider.Signature
