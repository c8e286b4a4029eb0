import IdentityProvider.Proofs.Xml.Tree

namespace IdentityProvider.Xml

lemma elements_text (s : String) (ns : List Node) :
    (Node.text s :: ns).filterMap Node.element? = ns.filterMap Node.element? := rfl

lemma elements_element (name : String) (attributes : List Attribute) (children ns : List Node) :
    (Node.element name attributes children :: ns).filterMap Node.element? =
      ⟨name, attributes, children⟩ :: ns.filterMap Node.element? := rfl

lemma elements_joinText (s : String) (ns : List Node) :
    (joinText s ns).filterMap Node.element? = ns.filterMap Node.element? :=
  apply_joinText (elements_text "") (fun _ _ _ => rfl) s ns

lemma elements_mergedNodes (ns : List Node) :
    (mergedNodes ns).filterMap Node.element? = (ns.filterMap Node.element?).map Element.merged := by
  induction ns using nodes_induction with
  | nil => rfl
  | text s ns ih => simp [mergedNodes, Node.merged, Node.joinedTo, elements_joinText, elements_text, ih]
  | element name attributes children ns _ ih =>
    simp [mergedNodes, Node.merged, Node.joinedTo, elements_element, Element.merged, ih]

lemma text_joinText (s : String) (ns : List Node) :
    String.join ((joinText s ns).map Node.directText) = s ++ String.join (ns.map Node.directText) := by
  have hj := apply_joinText (f := fun ns => String.join (ns.map Node.directText)) (by simp [Node.directText])
    (by simp [Node.directText, String.append_assoc]) s ns
  rw [hj, List.map_cons, String.join_cons, Node.directText]

lemma text_mergedNodes (ns : List Node) :
    String.join ((mergedNodes ns).map Node.directText) = String.join (ns.map Node.directText) := by
  induction ns using nodes_induction with
  | nil => rfl
  | text s ns ih => simp [mergedNodes, Node.merged, Node.joinedTo, text_joinText, Node.directText, ih]
  | element name attributes children ns _ ih =>
    simp [mergedNodes, Node.merged, Node.joinedTo, Node.directText, ih]

namespace Element

variable (e : Element)

@[simp] lemma localName_merged : e.merged.localName = e.localName := rfl

@[simp] lemma attribute_merged (key : String) : e.merged.attribute? key = e.attribute? key := rfl

@[simp] lemma elements_merged : e.merged.elements = e.elements.map merged :=
  elements_mergedNodes e.children

@[simp] lemma textContent_merged : e.merged.textContent = e.textContent :=
  text_mergedNodes e.children

lemma find_merged (name : String) : e.merged.find? name = (e.find? name).map merged := by
  simp [find?, List.find?_map, Function.comp_def]

@[simp] lemma elements_ofElements (name : String) (attributes : List Attribute) (children : List Element) :
    (ofElements name attributes children).elements = children := by
  have he : Node.element? ∘ toNode = some := rfl
  rw [elements, ofElements, List.filterMap_map, he, List.filterMap_some]

variable {e} in
lemma mem_children_of_find {name : String} {c : Element} (h : e.find? name = some c) : c.toNode ∈ e.children := by
  obtain ⟨n, hn, hc⟩ := List.mem_filterMap.mp (List.mem_of_find?_eq_some h)
  cases n with
  | text s => cases hc
  | element tag attributes children =>
    cases hc
    exact hn

variable {e} in
lemma IsWritable.find (h : e.IsWritable) {name : String} {c : Element} (hc : e.find? name = some c) :
    c.IsWritable := by
  rw [IsWritable, all_toNode, Bool.and_eq_true] at h
  exact allNodes_iff.mp h.2 _ (mem_children_of_find hc)

variable {e} in
lemma IsWritable.removeChild (h : e.IsWritable) (name : String) : (e.removeChild name).IsWritable := by
  rw [IsWritable, all_toNode, Bool.and_eq_true] at h ⊢
  refine ⟨h.1, ?_⟩
  rw [allNodes_iff] at h ⊢
  intro n hn
  exact h.2 n (List.mem_of_mem_eraseP hn)

lemma find_ofElements (names : List String) (i : Nat) {name : String} {attributes : List Attribute}
    {children : List Element} {tag : String} (hn : children.map Element.name = names)
    (hi : names.findIdx? (fun n => localPart n == tag) = some i) :
    (ofElements name attributes children).find? tag = children[i]? := by
  subst hn
  rw [find?, elements_ofElements]
  rw [List.findIdx?_map] at hi
  have hc : children.findIdx? (fun c => c.localName == tag) = some i := hi
  rw [List.find?_eq_bind_findIdx?_getElem?, hc, Option.bind_some]

lemma localName_ne_of_names (names : List String) {name tag : String} {attributes : List Attribute}
    {children : List Element} (hn : children.map Element.name = names)
    (ht : names.all (fun n => localPart n != tag) = true) :
    ∀ e ∈ (ofElements name attributes children).elements, e.localName ≠ tag := by
  subst hn
  rw [elements_ofElements]
  intro e he
  have hne := List.all_eq_true.mp ht e.name (List.mem_map_of_mem he)
  simpa [localName] using hne

@[simp] lemma textContent_ofText (name : String) (attributes : List Attribute) (content : String) :
    (ofText name attributes content).textContent = content := by
  simp [textContent, ofText, Node.directText]

def path? (e : Element) : List String → Option Element
  | [] => some e
  | name :: names => (e.find? name).bind fun child => child.path? names

variable {e} in
lemma IsWritable.path (h : e.IsWritable) {names : List String} {c : Element} (hc : e.path? names = some c) :
    c.IsWritable := by
  induction names generalizing e with
  | nil =>
    cases hc
    exact h
  | cons name names ih =>
    obtain ⟨child, hchild, hrest⟩ := Option.bind_eq_some_iff.mp hc
    exact ih (h.find hchild) hrest

lemma path_merged (names : List String) : e.merged.path? names = (e.path? names).map merged := by
  induction names generalizing e with
  | nil => rfl
  | cons name names ih =>
    simp only [path?, find_merged, Option.bind_map, Option.map_bind]
    congr 1
    funext child
    exact ih child

lemma path_merged_map {α : Type} {f : Element → α} (hf : ∀ e, f e.merged = f e) (names : List String) :
    (e.merged.path? names).map f = (e.path? names).map f := by
  rw [path_merged, Option.map_map]
  congr 1
  funext child
  exact hf child

end Element

end IdentityProvider.Xml
