import IdentityProvider.Proofs.Xml.Lookup
import IdentityProvider.Proofs.Xml.Scope
/-! Trees that agree in all but the order of attributes and declarations that nothing hangs on. Such trees have
one canonical form, if their attributes sort apart. -/

namespace IdentityProvider.Xml

lemma lookup_plainAttributes {key : String} (hk : declaredPrefix? key = none) (attributes : List Attribute) :
    (plainAttributes attributes).lookup key = attributes.lookup key := by
  induction attributes with
  | nil => rfl
  | cons a attributes ih =>
    rw [plainAttributes] at ih ⊢
    rw [List.filter_cons]
    by_cases ha : key = a.1
    · rw [if_pos (by rw [← ha, hk]; rfl), List.lookup_cons, List.lookup_cons, ha, beq_self_eq_true]
    · rw [List.lookup_cons, beq_false_of_ne ha, ← ih]
      split
      · rw [List.lookup_cons, beq_false_of_ne ha]
      · rfl

lemma eraseP_text (name s : String) (ns : List Node) :
    (Node.text s :: ns).eraseP (Node.isNamed name) = .text s :: ns.eraseP (Node.isNamed name) := rfl

lemma eraseP_element (name tag : String) (attributes : List Attribute) (children ns : List Node) :
    (Node.element tag attributes children :: ns).eraseP (Node.isNamed name) =
      if localPart tag == name then ns else .element tag attributes children :: ns.eraseP (Node.isNamed name) := by
  rw [List.eraseP_cons, ← cond_eq_ite]
  rfl

def areKeysApart (scope : Scope) (attributes : List Attribute) : Bool :=
  decide ((plainAttributes attributes).map fun a => sortKey (scope.declare attributes) a.1).Nodup

mutual

def Node.keysApart (scope : Scope) : Node → Bool
  | .element _ attributes children =>
    areKeysApart scope attributes && keysApart (scope.declare attributes) children
  | .text _ => true

def keysApart (scope : Scope) : List Node → Bool
  | [] => true
  | n :: ns => n.keysApart scope && keysApart scope ns

end

lemma areKeysApart_iff {scope : Scope} {attributes : List Attribute} : areKeysApart scope attributes = true ↔
    ((plainAttributes attributes).map fun a => sortKey (scope.declare attributes) a.1).Nodup :=
  decide_eq_true_iff

lemma plain_nodup_of_keysApart {scope : Scope} {attributes : List Attribute}
    (h : areKeysApart scope attributes = true) :
    ((plainAttributes attributes).map Prod.fst).Nodup := by
  have hs : ((plainAttributes attributes).map fun a => sortKey (scope.declare attributes) a.1) =
      ((plainAttributes attributes).map Prod.fst).map (sortKey (scope.declare attributes)) := by
    rw [List.map_map]
    rfl
  rw [areKeysApart_iff, hs] at h
  exact h.of_map _

lemma keysApart_iff {scope : Scope} {ns : List Node} :
    keysApart scope ns = true ↔ ∀ n ∈ ns, n.keysApart scope = true := by
  induction ns with
  | nil => simp [keysApart]
  | cons n ns ih => rw [keysApart, Bool.and_eq_true, ih, List.forall_mem_cons]

lemma keysApart_joinText (scope : Scope) (s : String) (ns : List Node) :
    keysApart scope (joinText s ns) = keysApart scope ns := by
  by_cases hs : s = ""
  · rw [hs, joinText_empty]
  · cases ns with
    | nil => simp [joinText, hs, keysApart, Node.keysApart]
    | cons n ns => cases n <;> simp [joinText, hs, keysApart, Node.keysApart]

lemma keysApart_merged (scope : Scope) (ns : List Node) :
    keysApart scope (mergedNodes ns) = keysApart scope ns := by
  induction ns using nodes_induction generalizing scope with
  | nil => rfl
  | text s ns ih =>
    simp only [mergedNodes, Node.merged, Node.joinedTo, keysApart_joinText, keysApart, Node.keysApart, ih,
      Bool.true_and]
  | element name attributes children ns ihc ih =>
    simp only [mergedNodes, Node.merged, Node.joinedTo, keysApart, Node.keysApart, ihc, ih]

lemma nodup_of_length_le_one {α : Type} {xs : List α} (h : xs.length ≤ 1) : xs.Nodup := by
  match xs with
  | [] => exact List.nodup_nil
  | [x] => exact List.nodup_singleton x
  | _ :: _ :: xs => exact absurd h (by simp)

lemma keysApart_of_length {ns : List Node}
    (h : allNodes (fun _ attributes => decide (attributes.length ≤ 1)) (fun _ => true) ns = true) (scope : Scope) :
    keysApart scope ns = true := by
  induction ns using nodes_induction generalizing scope with
  | nil => rfl
  | text s ns ih =>
    rw [allNodes, Bool.and_eq_true] at h
    exact ih h.2 scope
  | element name attributes children ns ihc ih =>
    simp only [allNodes, Node.all, Bool.and_eq_true, decide_eq_true_eq] at h
    have ha : areKeysApart scope attributes = true := by
      rw [areKeysApart_iff]
      apply nodup_of_length_le_one
      rw [List.length_map]
      exact Nat.le_trans (List.length_filter_le _ attributes) h.1.1
    rw [keysApart, Node.keysApart, ha, ihc h.1.2, ih h.2]
    rfl

structure TagsAgree (scope scope' : Scope) (name : String) (xs ys : List Attribute) : Prop where
  plain : (plainAttributes xs).Perm (plainAttributes ys)
  bound : ∀ p ∈ usedPrefixes name (plainAttributes xs), (scope.declare xs).lookup p = (scope'.declare ys).lookup p

inductive NodesAgree : Scope → Scope → List Node → List Node → Prop
  | nil {scope scope' : Scope} : NodesAgree scope scope' [] []
  | text {scope scope' : Scope} {xs ys : List Node} (s : String) (rest : NodesAgree scope scope' xs ys) :
    NodesAgree scope scope' (.text s :: xs) (.text s :: ys)
  | element {scope scope' : Scope} {name : String} {as bs : List Attribute} {cs ds xs ys : List Node}
    (tag : TagsAgree scope scope' name as bs) (inner : NodesAgree (scope.declare as) (scope'.declare bs) cs ds)
    (rest : NodesAgree scope scope' xs ys) :
    NodesAgree scope scope' (.element name as cs :: xs) (.element name bs ds :: ys)

section Equivalence

variable {scope scope' scope'' : Scope}

lemma TagsAgree.symm {name : String} {xs ys : List Attribute} (h : TagsAgree scope scope' name xs ys) :
    TagsAgree scope' scope name ys xs where
  plain := h.plain.symm
  bound p hp := by
    rw [← usedPrefixes_perm name h.plain] at hp
    exact (h.bound p hp).symm

lemma TagsAgree.trans {name : String} {xs ys zs : List Attribute} (h : TagsAgree scope scope' name xs ys)
    (h' : TagsAgree scope' scope'' name ys zs) : TagsAgree scope scope'' name xs zs where
  plain := h.plain.trans h'.plain
  bound p hp := by
    rw [h.bound p hp]
    exact h'.bound p (usedPrefixes_perm name h.plain ▸ hp)

namespace NodesAgree

variable {xs ys zs : List Node}

lemma symm (h : NodesAgree scope scope' xs ys) : NodesAgree scope' scope ys xs := by
  induction h with
  | nil => exact .nil
  | text s _ ih => exact .text s ih
  | element tag _ _ ihi ih => exact .element tag.symm ihi ih

lemma trans (h : NodesAgree scope scope' xs ys) (h' : NodesAgree scope' scope'' ys zs) :
    NodesAgree scope scope'' xs zs := by
  induction h generalizing scope'' zs with
  | nil =>
    cases h'
    exact .nil
  | text s _ ih =>
    cases h' with
    | text _ rest => exact .text s (ih rest)
  | element tag _ _ ihi ih =>
    cases h' with
    | element tag' inner' rest' => exact .element (tag.trans tag') (ihi inner') (ih rest')

lemma of_lookup (h : ∀ p ∈ freePrefixes xs, scope.lookup p = scope'.lookup p) : NodesAgree scope scope' xs xs := by
  induction xs using nodes_induction generalizing scope scope' with
  | nil => exact .nil
  | text s ns ih =>
    apply NodesAgree.text
    apply ih
    rwa [freePrefixes, Node.freePrefixes, List.nil_append] at h
  | element name attributes children ns ihc ih =>
    rw [freePrefixes, List.forall_mem_append] at h
    obtain ⟨hu, hc⟩ := List.forall_mem_append.mp (lookup_declare_free h.1)
    exact .element ⟨List.Perm.refl _, hu⟩ (ihc hc) (ih h.2)

lemma refl (scope : Scope) (xs : List Node) : NodesAgree scope scope xs xs :=
  of_lookup fun _ _ => rfl

lemma append {zs ws : List Node} (h : NodesAgree scope scope' xs ys) (h' : NodesAgree scope scope' zs ws) :
    NodesAgree scope scope' (xs ++ zs) (ys ++ ws) := by
  induction h with
  | nil => exact h'
  | text s _ ih => exact .text s (ih h')
  | element tag inner _ _ ih => exact .element tag inner (ih h')

lemma joinText (h : NodesAgree scope scope' xs ys) (s : String) :
    NodesAgree scope scope' (joinText s xs) (joinText s ys) := by
  by_cases hs : s = ""
  · rw [hs, joinText_empty, joinText_empty]
    exact h
  · cases h with
    | nil =>
      rw [joinText_apart hs rfl]
      exact .text s .nil
    | text t rest => exact .text (s ++ t) rest
    | element tag inner rest =>
      rw [joinText_apart hs rfl, joinText_apart hs rfl]
      exact .text s (.element tag inner rest)

lemma merged (h : NodesAgree scope scope' xs ys) : NodesAgree scope scope' (mergedNodes xs) (mergedNodes ys) := by
  induction h with
  | nil => exact .nil
  | text s _ ih => exact ih.joinText s
  | element tag _ _ ihi ih => exact .element tag ihi ih

lemma eraseP (h : NodesAgree scope scope' xs ys) (name : String) :
    NodesAgree scope scope' (xs.eraseP (Node.isNamed name)) (ys.eraseP (Node.isNamed name)) := by
  induction h with
  | nil => exact .nil
  | text s _ ih => exact .text s ih
  | @element _ _ tagName as bs cs ds xs ys tag inner rest _ ih =>
    rw [eraseP_element, eraseP_element]
    split
    · exact rest
    · exact .element tag inner ih

lemma find (h : NodesAgree scope scope' xs ys) (name : String) :
    Option.Rel (fun c d => NodesAgree scope scope' [c.toNode] [d.toNode])
      ((xs.filterMap Node.element?).find? fun c => c.localName == name)
      ((ys.filterMap Node.element?).find? fun c => c.localName == name) := by
  induction h with
  | nil => exact .none
  | text s _ ih => exact ih
  | @element _ _ tagName as bs cs ds xs ys tag inner _ _ ih =>
    have hl : ∀ attributes children, Element.localName ⟨tagName, attributes, children⟩ = localPart tagName :=
      fun _ _ => rfl
    rw [elements_element, elements_element, List.find?_cons, List.find?_cons, hl, hl]
    split
    · exact .some (.element tag inner .nil)
    · exact ih

lemma directText (h : NodesAgree scope scope' xs ys) :
    String.join (xs.map Node.directText) = String.join (ys.map Node.directText) := by
  induction h with
  | nil => rfl
  | text s _ ih => rw [List.map_cons, List.map_cons, String.join_cons, String.join_cons, ih]
  | element _ _ _ _ ih =>
    rw [List.map_cons, List.map_cons, String.join_cons, String.join_cons, ih]
    rfl

theorem canonicalTrees (h : NodesAgree scope scope' xs ys) (hd : keysApart scope xs = true) (rendered : Scope) :
    canonicalTrees scope rendered xs = canonicalTrees scope' rendered ys := by
  induction h generalizing rendered with
  | nil => rfl
  | text s _ ih => rw [Xml.canonicalTrees, Xml.canonicalTrees, ih hd]; rfl
  | @element scope scope' name as bs cs ds xs ys tag _ _ ihi ih =>
    simp only [keysApart, Node.keysApart, Bool.and_eq_true] at hd
    have ho : declarationsOf scope rendered name as = declarationsOf scope' rendered name bs := by
      rw [declarationsOf, declarationsOf, ← usedPrefixes_perm name tag.plain]
      exact neededDeclarations_congr _ rendered tag.bound
    have hs : sortAttributes (scope.declare as) (plainAttributes as) =
        sortAttributes (scope'.declare bs) (plainAttributes bs) := by
      rw [sortAttributes_of_perm tag.plain (areKeysApart_iff.mp hd.1.1)]
      apply sortAttributes_congr
      intro a ha
      exact sortKey_congr tag.bound (tag.plain.mem_iff.mpr ha)
    simp only [Xml.canonicalTrees, canonicalTree, canonicalAttributes, ho, hs]
    rw [ihi hd.1.2, ih hd.2]

end NodesAgree

end Equivalence

lemma merged_eraseP_joinText (name s : String) (ns : List Node) :
    mergedNodes ((joinText s ns).eraseP (Node.isNamed name)) =
      joinText s (mergedNodes (ns.eraseP (Node.isNamed name))) := by
  by_cases hs : s = ""
  · rw [hs, joinText_empty, joinText_empty]
  · cases ns with
    | nil =>
      rw [joinText_apart hs rfl]
      rfl
    | cons n ns =>
      cases n with
      | text t =>
        rw [joinText, eraseP_text, eraseP_text, mergedNodes, mergedNodes]
        exact (joinText_joinText s t _).symm
      | element tag attributes children =>
        rw [joinText_apart hs rfl, eraseP_text]
        rfl

lemma merged_eraseP (name : String) (ns : List Node) :
    mergedNodes ((mergedNodes ns).eraseP (Node.isNamed name)) = mergedNodes (ns.eraseP (Node.isNamed name)) := by
  induction ns using nodes_induction with
  | nil => rfl
  | text s ns ih =>
    rw [eraseP_text, mergedNodes, mergedNodes, ← ih]
    exact merged_eraseP_joinText name s _
  | element tag attributes children ns _ ih =>
    rw [mergedNodes, Node.merged, Node.joinedTo, eraseP_element, eraseP_element]
    split
    · exact merged_twice ns
    · rw [mergedNodes, mergedNodes, ih, Node.merged, Node.merged, merged_twice]

namespace Element

def Agrees (scope scope' : Scope) (e f : Element) : Prop :=
  NodesAgree scope scope' (mergedNodes [e.toNode]) (mergedNodes [f.toNode])

def HasKeysApart (scope : Scope) (e : Element) : Prop :=
  e.toNode.keysApart scope = true

instance (scope : Scope) (e : Element) : Decidable (e.HasKeysApart scope) :=
  inferInstanceAs (Decidable (_ = true))

variable {scope scope' : Scope} {e f : Element}

lemma agrees_iff : e.Agrees scope scope' f ↔ e.name = f.name ∧
    TagsAgree scope scope' e.name e.attributes f.attributes ∧
    NodesAgree (scope.declare e.attributes) (scope'.declare f.attributes) (mergedNodes e.children)
      (mergedNodes f.children) := by
  obtain ⟨name, as, cs⟩ := e
  obtain ⟨name', bs, ds⟩ := f
  constructor
  · intro h
    cases h with
    | element tag inner _ => exact ⟨rfl, tag, inner⟩
  · rintro ⟨rfl, tag, inner⟩
    exact .element tag inner .nil

lemma hasKeysApart_iff : e.HasKeysApart scope ↔
    areKeysApart scope e.attributes = true ∧ keysApart (scope.declare e.attributes) e.children = true := by
  rw [HasKeysApart, toNode, Node.keysApart, Bool.and_eq_true]

lemma HasKeysApart.merged (h : e.HasKeysApart scope) : e.merged.HasKeysApart scope := by
  rw [hasKeysApart_iff] at h ⊢
  refine ⟨h.1, ?_⟩
  rw [Element.merged, keysApart_merged]
  exact h.2

lemma Agrees.attribute (h : e.Agrees scope scope' f) (hd : e.HasKeysApart scope) {key : String}
    (hk : declaredPrefix? key = none) : e.attribute? key = f.attribute? key := by
  obtain ⟨_, tag, _⟩ := agrees_iff.mp h
  rw [attribute?, attribute?, ← lookup_plainAttributes hk, ← lookup_plainAttributes hk f.attributes]
  exact lookup_perm tag.plain (plain_nodup_of_keysApart (hasKeysApart_iff.mp hd).1) key

lemma Agrees.textContent (h : e.Agrees scope scope' f) : e.textContent = f.textContent := by
  rw [← textContent_merged e, ← textContent_merged f]
  exact (agrees_iff.mp h).2.2.directText

lemma Agrees.removeChild (h : e.Agrees scope scope' f) (name : String) :
    (e.removeChild name).Agrees scope scope' (f.removeChild name) := by
  obtain ⟨hn, tag, inner⟩ := agrees_iff.mp h
  have hc := (inner.eraseP name).merged
  rw [merged_eraseP, merged_eraseP] at hc
  exact agrees_iff.mpr ⟨hn, tag, hc⟩

lemma Agrees.find (h : e.Agrees scope scope' f) (name : String) :
    Option.Rel (fun c d => c.Agrees (scope.declare e.attributes) (scope'.declare f.attributes) d)
      (e.find? name) (f.find? name) := by
  have hr := (agrees_iff.mp h).2.2.find name
  change Option.Rel _ (e.merged.find? name) (f.merged.find? name) at hr
  rw [find_merged, find_merged] at hr
  cases he : e.find? name <;> cases hf : f.find? name <;> rw [he, hf] at hr <;> cases hr
  · exact .none
  · rename_i c d hr
    exact .some hr

lemma HasKeysApart.insertChild {c : Element} (h : e.HasKeysApart scope)
    (hc : c.HasKeysApart (scope.declare e.attributes)) (position : Nat) :
    (e.insertChild position c).HasKeysApart scope := by
  rw [hasKeysApart_iff] at h ⊢
  refine ⟨h.1, ?_⟩
  rw [keysApart_iff] at h ⊢
  intro n hn
  rcases List.mem_append.mp hn with hb | hn
  · exact h.2 n (List.mem_of_mem_take hb)
  · rcases List.mem_cons.mp hn with rfl | ha
    · exact hc
    · exact h.2 n (List.mem_of_mem_drop ha)

lemma HasKeysApart.removeChild (h : e.HasKeysApart scope) (name : String) :
    (e.removeChild name).HasKeysApart scope := by
  rw [hasKeysApart_iff] at h ⊢
  refine ⟨h.1, ?_⟩
  rw [keysApart_iff] at h ⊢
  intro n hn
  exact h.2 n (List.mem_of_mem_eraseP hn)

lemma HasKeysApart.find (h : e.HasKeysApart scope) {name : String} {c : Element} (hc : e.find? name = some c) :
    c.HasKeysApart (scope.declare e.attributes) :=
  keysApart_iff.mp (hasKeysApart_iff.mp h).2 _ (mem_children_of_find hc)

theorem Agrees.canonicalizeIn {inherited inherited' : List Attribute}
    (h : e.Agrees (Scope.declare [] inherited) (Scope.declare [] inherited') f)
    (hd : e.HasKeysApart (Scope.declare [] inherited)) (he : e.IsWritable) (hf : f.IsWritable) :
    e.canonicalizeIn inherited = f.canonicalizeIn inherited' := by
  have hk : keysApart (Scope.declare [] inherited) (mergedNodes [e.toNode]) = true := by
    rw [keysApart_merged, keysApart, keysApart, Bool.and_true]
    exact hd
  have ht := NodesAgree.canonicalTrees h hk []
  have ht' : (e.merged.canonicalElement (Scope.declare [] inherited) []).toNode =
      (f.merged.canonicalElement (Scope.declare [] inherited') []).toNode := (List.cons.inj ht).1
  rw [← canonicalizeIn_merged e, ← canonicalizeIn_merged f, canonicalizeIn_ok_iff.mpr ⟨he.merged, rfl⟩,
    canonicalizeIn_ok_iff.mpr ⟨hf.merged, rfl⟩, ht']

lemma Agrees.canonicalize (h : e.Agrees [] [] f) (hd : e.HasKeysApart []) (he : e.IsWritable) (hf : f.IsWritable) :
    e.canonicalize = f.canonicalize := by
  have h' : e.Agrees (Scope.declare [] []) (Scope.declare [] []) f := h
  exact h'.canonicalizeIn hd he hf

end Element

end IdentityProvider.Xml
