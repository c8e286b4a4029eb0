import Mathlib.Data.List.Nodup
import IdentityProvider.Proofs.Xml.ReadBack
/-! The canonical form as the markup of another tree, which has the declarations and the order of attributes
that the form asks for. -/

namespace IdentityProvider.Xml

def declarationKey (p : String) : String :=
  if p = "" then "xmlns" else "xmlns:" ++ p

def declarationAttribute (d : String × String) : Attribute :=
  (declarationKey d.1, d.2)

@[simp] lemma declaredPrefix_declarationKey (p : String) : declaredPrefix? (declarationKey p) = some p := by
  by_cases hp : p = ""
  · simp [declarationKey, declaredPrefix?, hp]
  · have hk : "xmlns:" ++ p ≠ "xmlns" := by
      intro h
      have hl := congrArg (fun s => s.toList.length) h
      simp at hl
    have hd : ("xmlns:" ++ p).toList = ['x', 'm', 'l', 'n', 's', ':'] ++ p.toList := by simp
    simp only [declarationKey, hp, if_false, declaredPrefix?, hk, hd]
    simp

lemma declarationKey_injective {p q : String} (h : declarationKey p = declarationKey q) : p = q := by
  have hd := congrArg declaredPrefix? h
  simpa using hd

lemma canonicalDeclaration_eq :
    canonicalDeclaration = fun d => renderAttribute canonicalEscapes (declarationAttribute d) := by
  funext d
  by_cases hp : d.1 = "" <;>
    simp [canonicalDeclaration, renderAttribute, declarationAttribute, declarationKey, hp, canonicalEscapes]

lemma canonicalAttribute_eq : canonicalAttribute = renderAttribute canonicalEscapes := rfl

lemma declare_append (scope : Scope) (xs ys : List Attribute) :
    scope.declare (xs ++ ys) = (scope.declare xs).declare ys := by
  simp [Scope.declare]

lemma declare_declarations (scope : Scope) (ds : List (String × String)) :
    scope.declare (ds.map declarationAttribute) = ds.reverse ++ scope := by
  induction ds generalizing scope with
  | nil => rfl
  | cons d ds ih =>
    have hd : scope.declare [declarationAttribute d] = d :: scope := by
      simp [Scope.declare, declarationAttribute]
    rw [List.map_cons, ← List.singleton_append, declare_append, hd, ih]
    simp

lemma declare_plain (scope : Scope) {attributes : List Attribute}
    (h : ∀ a ∈ attributes, declaredPrefix? a.1 = none) : scope.declare attributes = scope := by
  induction attributes generalizing scope with
  | nil => rfl
  | cons a attributes ih =>
    have ha : scope.declare [a] = scope := by simp [Scope.declare, h a (by simp)]
    rw [← List.singleton_append, declare_append, ha, ih scope fun b hb => h b (by simp [hb])]

lemma mem_plainAttributes {a : Attribute} {attributes : List Attribute} :
    a ∈ plainAttributes attributes ↔ a ∈ attributes ∧ declaredPrefix? a.1 = none := by
  simp [plainAttributes]

lemma sortKeyLe_iff {a b : String × String} : sortKeyLe a b = true ↔ a.1 < b.1 ∨ a.1 = b.1 ∧ a.2 ≤ b.2 := by
  simp only [sortKeyLe, Bool.or_eq_true, Bool.and_eq_true, decide_eq_true_eq, beq_iff_eq, Bool.not_eq_true',
    decide_eq_false_iff_not, String.not_lt]

lemma sortKeyLe_trans (a b c : String × String) (hab : sortKeyLe a b = true) (hbc : sortKeyLe b c = true) :
    sortKeyLe a c = true := by
  rw [sortKeyLe_iff] at hab hbc ⊢
  rcases hab with hab | ⟨hab, hab'⟩ <;> rcases hbc with hbc | ⟨hbc, hbc'⟩
  · exact Or.inl (String.lt_trans hab hbc)
  · exact Or.inl (hbc ▸ hab)
  · exact Or.inl (hab ▸ hbc)
  · exact Or.inr ⟨hab.trans hbc, String.le_trans hab' hbc'⟩

lemma sortKeyLe_total (a b : String × String) : (sortKeyLe a b || sortKeyLe b a) = true := by
  rw [Bool.or_eq_true, sortKeyLe_iff, sortKeyLe_iff]
  by_cases hab : a.1 < b.1
  · exact Or.inl (Or.inl hab)
  · by_cases hba : b.1 < a.1
    · exact Or.inr (Or.inl hba)
    · have he : a.1 = b.1 := String.le_antisymm hba hab
      rcases String.le_total a.2 b.2 with h | h
      · exact Or.inl (Or.inr ⟨he, h⟩)
      · exact Or.inr (Or.inr ⟨he.symm, h⟩)

lemma sortAttributes_perm (scope : Scope) (attributes : List Attribute) :
    (sortAttributes scope attributes).Perm attributes :=
  List.mergeSort_perm _ _

lemma mem_sortAttributes {scope : Scope} {attributes : List Attribute} {a : Attribute} :
    a ∈ sortAttributes scope attributes ↔ a ∈ attributes :=
  (sortAttributes_perm scope attributes).mem_iff

lemma sortKeyLe_antisymm {a b : String × String} (hab : sortKeyLe a b = true) (hba : sortKeyLe b a = true) :
    a = b := by
  rw [sortKeyLe_iff] at hab hba
  rcases hab with hab | ⟨he, hab⟩ <;> rcases hba with hba | ⟨he', hba⟩
  · exact absurd hba (String.lt_asymm hab)
  · exact absurd hab (he' ▸ String.lt_irrefl _)
  · exact absurd hba (he ▸ String.lt_irrefl _)
  · exact Prod.ext he (String.le_antisymm hab hba)

lemma sortAttributes_pairwise (scope : Scope) (attributes : List Attribute) :
    (sortAttributes scope attributes).Pairwise fun a b => sortKeyLe (sortKey scope a.1)
    (sortKey scope b.1) = true := by
  apply List.pairwise_mergeSort
  · exact fun a b c => sortKeyLe_trans _ _ _
  · exact fun a b => sortKeyLe_total _ _

lemma sortAttributes_sorted {scope scope' : Scope} {attributes : List Attribute}
    (h : ∀ a ∈ attributes, sortKey scope' a.1 = sortKey scope a.1) :
    sortAttributes scope' (sortAttributes scope attributes) = sortAttributes scope attributes := by
  apply List.mergeSort_of_pairwise
  refine List.Pairwise.imp_of_mem ?_ (sortAttributes_pairwise scope attributes)
  intro a b ha hb hab
  rw [h a (mem_sortAttributes.mp ha), h b (mem_sortAttributes.mp hb)]
  exact hab

lemma sortAttributes_of_perm {scope : Scope} {xs ys : List Attribute} (h : xs.Perm ys)
    (hn : (xs.map fun a => sortKey scope a.1).Nodup) : sortAttributes scope xs = sortAttributes scope ys := by
  have hp : (sortAttributes scope xs).Perm (sortAttributes scope ys) :=
    (sortAttributes_perm scope xs).trans (h.trans (sortAttributes_perm scope ys).symm)
  refine hp.eq_of_pairwise ?_ (sortAttributes_pairwise scope xs) (sortAttributes_pairwise scope ys)
  intro a b ha hb hab hba
  have ha' := mem_sortAttributes.mp ha
  have hb' := h.mem_iff.mpr (mem_sortAttributes.mp hb)
  exact List.inj_on_of_nodup_map hn ha' hb' (sortKeyLe_antisymm hab hba)

lemma eraseDups_nodup (ps : List String) : ps.eraseDups.Nodup := by
  induction hn : ps.length using Nat.strongRecOn generalizing ps with
  | _ n ih =>
    cases ps with
    | nil => simp
    | cons p ps =>
      rw [List.eraseDups_cons, List.nodup_cons, List.mem_eraseDups]
      refine ⟨by simp, ih _ ?_ _ rfl⟩
      have hl := List.length_filter_le (fun b => !b == p) ps
      simp only [List.length_cons] at hn
      omega

lemma mem_usedPrefixes {p name : String} {attributes : List Attribute} :
    p ∈ usedPrefixes name attributes ↔
      p ≠ "xml" ∧ (p = (qualifier? name).getD "" ∨ ∃ a ∈ attributes, qualifier? a.1 = some p) := by
  simp only [usedPrefixes, List.mem_mergeSort, List.mem_eraseDups, List.mem_filter, List.mem_cons,
    List.mem_filterMap, bne_iff_ne]
  tauto

lemma usedPrefixes_nodup (name : String) (attributes : List Attribute) : (usedPrefixes name attributes).Nodup :=
  (List.mergeSort_perm _ _).nodup_iff.mpr (eraseDups_nodup _)

lemma usedPrefixes_sorted (name : String) (attributes : List Attribute) :
    (usedPrefixes name attributes).Pairwise (· ≤ ·) := by
  have hle : ∀ a b : String, (!decide (b < a)) = true ↔ a ≤ b := by
    intro a b
    rw [Bool.not_eq_true', decide_eq_false_iff_not, String.not_lt]
  have hs : (usedPrefixes name attributes).Pairwise fun a b => (!decide (b < a)) = true := by
    apply List.pairwise_mergeSort
    · intro a b c hab hbc
      exact (hle a c).mpr (String.le_trans ((hle a b).mp hab) ((hle b c).mp hbc))
    · intro a b
      rw [Bool.or_eq_true, hle, hle]
      exact String.le_total a b
  exact hs.imp fun hab => (hle _ _).mp hab

lemma usedPrefixes_perm (name : String) {xs ys : List Attribute} (h : xs.Perm ys) :
    usedPrefixes name xs = usedPrefixes name ys := by
  have hp : (usedPrefixes name xs).Perm (usedPrefixes name ys) := by
    rw [List.perm_ext_iff_of_nodup (usedPrefixes_nodup _ _) (usedPrefixes_nodup _ _)]
    intro p
    simp [mem_usedPrefixes, h.mem_iff]
  exact hp.eq_of_pairwise (fun _ _ _ _ => String.le_antisymm) (usedPrefixes_sorted _ _) (usedPrefixes_sorted _ _)

def declarationsOf (scope rendered : Scope) (name : String) (attributes : List Attribute) :
    List (String × String) :=
  neededDeclarations (scope.declare attributes) rendered (usedPrefixes name (plainAttributes attributes))

def canonicalAttributes (scope rendered : Scope) (name : String) (attributes : List Attribute) : List Attribute :=
  (declarationsOf scope rendered name attributes).map declarationAttribute ++
    sortAttributes (scope.declare attributes) (plainAttributes attributes)

mutual

def canonicalTree (scope rendered : Scope) : Node → Node
  | .element name attributes children =>
    .element name (canonicalAttributes scope rendered name attributes)
      (canonicalTrees (scope.declare attributes)
        ((declarationsOf scope rendered name attributes).reverse ++ rendered) children)
  | .text s => .text s

def canonicalTrees (scope rendered : Scope) : List Node → List Node
  | [] => []
  | n :: ns => canonicalTree scope rendered n :: canonicalTrees scope rendered ns

end

def Element.canonicalElement (e : Element) (scope rendered : Scope) : Element where
  name := e.name
  attributes := canonicalAttributes scope rendered e.name e.attributes
  children :=
    canonicalTrees (scope.declare e.attributes)
      ((declarationsOf scope rendered e.name e.attributes).reverse ++ rendered) e.children

lemma canonicalElement_toNode (e : Element) (scope rendered : Scope) :
    (e.canonicalElement scope rendered).toNode = canonicalTree scope rendered e.toNode := rfl

lemma canonicalNodes_eq (scope rendered : Scope) (ns : List Node) :
    canonicalNodes scope rendered ns =
      (checkNodes ns).map fun _ => renderNodes canonicalEscapes (canonicalTrees scope rendered ns) := by
  induction ns using nodes_induction generalizing scope rendered with
  | nil => rfl
  | text s ns ih =>
    simp only [canonicalNodes, canonicalNode, checkNodes, checkNode, ih]
    cases checkChars s.toList with
    | error f => rfl
    | ok u => cases checkNodes ns <;> rfl
  | element name attributes children ns ihc ih =>
    simp only [canonicalNodes, canonicalNode, checkNodes, checkNode, ihc, ih]
    cases checkChars name.toList with
    | error f => rfl
    | ok u =>
      cases checkAttributes attributes with
      | error f => rfl
      | ok v =>
        cases checkNodes children with
        | error f => rfl
        | ok w =>
          cases checkNodes ns with
          | error f => rfl
          | ok x =>
            simp [bind, Except.bind, pure, Except.pure, Except.map, canonicalTrees, canonicalTree,
              canonicalAttributes, declarationsOf, renderNodes, renderNode, List.flatMap_map,
              canonicalDeclaration_eq,
              canonicalAttribute_eq]

lemma canonicalNode_eq (scope rendered : Scope) (n : Node) :
    canonicalNode scope rendered n =
      (checkNode n).map fun _ => renderNode canonicalEscapes (canonicalTree scope rendered n) := by
  have h := canonicalNodes_eq scope rendered [n]
  simp only [canonicalNodes, canonicalTrees, checkNodes, renderNodes, List.append_nil] at h
  cases hw : canonicalNode scope rendered n <;> cases hc : checkNode n <;>
    simp_all [bind, Except.bind, pure, Except.pure, Except.map]

lemma canonicalizeIn_ok_iff {e : Element} {inherited : List Attribute} {written : String} :
    e.canonicalizeIn inherited = .ok written ↔ e.IsWritable ∧
      written = String.ofList (renderNode canonicalEscapes
        (e.canonicalElement (Scope.declare [] inherited) []).toNode) := by
  rw [Element.canonicalizeIn, canonicalNode_eq, ← checkNode_ok_iff, canonicalElement_toNode]
  cases checkNode e.toNode <;> simp [bind, Except.bind, pure, Except.pure, Except.map, eq_comm]

lemma canonicalize_ok_iff {e : Element} {written : String} :
    e.canonicalize = .ok written ↔ e.IsWritable ∧
      written = String.ofList (renderNode canonicalEscapes (e.canonicalElement [] []).toNode) :=
  canonicalizeIn_ok_iff

lemma canonicalTrees_joinText (scope rendered : Scope) (s : String) (ns : List Node) :
    canonicalTrees scope rendered (joinText s ns) = joinText s (canonicalTrees scope rendered ns) := by
  by_cases hs : s = ""
  · simp [hs]
  · cases ns with
    | nil => simp [joinText, hs, canonicalTrees, canonicalTree]
    | cons n ns => cases n <;> simp [joinText, hs, canonicalTrees, canonicalTree]

lemma canonicalTrees_merged (scope rendered : Scope) (ns : List Node) :
    canonicalTrees scope rendered (mergedNodes ns) = mergedNodes (canonicalTrees scope rendered ns) := by
  induction ns using nodes_induction generalizing scope rendered with
  | nil => rfl
  | text s ns ih =>
    simp [mergedNodes, Node.merged, Node.joinedTo, canonicalTrees_joinText, canonicalTrees, canonicalTree, ih]
  | element name attributes children ns ihc ih =>
    simp [mergedNodes, Node.merged, Node.joinedTo, canonicalTrees, canonicalTree, ihc, ih]

lemma canonicalElement_merged (e : Element) (scope rendered : Scope) :
    e.merged.canonicalElement scope rendered = (e.canonicalElement scope rendered).merged := by
  simp [Element.canonicalElement, Element.merged, canonicalTrees_merged]

lemma canonicalizeIn_merged (e : Element) (inherited : List Attribute) :
    e.merged.canonicalizeIn inherited = e.canonicalizeIn inherited := by
  have hc : checkNode e.merged.toNode = checkNode e.toNode := by
    simp [Element.toNode, Element.merged, checkNode, checkNodes_merged]
  rw [Element.canonicalizeIn, Element.canonicalizeIn, canonicalNode_eq, canonicalNode_eq, hc,
    ← canonicalElement_toNode, ← canonicalElement_toNode, canonicalElement_merged, renderNode_merged]

end IdentityProvider.Xml
