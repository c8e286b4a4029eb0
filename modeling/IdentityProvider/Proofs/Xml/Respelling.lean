import Mathlib.Logic.Relation
import IdentityProvider.Proofs.Xml.Agreement
/-! Steps that spell a tree differently: in the order of attributes, in declarations that are not needed, and in
how texts are split. However many are taken, the canonical form stays. -/

namespace IdentityProvider.Xml

lemma declarationKey_of_declaredPrefix {key p : String} (hk : isQName key = true)
    (h : declaredPrefix? key = some p) :
    key = declarationKey p := by
  rw [declaredPrefix?] at h
  split_ifs at h with hx hd
  · rw [Option.some.injEq] at h
    rw [hx, ← h]
    rfl
  · rw [Option.some.injEq] at h
    obtain ⟨rest, hrest⟩ := List.isPrefixOf_iff_prefix.mp hd
    have hp : p = String.ofList rest := by
      rw [← h, ← hrest]
      rfl
    have hne : p ≠ "" := by
      rintro he
      have hnil : rest = [] := by simpa [hp] using he
      have hkey : key = "xmlns:" := by
        rw [← String.toList_inj, ← hrest, hnil]
        rfl
      rw [hkey] at hk
      exact absurd hk (by decide)
    rw [declarationKey, if_neg hne, hp, ← String.toList_inj, ← hrest]
    simp

lemma declaredIn_nodup {name : String} {attributes : List Attribute} (h : isNamedTag name attributes = true) :
    ((declaredIn attributes).map Prod.fst).Nodup := by
  obtain ⟨_, hq, hn⟩ := namedTag_iff.mp h
  have hs : ((declaredIn attributes).map fun d => declarationKey d.1).Sublist (attributes.map Prod.fst) := by
    clear h hn
    induction attributes with
    | nil => exact List.Sublist.slnil
    | cons a attributes ih =>
      rw [List.forall_mem_cons] at hq
      rw [declaredIn, List.filterMap_cons, List.map_cons]
      cases hd : declaredPrefix? a.1 with
      | none => exact (ih hq.2).cons _
      | some p =>
        rw [declarationKey_of_declaredPrefix hq.1 hd]
        exact (ih hq.2).cons_cons _
  have hk : ((declaredIn attributes).map fun d => declarationKey d.1) =
      ((declaredIn attributes).map Prod.fst).map declarationKey := by
    rw [List.map_map]
    rfl
  have hkeys := hn.sublist hs
  rw [hk] at hkeys
  exact hkeys.of_map _

lemma lookup_declare_perm {xs ys : List Attribute} (h : xs.Perm ys) (hn : ((declaredIn xs).map Prod.fst).Nodup)
    (scope : Scope) (p : String) : (scope.declare xs).lookup p = (scope.declare ys).lookup p := by
  have hp : (declaredIn xs).reverse.Perm (declaredIn ys).reverse :=
    (List.reverse_perm _).trans ((h.filterMap _).trans (List.reverse_perm _).symm)
  have hr : ((declaredIn xs).reverse.map Prod.fst).Nodup := by
    rw [List.map_reverse, List.nodup_reverse]
    exact hn
  rw [declare_eq, declare_eq, List.lookup_append, List.lookup_append, lookup_perm hp hr]

def Element.declare (e : Element) (d : String × String) : Element :=
  { e with attributes := e.attributes ++ [declarationAttribute d] }

/-- A declaration that an element may be given: of a prefix that it does not declare, and that either nothing in
its reach uses or that stands for the same around the element. -/
structure Element.IsSpare (scope : Scope) (e : Element) (d : String × String) : Prop where
  fresh : ∀ a ∈ e.attributes, declaredPrefix? a.1 ≠ some d.1
  isName : isQName (declarationKey d.1) = true
  isXml : isXmlText d.2 = true
  spare : d.1 ∉ e.toNode.freePrefixes ∨ scope.lookup d.1 = some d.2

inductive Respelling : Scope → Element → Element → Prop
  | permute {scope : Scope} {name : String} {xs ys : List Attribute} {children : List Node} (h : xs.Perm ys) :
    Respelling scope ⟨name, xs, children⟩ ⟨name, ys, children⟩
  | declare {scope : Scope} {e : Element} {d : String × String} (h : e.IsSpare scope d) :
    Respelling scope e (e.declare d)
  | split {scope : Scope} {name : String} {attributes : List Attribute} (before after : List Node) (s t : String) :
    Respelling scope ⟨name, attributes, before ++ .text (s ++ t) :: after⟩
      ⟨name, attributes, before ++ .text s :: .text t :: after⟩
  | empty {scope : Scope} {name : String} {attributes : List Attribute} (before after : List Node) :
    Respelling scope ⟨name, attributes, before ++ after⟩ ⟨name, attributes, before ++ .text "" :: after⟩
  | inside {scope : Scope} {name : String} {attributes : List Attribute} (before after : List Node) {c d : Element}
    (h : Respelling (scope.declare attributes) c d) :
    Respelling scope ⟨name, attributes, before ++ c.toNode :: after⟩ ⟨name, attributes,
      before ++ d.toNode :: after⟩

def Respelled : Element → Element → Prop :=
  Relation.EqvGen (Respelling [])

section Tests

variable {tag : String → List Attribute → Bool} {content : String → Bool}

lemma Respelling.all_eq {scope : Scope} {e f : Element}
    (hp : ∀ (name : String) (xs ys : List Attribute), xs.Perm ys → tag name xs = tag name ys)
    (hd : ∀ (scope : Scope) (e : Element) (d : String × String), e.IsSpare scope d →
      tag e.name (e.declare d).attributes = tag e.name e.attributes)
    (he : content "" = true) (ha : ∀ s t, content (s ++ t) = (content s && content t)) (h : Respelling scope e f) :
    e.toNode.all tag content = f.toNode.all tag content := by
  induction h with
  | permute h => rw [all_toNode, all_toNode, hp _ _ _ h]
  | @declare scope e d h => rw [all_toNode, all_toNode, ← hd scope e d h]; rfl
  | split before after s t =>
    simp only [all_toNode, allNodes_append, allNodes, Node.all, ha, Bool.and_assoc]
  | empty before after => simp only [all_toNode, allNodes_append, allNodes, Node.all, he, Bool.true_and]
  | inside before after _ ih => simp only [all_toNode, allNodes_append, allNodes] at ih ⊢; rw [ih]

lemma Respelled.all_iff {e f : Element}
    (hp : ∀ (name : String) (xs ys : List Attribute), xs.Perm ys → tag name xs = tag name ys)
    (hd : ∀ (scope : Scope) (e : Element) (d : String × String), e.IsSpare scope d →
      tag e.name (e.declare d).attributes = tag e.name e.attributes)
    (he : content "" = true) (ha : ∀ s t, content (s ++ t) = (content s && content t)) (h : Respelled e f) :
    e.toNode.all tag content = true ↔ f.toNode.all tag content = true := by
  induction h with
  | rel _ _ h => rw [h.all_eq hp hd he ha]
  | refl _ => rfl
  | symm _ _ _ ih => exact ih.symm
  | trans _ _ _ _ _ ih ih' => exact ih.trans ih'

end Tests

lemma isNamedTag_perm (name : String) (xs ys : List Attribute) (h : xs.Perm ys) :
    isNamedTag name xs = isNamedTag name ys := by
  have hk := h.map Prod.fst
  rw [Bool.eq_iff_iff, namedTag_iff, namedTag_iff, hk.nodup_iff]
  simp only [h.mem_iff]

lemma isWritableTag_perm (name : String) (xs ys : List Attribute) (h : xs.Perm ys) :
    isWritableTag name xs = isWritableTag name ys := by
  rw [Bool.eq_iff_iff, isWritableTag_iff, isWritableTag_iff]
  simp only [h.mem_iff]

lemma isNamedTag_declare (scope : Scope) (e : Element) (d : String × String) (h : e.IsSpare scope d) :
    isNamedTag e.name (e.declare d).attributes = isNamedTag e.name e.attributes := by
  have hfresh : declarationKey d.1 ∉ e.attributes.map Prod.fst := by
    intro hm
    obtain ⟨a, ha, hk⟩ := List.mem_map.mp hm
    apply h.fresh a ha
    rw [hk, declaredPrefix_declarationKey]
  have hn : ((e.declare d).attributes.map Prod.fst).Nodup ↔ (e.attributes.map Prod.fst).Nodup := by
    rw [Element.declare, List.map_append, List.nodup_append_comm, List.map_singleton, List.singleton_append,
      List.nodup_cons]
    exact and_iff_right hfresh
  rw [Bool.eq_iff_iff, namedTag_iff, namedTag_iff, hn, Element.declare, List.forall_mem_append,
    List.forall_mem_singleton]
  exact and_congr_right fun _ => and_congr_left fun _ => and_iff_left h.isName

lemma isWritableTag_declare (scope : Scope) (e : Element) (d : String × String) (h : e.IsSpare scope d) :
    isWritableTag e.name (e.declare d).attributes = isWritableTag e.name e.attributes := by
  rw [Bool.eq_iff_iff, isWritableTag_iff, isWritableTag_iff, Element.declare, List.forall_mem_append,
    List.forall_mem_singleton]
  exact and_congr_right fun _ => and_iff_left ⟨qName_isXmlText h.isName, h.isXml⟩

lemma Respelled.isNamed_iff {e f : Element} (h : Respelled e f) : e.IsNamed ↔ f.IsNamed :=
  h.all_iff isNamedTag_perm isNamedTag_declare rfl fun _ _ => rfl

lemma Respelled.isWritable_iff {e f : Element} (h : Respelled e f) : e.IsWritable ↔ f.IsWritable :=
  h.all_iff isWritableTag_perm isWritableTag_declare rfl isXmlText_append

lemma plainAttributes_declare (e : Element) (d : String × String) :
    plainAttributes (e.declare d).attributes = plainAttributes e.attributes := by
  have hd : (declaredPrefix? (declarationAttribute d).1).isNone = false := by
    rw [declarationAttribute, declaredPrefix_declarationKey]
    rfl
  rw [Element.declare, plainAttributes, List.filter_append, List.filter_singleton, hd]
  exact List.append_nil _

lemma Element.IsSpare.lookup {scope : Scope} {e : Element} {d : String × String} (h : e.IsSpare scope d) :
    ∀ p ∈ usedPrefixes e.name (plainAttributes e.attributes) ++ freePrefixes e.children,
      (scope.declare e.attributes).lookup p = (scope.declare (e.declare d).attributes).lookup p := by
  intro p hp
  have hdeclare : scope.declare (e.declare d).attributes = d :: scope.declare e.attributes := by
    rw [Element.declare, declare_append]
    exact declare_declarations _ [d]
  have hfresh : ∀ v, (d.1, v) ∉ declaredIn e.attributes := by
    intro v hv
    obtain ⟨a, ha, hda, _⟩ := mem_declaredIn.mp hv
    exact h.fresh a ha hda
  rw [hdeclare, List.lookup_cons]
  by_cases hpd : p = d.1
  · subst hpd
    rw [beq_self_eq_true]
    rcases h.spare with hfree | hbound
    · -- It is used, so it would be free.
      apply absurd _ hfree
      rw [Element.toNode, Node.freePrefixes, List.mem_filter, Bool.not_eq_true', List.any_eq_false]
      refine ⟨hp, ?_⟩
      rintro ⟨q, v⟩ hq hqd
      exact hfresh v (beq_iff_eq.mp hqd ▸ hq)
    · have hnone : (declaredIn e.attributes).reverse.lookup d.1 = none := by
        apply lookup_eq_none_of_fst
        rw [List.map_reverse, List.mem_reverse, List.mem_map]
        rintro ⟨⟨q, v⟩, hq, rfl⟩
        exact hfresh v hq
      rw [declare_eq, List.lookup_append, hnone, Option.none_or, hbound]
  · rw [beq_false_of_ne hpd]

lemma agrees_of_merged {e f : Element} (scope : Scope) (h : e.merged = f.merged) : e.Agrees scope scope f := by
  have hm : mergedNodes [e.toNode] = mergedNodes [f.toNode] := by
    change [e.merged.toNode] = [f.merged.toNode]
    rw [h]
  rw [Element.Agrees, hm]
  exact NodesAgree.refl scope _

lemma merged_append_congr (xs : List Node) {ys zs : List Node} (h : mergedNodes ys = mergedNodes zs) :
    mergedNodes (xs ++ ys) = mergedNodes (xs ++ zs) := by
  rw [← merged_append_merged, h, merged_append_merged]

lemma Respelling.agrees {scope : Scope} {e f : Element} (h : Respelling scope e f) (hn : e.IsNamed) :
    e.Agrees scope scope f := by
  induction h with
  | @permute scope name xs ys children h =>
    rw [Element.IsNamed, all_toNode, Bool.and_eq_true] at hn
    have hl := lookup_declare_perm h (declaredIn_nodup hn.1) scope
    refine Element.agrees_iff.mpr ⟨rfl, ⟨h.filter _, fun p _ => hl p⟩, ?_⟩
    exact (NodesAgree.of_lookup fun p _ => hl p).merged
  | @declare scope e d h =>
    obtain ⟨hu, hc⟩ := List.forall_mem_append.mp h.lookup
    refine Element.agrees_iff.mpr ⟨rfl, ⟨?_, hu⟩, (NodesAgree.of_lookup hc).merged⟩
    rw [plainAttributes_declare]
  | split before after s t =>
    apply agrees_of_merged
    rw [Element.merged, Element.merged, Element.mk.injEq]
    refine ⟨rfl, rfl, merged_append_congr before ?_⟩
    exact (joinText_joinText s t _).symm
  | empty before after =>
    apply agrees_of_merged
    rw [Element.merged, Element.merged, Element.mk.injEq]
    refine ⟨rfl, rfl, merged_append_congr before ?_⟩
    exact (joinText_empty _).symm
  | @inside scope name attributes before after c d _ ih =>
    rw [Element.IsNamed, all_toNode, Bool.and_eq_true, allNodes_append, Bool.and_eq_true, allNodes,
      Bool.and_eq_true] at hn
    refine Element.agrees_iff.mpr ⟨rfl, ⟨List.Perm.refl _, fun _ _ => rfl⟩, ?_⟩
    rw [Element.toNode, Element.toNode, merged_append_element, merged_append_element]
    apply (NodesAgree.refl _ _).append
    exact NodesAgree.append (ih hn.2.2.1) (NodesAgree.refl _ _)

lemma Respelled.agrees {e f : Element} (h : Respelled e f) (hn : e.IsNamed) : e.Agrees [] [] f := by
  induction h with
  | rel _ _ h => exact h.agrees hn
  | refl e => exact NodesAgree.refl [] _
  | symm e f h ih => exact (ih (Respelled.isNamed_iff h |>.mpr hn)).symm
  | trans e f g h _ ih ih' => exact (ih hn).trans (ih' (Respelled.isNamed_iff h |>.mp hn))

theorem Respelled.canonicalize_iff {e f : Element} (h : Respelled e f) (hn : e.IsNamed) (hd : e.HasKeysApart [])
    {c : String} : f.canonicalize = .ok c ↔ e.canonicalize = .ok c := by
  have hsame : e.IsWritable → e.canonicalize = f.canonicalize := fun he =>
    (h.agrees hn).canonicalize hd he (h.isWritable_iff.mp he)
  constructor
  · intro hc
    exact (hsame (h.isWritable_iff.mpr (canonicalize_ok_iff.mp hc).1)).trans hc
  · intro hc
    exact (hsame (canonicalize_ok_iff.mp hc).1).symm.trans hc

end IdentityProvider.Xml
