import Mathlib.Data.Finset.Dedup
import IdentityProvider.Proofs.Xml.CanonicalForm
/-! What a tree says: its names with the namespaces that their prefixes stand for, the attributes of an element
as a set, and the texts however they are split. The canonical form keeps just that. -/

namespace IdentityProvider.Xml

def namespaceOf (scope : Scope) (p : String) : Option String :=
  if p = "xml" then some xmlNamespace
  else if (scope.lookup p).getD "" = "" then none
  else scope.lookup p

inductive Content where
  | element (name : String) (namespaceName : Option String)
      (attributes : Finset (String × Option String × String)) (children : List Content)
  | text (content : String)

def resolvedAttribute (scope : Scope) (a : Attribute) : String × Option String × String :=
  (a.1, (qualifier? a.1).bind (namespaceOf scope), a.2)

mutual

def Node.contentIn (scope : Scope) : Node → Content
  | .element name attributes children =>
    .element name (namespaceOf (scope.declare attributes) ((qualifier? name).getD ""))
      ((plainAttributes attributes).map (resolvedAttribute (scope.declare attributes))).toFinset
      (contentsIn (scope.declare attributes) children)
  | .text s => .text s

def contentsIn (scope : Scope) : List Node → List Content
  | [] => []
  | n :: ns => n.contentIn scope :: contentsIn scope ns

end

def Element.content (e : Element) : Content :=
  e.merged.toNode.contentIn []

structure Element.IsWellFormed (e : Element) : Prop where
  named : e.IsNamed
  bound : e.IsBound
  writable : e.IsWritable

lemma Consistent.namespaceOf_below {scope rendered : Scope} (h : Consistent scope rendered)
    {used : List String} (hu : used.Nodup) {p : String} (hp : p = "xml" ∨ p ∈ used) :
    namespaceOf (renderedBelow scope rendered used) p = namespaceOf scope p := by
  unfold namespaceOf
  by_cases hx : p = "xml"
  · rw [if_pos hx, if_pos hx]
  · have hm := hp.resolve_left hx
    rw [if_neg hx, if_neg hx]
    by_cases he : p = ""
    · subst he
      have hd : ((renderedBelow scope rendered used).lookup "").getD "" = (scope.lookup "").getD "" :=
        default_below hu hm
      rw [hd]
      by_cases hn : (scope.lookup "").getD "" = ""
      · rw [if_pos hn, if_pos hn]
      · rw [if_neg hn, if_neg hn]
        cases hl : scope.lookup "" <;> cases hl' : (renderedBelow scope rendered used).lookup "" <;>
          simp_all
    · rw [h.lookup_below hu he hm]

lemma Consistent.resolvedAttribute_below {scope rendered : Scope} (h : Consistent scope rendered)
    {name : String} {attributes : List Attribute} {a : Attribute} (ha : a ∈ attributes) :
    resolvedAttribute (renderedBelow scope rendered (usedPrefixes name attributes)) a =
      resolvedAttribute scope a := by
  unfold resolvedAttribute
  cases hq : qualifier? a.1 with
  | none => rfl
  | some p =>
    have hp : p = "xml" ∨ p ∈ usedPrefixes name attributes := by
      by_cases hx : p = "xml"
      · exact Or.inl hx
      · exact Or.inr (mem_usedPrefixes.mpr ⟨hx, Or.inr ⟨a, ha, hq⟩⟩)
    simp only [Option.bind_some, h.namespaceOf_below (usedPrefixes_nodup _ _) hp]

theorem contentsIn_canonicalTrees {scope rendered : Scope} (h : Consistent scope rendered) {ns : List Node}
    (hb : allNodes isBoundTag (fun _ => true) ns = true) :
    contentsIn rendered (canonicalTrees scope rendered ns) = contentsIn scope ns := by
  induction ns using nodes_induction generalizing scope rendered with
  | nil => rfl
  | text s ns ih =>
    simp only [allNodes, Node.all, Bool.and_eq_true] at hb
    simp only [canonicalTrees, canonicalTree, contentsIn, Node.contentIn, ih h hb.2]
  | element name attributes children ns ihc ih =>
    simp only [allNodes, Node.all, Bool.and_eq_true] at hb
    have hd := h.declare hb.1.1
    have hu := usedPrefixes_nodup name (plainAttributes attributes)
    have hname : namespaceOf (renderedBelow (scope.declare attributes) rendered
          (usedPrefixes name (plainAttributes attributes))) ((qualifier? name).getD "") =
        namespaceOf (scope.declare attributes) ((qualifier? name).getD "") := by
      apply hd.namespaceOf_below hu
      by_cases hx : (qualifier? name).getD "" = "xml"
      · exact Or.inl hx
      · exact Or.inr (mem_usedPrefixes.mpr ⟨hx, Or.inl rfl⟩)
    have hattributes : ((sortAttributes (scope.declare attributes) (plainAttributes attributes)).map
          (resolvedAttribute (renderedBelow (scope.declare attributes) rendered
            (usedPrefixes name (plainAttributes attributes))))).toFinset =
        ((plainAttributes attributes).map (resolvedAttribute (scope.declare attributes))).toFinset := by
      rw [List.toFinset_eq_of_perm _ _ ((sortAttributes_perm _ _).map _)]
      congr 1
      exact List.map_congr_left fun a ha => hd.resolvedAttribute_below ha
    have hc := ihc (hd.below hu) hb.1.2
    simp only [canonicalTrees, canonicalTree, contentsIn, Node.contentIn, declare_canonicalAttributes,
      plain_canonicalAttributes, hname, hattributes, ih h hb.2]
    exact congrArg (fun cs => Content.element name _ _ cs :: _) hc

lemma content_canonicalElement {e : Element} (hb : e.IsBound) :
    (e.canonicalElement [] []).content = e.content := by
  have hc := contentsIn_canonicalTrees consistent_nil (isBound_iff.mp hb.merged)
  simpa [Element.content, canonicalTrees, contentsIn, ← canonicalElement_toNode, canonicalElement_merged] using hc

lemma content_merged (e : Element) : e.merged.content = e.content := by
  rw [Element.content, Element.content, toNode_merged e.merged, toNode_merged, mergedNode_twice]

lemma content_eq_of_canonicalize {e f : Element} {c : String} (he : e.IsWellFormed) (hf : f.IsWellFormed)
    (hce : e.canonicalize = .ok c) (hcf : f.canonicalize = .ok c) : e.content = f.content := by
  have hm := parse_canonicalize he.named hce
  rw [parse_canonicalize hf.named hcf, Except.ok.injEq] at hm
  calc e.content = (e.canonicalElement [] []).merged.content := by
        rw [content_merged, content_canonicalElement he.bound]
    _ = (f.canonicalElement [] []).merged.content := by rw [hm]
    _ = f.content := by rw [content_merged, content_canonicalElement hf.bound]

/-- The canonical form reads back as a tree that says the same and has the same canonical form, so that trees
with one canonical form say the same. -/
theorem canonicalize_faithful {t : Element} (h : t.IsWellFormed) :
    ∃ c t', t.canonicalize = .ok c ∧ parse c = .ok t' ∧ t'.content = t.content ∧
      t'.canonicalize = .ok c ∧
      ∀ u : Element, u.IsWellFormed → u.canonicalize = .ok c → u.content = t.content := by
  have hparse : ∀ {u : Element} {c : String}, u.IsWellFormed → u.canonicalize = .ok c →
      parse c = .ok (u.canonicalElement [] []).merged := by
    intro u c hu hc
    rw [(canonicalize_ok_iff.mp hc).2]
    exact parse_render canonicalEscapes hu.named.canonicalElement
  have hcontent : ∀ {u : Element}, u.IsWellFormed →
      (u.canonicalElement [] []).merged.content = u.content :=
    fun hu => (content_merged _).trans (content_canonicalElement hu.bound)
  have hc : t.canonicalize = .ok (String.ofList
      (renderNode canonicalEscapes (t.canonicalElement [] []).toNode)) :=
    canonicalize_ok_iff.mpr ⟨h.writable, rfl⟩
  refine ⟨_, (t.canonicalElement [] []).merged, hc, hparse h hc, hcontent h, ?_, ?_⟩
  · rw [Element.canonicalize, canonicalizeIn_merged, ← Element.canonicalize, canonicalize_ok_iff,
      canonicalElement_twice h.named h.bound]
    exact ⟨h.writable.canonicalElement h.named, rfl⟩
  · intro u hu hcu
    have ht := hparse h hc
    rw [hparse hu hcu] at ht
    rw [← hcontent hu, ← hcontent h, Except.ok.inj ht]

def undeclaring : Element where
  name := "a"
  attributes := [("p:z", "1 < 2"), ("xmlns", "urn:a"), ("k", "\t"), ("xmlns:p", "urn:p")]
  children := [.text "x", .text "", .element "b" [("xmlns", "")] [.text "\r"], .text "y"]

theorem canonicalize_faithful_undeclaring :
    undeclaring.IsWellFormed ∧ ∃ c t', undeclaring.canonicalize = .ok c ∧ parse c = .ok t' ∧
      t'.content = undeclaring.content ∧ t'.canonicalize = .ok c ∧
      ∀ u : Element, u.IsWellFormed → u.canonicalize = .ok c → u.content = undeclaring.content := by
  have h : undeclaring.IsWellFormed := ⟨by decide, by decide, by decide⟩
  exact ⟨h, canonicalize_faithful h⟩

end IdentityProvider.Xml
