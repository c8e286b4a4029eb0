import IdentityProvider.Proofs.Xml.Tree
import IdentityProvider.Xml.Canonical
import IdentityProvider.Xml.Writer
/-! The markup of a tree under a choice of escapes, and the writer as a check of all characters followed by the
markup. -/

namespace IdentityProvider.Xml

/-- How characters are written in texts and in attribute values, so that reading undoes it. -/
structure Escapes where
  text : Char → List Char
  value : Char → List Char
  text_reads : ∀ c done rest,
    unescapeOnto done none (text c ++ rest) = unescapeOnto (c :: done) none rest
  value_reads : ∀ c done rest,
    unescapeOnto done none (value c ++ rest) = unescapeOnto (c :: done) none rest
  text_opens_no_tag : ∀ c, '<' ∉ text c
  value_closes_no_quote : ∀ c, '"' ∉ value c

lemma unescape_literal {c : Char} (h : c ≠ '&') (done rest : List Char) :
    unescapeOnto done none ([c] ++ rest) = unescapeOnto (c :: done) none rest := by
  simp [unescapeOnto, h]

lemma escapeChar_reads (c : Char) (done rest : List Char) :
    unescapeOnto done none (escapeChar c ++ rest) = unescapeOnto (c :: done) none rest := by
  rw [escapeChar]
  split_ifs with h₁ h₂ h₃ h₄ h₅
  all_goals try subst c
  all_goals first | rfl | exact unescape_literal h₁ done rest

lemma escapeCanonicalText_reads (c : Char) (done rest : List Char) :
    unescapeOnto done none (escapeCanonicalText c ++ rest) = unescapeOnto (c :: done) none rest := by
  rw [escapeCanonicalText]
  split_ifs with h₁ h₂ h₃ h₄
  all_goals try subst c
  all_goals first | rfl | exact unescape_literal h₁ done rest

lemma escapeCanonicalValue_reads (c : Char) (done rest : List Char) :
    unescapeOnto done none (escapeCanonicalValue c ++ rest) = unescapeOnto (c :: done) none rest := by
  rw [escapeCanonicalValue]
  split_ifs with h₁ h₂ h₃ h₄ h₅ h₆
  all_goals try subst c
  all_goals first | rfl | exact unescape_literal h₁ done rest

def wireEscapes : Escapes where
  text := escapeChar
  value := escapeChar
  text_reads := escapeChar_reads
  value_reads := escapeChar_reads
  text_opens_no_tag c := by
    rw [escapeChar]
    split_ifs with h₁ h₂ <;> first | decide | simpa using Ne.symm h₂
  value_closes_no_quote c := by
    rw [escapeChar]
    split_ifs with h₁ h₂ h₃ h₄ h₅ <;> first | decide | simpa using Ne.symm h₅

def canonicalEscapes : Escapes where
  text := escapeCanonicalText
  value := escapeCanonicalValue
  text_reads := escapeCanonicalText_reads
  value_reads := escapeCanonicalValue_reads
  text_opens_no_tag c := by
    rw [escapeCanonicalText]
    split_ifs with h₁ h₂ <;> first | decide | simpa using Ne.symm h₂
  value_closes_no_quote c := by
    rw [escapeCanonicalValue]
    split_ifs with h₁ h₂ h₃ <;> first | decide | simpa using Ne.symm h₃

lemma unescape_flatMap {escape : Char → List Char}
    (h : ∀ c done rest, unescapeOnto done none (escape c ++ rest) = unescapeOnto (c :: done) none rest)
    (cs : List Char) : unescape? (cs.flatMap escape) = some cs := by
  have hr : ∀ done, unescapeOnto done none (cs.flatMap escape) = some (done.reverse ++ cs) := by
    induction cs with
    | nil => intro done; simp [unescapeOnto]
    | cons c cs ih => intro done; simp [h, ih]
  exact hr []

def renderAttribute (e : Escapes) (a : Attribute) : List Char :=
  ' ' :: (a.1.toList ++ '=' :: '"' :: (a.2.toList.flatMap e.value ++ ['"']))

mutual

def renderNode (e : Escapes) : Node → List Char
  | .element name attributes children =>
    '<' :: (name.toList ++ attributes.flatMap (renderAttribute e) ++ '>' ::
      (renderNodes e children ++ '<' :: '/' :: (name.toList ++ ['>'])))
  | .text s => s.toList.flatMap e.text

def renderNodes (e : Escapes) : List Node → List Char
  | [] => []
  | n :: ns => renderNode e n ++ renderNodes e ns

end

lemma render_joinText (e : Escapes) (s : String) (ns : List Node) :
    renderNodes e (joinText s ns) = s.toList.flatMap e.text ++ renderNodes e ns := by
  have hj := apply_joinText (f := renderNodes e) (by simp [renderNodes, renderNode])
    (by simp [renderNodes, renderNode]) s ns
  rw [hj, renderNodes, renderNode]

lemma render_merged (e : Escapes) (ns : List Node) : renderNodes e (mergedNodes ns) = renderNodes e ns := by
  induction ns using nodes_induction with
  | nil => rfl
  | text s ns ih => simp [mergedNodes, Node.merged, Node.joinedTo, render_joinText, renderNodes, renderNode, ih]
  | element name attributes children ns ihc ih =>
    simp [mergedNodes, Node.merged, Node.joinedTo, renderNodes, renderNode, ihc, ih]

lemma renderNode_merged (e : Escapes) (t : Element) :
    renderNode e t.merged.toNode = renderNode e t.toNode := by
  simp [Element.toNode, Element.merged, renderNode, render_merged]

mutual

def checkNode : Node → Except Forbidden Unit
  | .element name attributes children => do
    checkChars name.toList
    checkAttributes attributes
    checkNodes children
  | .text s => checkChars s.toList

def checkNodes : List Node → Except Forbidden Unit
  | [] => .ok ()
  | n :: ns => do
    checkNode n
    checkNodes ns

end

lemma checkChars_append (xs ys : List Char) :
    checkChars (xs ++ ys) = checkChars xs >>= fun _ => checkChars ys := by
  induction xs with
  | nil => rfl
  | cons x xs ih => by_cases hx : isXmlChar x = true <;> simp [checkChars, hx, ih, bind, Except.bind]

lemma checkNodes_joinText (s : String) (ns : List Node) :
    checkNodes (joinText s ns) = checkChars s.toList >>= fun _ => checkNodes ns := by
  have happend : ∀ s t ns, checkNodes (.text (s ++ t) :: ns) = checkNodes (.text s :: .text t :: ns) := by
    intro s t ns
    simp only [checkNodes, checkNode, String.toList_append, checkChars_append]
    cases checkChars s.toList <;> rfl
  rw [apply_joinText (f := checkNodes) (fun _ => rfl) happend, checkNodes, checkNode]

lemma checkNodes_merged (ns : List Node) : checkNodes (mergedNodes ns) = checkNodes ns := by
  induction ns using nodes_induction with
  | nil => rfl
  | text s ns ih =>
    simp [mergedNodes, Node.merged, Node.joinedTo, checkNodes_joinText, checkNodes, checkNode, ih]
  | element name attributes children ns ihc ih =>
    simp [mergedNodes, Node.merged, Node.joinedTo, checkNodes, checkNode, ihc, ih]

lemma writeAttributes_eq (attributes : List Attribute) :
    writeAttributes attributes =
      (checkAttributes attributes).map fun _ => attributes.flatMap (renderAttribute wireEscapes) := by
  induction attributes with
  | nil => rfl
  | cons a attributes ih =>
    obtain ⟨key, value⟩ := a
    simp only [writeAttributes, checkAttributes, writeName, writeEscaped, ih]
    cases checkChars key.toList with
    | error f => rfl
    | ok u =>
      cases checkChars value.toList with
      | error f => rfl
      | ok v =>
        cases checkAttributes attributes with
        | error f => rfl
        | ok w =>
          simp [bind, Except.bind, pure, Except.pure, Except.map, renderAttribute, escape, wireEscapes]

lemma writeNodes_eq (ns : List Node) :
    writeNodes ns = (checkNodes ns).map fun _ => renderNodes wireEscapes ns := by
  induction ns using nodes_induction with
  | nil => rfl
  | text s ns ih =>
    simp only [writeNodes, writeNode, writeEscaped, checkNodes, checkNode, ih]
    cases checkChars s.toList with
    | error f => rfl
    | ok u =>
      cases checkNodes ns with
      | error f => rfl
      | ok v => rfl
  | element name attributes children ns ihc ih =>
    simp only [writeNodes, writeNode, writeName, writeAttributes_eq, checkNodes, checkNode, ihc, ih]
    cases checkChars name.toList with
    | error f => rfl
    | ok u =>
      cases checkAttributes attributes with
      | error f => rfl
      | ok v =>
        cases checkNodes children with
        | error f => rfl
        | ok w =>
          cases checkNodes ns with
          | error f => rfl
          | ok x =>
            simp [bind, Except.bind, pure, Except.pure, Except.map, renderNodes, renderNode]

lemma checkChars_ok_iff {s : String} : checkChars s.toList = .ok () ↔ isXmlText s = true := by
  simp [checkChars_eq_ok_iff, isXmlText]

lemma check_bind_ok_iff {ε β : Type} {x : Except ε Unit} {f : Unit → Except ε β} {b : β} :
    x >>= f = .ok b ↔ x = .ok () ∧ f () = .ok b := by
  cases x <;> simp [bind, Except.bind]

lemma checkAttributes_ok_iff {attributes : List Attribute} :
    checkAttributes attributes = .ok () ↔
      attributes.all (fun a => isXmlText a.1 && isXmlText a.2) = true := by
  induction attributes with
  | nil => simp [checkAttributes]
  | cons a attributes ih => simp [checkAttributes, check_bind_ok_iff, checkChars_ok_iff, ih, and_assoc]

lemma checkNodes_ok_iff {ns : List Node} :
    checkNodes ns = .ok () ↔ allNodes isWritableTag isXmlText ns = true := by
  induction ns using nodes_induction with
  | nil => simp [checkNodes, allNodes]
  | text s ns ih => simp [checkNodes, checkNode, check_bind_ok_iff, allNodes, Node.all, checkChars_ok_iff, ih]
  | element name attributes children ns ihc ih =>
    simp only [checkNodes, checkNode, check_bind_ok_iff, allNodes, Node.all, isWritableTag, checkChars_ok_iff,
      checkAttributes_ok_iff, ihc, ih, Bool.and_eq_true]
    simp [and_assoc]

lemma checkNode_ok_iff (e : Element) : checkNode e.toNode = .ok () ↔ e.IsWritable := by
  have hc : checkNodes [e.toNode] = checkNode e.toNode := by
    simp only [checkNodes]
    cases checkNode e.toNode <;> rfl
  rw [← hc, checkNodes_ok_iff]
  simp [allNodes, Element.IsWritable]

lemma writeNode_eq (n : Node) : writeNode n = (checkNode n).map fun _ => renderNode wireEscapes n := by
  have h := writeNodes_eq [n]
  simp only [writeNodes, checkNodes, renderNodes, List.append_nil] at h
  cases hw : writeNode n <;> cases hc : checkNode n <;>
    simp_all [bind, Except.bind, pure, Except.pure, Except.map]

lemma toXml_ok_iff {e : Element} {written : String} :
    e.toXml = .ok written ↔
      e.IsWritable ∧ written = String.ofList (renderNode wireEscapes e.toNode) := by
  rw [Element.toXml, writeNode_eq, ← checkNode_ok_iff]
  cases checkNode e.toNode <;> simp [bind, Except.bind, pure, Except.pure, Except.map, eq_comm]

end IdentityProvider.Xml
