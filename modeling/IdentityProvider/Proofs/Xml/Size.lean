import IdentityProvider.Proofs.Xml.Assembly
import IdentityProvider.Proofs.Xml.Spelling
import Mathlib.Algebra.GroupWithZero.Nat
import Mathlib.Algebra.Order.BigOperators.Group.List
import Mathlib.Data.String.Basic
/-! Sizes of what is read. Each token pays for what it adds to a draft, and what a token can pay is bounded by
the text that spells it. A reference is never shorter than its character, so replacing it does not make anything
longer. -/

namespace IdentityProvider.Xml

open String (utf8Len utf8Len_cons utf8Len_append)

lemma length_le_utf8Len (cs : List Char) : cs.length ≤ utf8Len cs := by
  induction cs with
  | nil => exact Nat.le_refl 0
  | cons c cs ih =>
    rw [List.length_cons, utf8Len_cons]
    exact Nat.add_le_add ih c.utf8Size_pos

lemma two_le_of_reference {name : List Char} {c : Char} (h : reference? name = some c) : 2 ≤ name.length := by
  rcases name with _ | ⟨d, _ | ⟨d', name⟩⟩
  · cases h
  · -- What is alone there is a sign without digits, or no name.
    unfold reference? at h
    split at h
    · rename_i hname
      cases hname
    · rename_i hname
      cases hname
      cases h
    · simp [namedReference?] at h
  · simp

lemma Refers.utf8Len_le {raw text : List Char} (h : Refers raw text) : utf8Len text ≤ utf8Len raw := by
  induction h with
  | nil => exact Nat.le_refl 0
  | literal _ _ ih =>
    rw [utf8Len_cons, utf8Len_cons]
    exact Nat.add_le_add_right ih _
  | @reference name c raw text _ _ hr _ ih =>
    have hname := (two_le_of_reference hr).trans (length_le_utf8Len name)
    have hamp : '&'.utf8Size = 1 := rfl
    have hsemicolon : ';'.utf8Size = 1 := rfl
    have hc := c.utf8Size_le_four
    rw [utf8Len_cons, utf8Len_cons, utf8Len_append, utf8Len_cons]
    omega

lemma utf8Len_unescape {raw text : List Char} (h : unescape? raw = some text) : utf8Len text ≤ utf8Len raw :=
  (unescape_eq_some_iff.mp h).utf8Len_le

def attributeBytes (attributes : List Attribute) : Nat :=
  (attributes.map fun a => a.1.utf8ByteSize + a.2.utf8ByteSize).sum

def rawBytes (found : List RawAttribute) : Nat :=
  (found.map fun a => utf8Len a.key + utf8Len a.value).sum

lemma rawBytes_cons (a : RawAttribute) (found : List RawAttribute) :
    rawBytes (a :: found) = utf8Len a.key + utf8Len a.value + rawBytes found := by
  simp [rawBytes]

lemma le_rawBytes_of_mem {a : RawAttribute} {found : List RawAttribute} (h : a ∈ found) :
    utf8Len a.value ≤ rawBytes found :=
  (Nat.le_add_left _ _).trans (List.single_le_sum (fun _ _ => Nat.zero_le _) _ (List.mem_map_of_mem h))

lemma attributeBytes_cons (a : Attribute) (attributes : List Attribute) :
    attributeBytes (a :: attributes) = a.1.utf8ByteSize + a.2.utf8ByteSize + attributeBytes attributes := by
  simp [attributeBytes]

lemma LooseAttribute.utf8Len_le {cs rest : List Char} {a : RawAttribute} (h : LooseAttribute cs a rest) :
    utf8Len a.key + utf8Len a.value + utf8Len rest ≤ utf8Len cs := by
  cases h with
  | mk =>
    simp only [utf8Len_append, utf8Len_cons]
    omega

lemma rawBytes_scanAttributes (seen : List (List Char)) (cs : List Char) :
    rawBytes (scanAttributes seen cs).found ≤ utf8Len cs := by
  induction hn : cs.length using Nat.strongRecOn generalizing seen cs with
  | ind n ih =>
    rw [scanAttributes_eq]
    rcases hr : readAttribute cs with _ | _ | ⟨a, rest⟩
    · exact Nat.zero_le _
    · exact Nat.zero_le _
    · have hlength := length_lt_of_readAttribute hr
      have hrest := ih rest.length (by omega) (a.key :: seen) rest rfl
      have ha := (readAttribute_eq_attribute_iff.mp hr).utf8Len_le
      dsimp only
      split_ifs
      · exact Nat.zero_le _
      · rw [rawBytes_cons]
        omega

lemma attributeBytes_le_raw {raw : RawAttributes} {found : List Attribute}
    (h : elementAttributes raw = .ok found) :
    attributeBytes found ≤ rawBytes raw.found := by
  obtain ⟨raw, wellFormed⟩ := raw
  induction raw generalizing found with
  | nil =>
    cases wellFormed <;> cases h
    exact Nat.le_refl 0
  | cons a raw ih =>
    rw [elementAttributes_cons] at h
    split at h
    · rename_i value hv
      obtain ⟨others, hothers, rfl⟩ := map_ok_iff.mp h
      have hvalue := utf8Len_unescape hv
      have hrest : attributeBytes others ≤ rawBytes raw := ih hothers
      rw [attributeBytes_cons, rawBytes_cons, String.utf8ByteSize_ofList, String.utf8ByteSize_ofList]
      omega
    · cases h

lemma attributeBytes_le {raw : List Char} {found : List Attribute}
    (h : elementAttributes (readAttributes raw) = .ok found) :
    attributeBytes found ≤ utf8Len raw :=
  (attributeBytes_le_raw h).trans (rawBytes_scanAttributes [] raw)

section Paying

variable {ε σ : Type} {step : σ → Token → Except ε σ} {size : σ → Nat} {cost : Token → Nat}

/-- No token makes a draft larger by more than it pays. -/
def Pays (step : σ → Token → Except ε σ) (size : σ → Nat) (cost : Token → Nat) : Prop :=
  ∀ s t s', step s t = .ok s' → size s' ≤ size s + cost t

lemma Pays.foldlM (h : Pays step size cost) {ts : List Token} {s s' : σ} (hs : ts.foldlM step s = .ok s') :
    size s' ≤ size s + (ts.map cost).sum := by
  induction ts generalizing s with
  | nil =>
    cases hs
    exact Nat.le_refl _
  | cons t ts ih =>
    rw [List.foldlM_cons] at hs
    obtain ⟨s₁, hstep, hrest⟩ := bind_ok_iff.mp hs
    have hfirst := h s t s₁ hstep
    have hothers := ih hrest
    rw [List.map_cons, List.sum_cons]
    omega

end Paying

def Token.bytes : Token → Nat
  | .startTag name attributes | .emptyTag name attributes => utf8Len name + utf8Len attributes
  | .text content | .cdata content => utf8Len content
  | .endTag _ | .comment | .instruction | .doctype | .malformed => 0

def Token.nodes : Token → Nat
  | .startTag _ _ | .emptyTag _ _ | .text _ | .cdata _ => 1
  | .endTag _ | .comment | .instruction | .doctype | .malformed => 0

lemma Token.Spells.bytes_le {t : Token} {word : List Char} (h : t.Spells word) : t.bytes ≤ utf8Len word := by
  cases h <;> simp only [Token.bytes, utf8Len_cons, utf8Len_append] <;> omega

lemma Token.Spells.nodes_le {t : Token} {word : List Char} (h : t.Spells word) : t.nodes ≤ word.length := by
  cases h with
  | text hn _ => exact List.length_pos_of_ne_nil hn
  | startTag | emptyTag | endTag | cdata | comment | instruction | doctype => simp [Token.nodes]

section Charge

variable {cost : Token → Nat} {size : List Char → Nat} (happend : ∀ xs ys, size (xs ++ ys) = size xs + size ys)

include happend

lemma cost_le_of_spelled (hcost : ∀ {t : Token} {word : List Char}, t.Spells word → cost t ≤ size word)
    {ts : List Token} {words : List (List Char)} (h : List.Forall₂ Token.Spells ts words) :
    (ts.map cost).sum ≤ size words.flatten := by
  induction h with
  | nil => exact Nat.zero_le _
  | cons ht _ ih =>
    rw [List.map_cons, List.sum_cons, List.flatten_cons, happend]
    exact Nat.add_le_add (hcost ht) ih

lemma size_dropByteOrderMark_le (cs : List Char) : size (dropByteOrderMark cs) ≤ size cs := by
  rw [dropByteOrderMark]
  split_ifs
  · cases cs with
    | nil => exact Nat.le_refl _
    | cons c cs =>
      have hc := happend [c] cs
      rw [List.singleton_append] at hc
      rw [List.tail_cons, hc]
      exact Nat.le_add_left _ _
  · exact Nat.le_refl _

lemma charge_le (hcost : ∀ {t : Token} {word : List Char}, t.Spells word → cost t ≤ size word)
    {document : List Char} {ps : List Piece} (h : scan document = tokensOfPieces ps) :
    ((scan document).map cost).sum ≤ size document := by
  obtain ⟨words, hwords, hdocument⟩ := pieces_spell h
  rw [h]
  calc ((tokensOfPieces ps).map cost).sum
      ≤ size words.flatten := cost_le_of_spelled happend hcost hwords
    _ = size (dropByteOrderMark document) := by rw [hdocument]
    _ ≤ size document := size_dropByteOrderMark_le happend document

end Charge

structure Measure where
  tag : String → List Attribute → Nat
  content : String → Nat

namespace Measure

def bytes : Measure where
  tag name attributes := name.utf8ByteSize + attributeBytes attributes
  content s := s.utf8ByteSize

def nodes : Measure where
  tag _ _ := 1
  content _ := 1

structure IsCovered (m : Measure) (cost : Token → Nat) : Prop where
  startTag {name attributes : List Char} {found : List Attribute} :
    elementAttributes (readAttributes attributes) = .ok found →
      m.tag (String.ofList name) found ≤ cost (.startTag name attributes)
  emptyTag {name attributes : List Char} {found : List Attribute} :
    elementAttributes (readAttributes attributes) = .ok found →
      m.tag (String.ofList name) found ≤ cost (.emptyTag name attributes)
  text {raw content : List Char} : unescape? raw = some content →
    m.content (String.ofList content) ≤ cost (.text raw)
  cdata (content : List Char) : m.content (String.ofList content) ≤ cost (.cdata content)

lemma bytes_isCovered : bytes.IsCovered Token.bytes := by
  have htag : ∀ {name attributes : List Char} {found : List Attribute},
      elementAttributes (readAttributes attributes) = .ok found →
        bytes.tag (String.ofList name) found ≤ utf8Len name + utf8Len attributes := by
    intro name attributes found hfound
    have hname : (String.ofList name).utf8ByteSize = utf8Len name := String.utf8ByteSize_ofList name
    exact Nat.add_le_add hname.le (attributeBytes_le hfound)
  have hcontent : ∀ content, bytes.content (String.ofList content) = utf8Len content := String.utf8ByteSize_ofList
  exact ⟨htag, htag, fun h => (hcontent _).trans_le (utf8Len_unescape h), fun content => (hcontent content).le⟩

lemma nodes_isCovered : nodes.IsCovered Token.nodes :=
  ⟨fun _ => Nat.le_refl 1, fun _ => Nat.le_refl 1, fun _ => Nat.le_refl 1, fun _ => Nat.le_refl 1⟩

end Measure

mutual

def Node.total (m : Measure) : Node → Nat
  | .element name attributes children => m.tag name attributes + totalOfNodes m children
  | .text content => m.content content

def totalOfNodes (m : Measure) : List Node → Nat
  | [] => 0
  | n :: ns => n.total m + totalOfNodes m ns

end

namespace Element

def byteSize (e : Element) : Nat :=
  e.toNode.total .bytes

def nodeCount (e : Element) : Nat :=
  e.toNode.total .nodes

end Element

lemma total_toNode (m : Measure) (e : Element) :
    e.toNode.total m = m.tag e.name e.attributes + totalOfNodes m e.children := rfl

lemma totalOfNodes_append (m : Measure) (xs ys : List Node) :
    totalOfNodes m (xs ++ ys) = totalOfNodes m xs + totalOfNodes m ys := by
  induction xs with
  | nil => simp [totalOfNodes]
  | cons n ns ih => simp only [List.cons_append, totalOfNodes, ih, Nat.add_assoc]

lemma totalOfNodes_reverse (m : Measure) (ns : List Node) : totalOfNodes m ns.reverse = totalOfNodes m ns := by
  induction ns with
  | nil => rfl
  | cons n ns ih =>
    rw [List.reverse_cons, totalOfNodes_append, ih]
    simp only [totalOfNodes]
    omega

namespace Draft

/-- The elements that are open and the root are measured alike, each with the children that it has so far. -/
def total (m : Measure) (d : Draft) : Nat :=
  totalOfNodes m ((d.opened ++ d.root.toList).map Element.toNode)

variable (m : Measure)

lemma total_open (e : Element) (d : Draft) :
    total m { d with opened := e :: d.opened } = e.toNode.total m + total m d := rfl

lemma total_push (d : Draft) (node : Node) : total m (d.push node) ≤ total m d + node.total m := by
  obtain ⟨opened, root⟩ := d
  cases opened with
  | nil => exact Nat.le_add_right _ _
  | cons e outer =>
    simp only [push, total, List.cons_append, List.map_cons, totalOfNodes, total_toNode]
    omega

lemma total_complete (d : Draft) (e : Element) : total m (d.complete e) ≤ total m d + e.toNode.total m := by
  obtain ⟨opened, root⟩ := d
  cases opened with
  | nil =>
    simp only [complete, total, List.nil_append, Option.toList_some, List.map_cons, List.map_nil, totalOfNodes]
    omega
  | cons => exact total_push m _ _

/-- A start tag, an empty tag, a text and a section each pay for one node. An end tag pays nothing, since its
element has been paid for when it was opened. -/
lemma pays {m : Measure} {cost : Token → Nat} (hm : m.IsCovered cost) : Pays step (total m) cost := by
  intro d t d' h
  cases t with
  | startTag name attributes =>
    simp only [step] at h
    split_ifs at h
    obtain ⟨found, hfound, hd⟩ := bind_ok_iff.mp h
    cases hd
    have hpaid : m.tag (String.ofList name) found ≤ cost (.startTag name attributes) := hm.startTag hfound
    rw [total_open, total_toNode, totalOfNodes]
    dsimp only
    omega
  | emptyTag name attributes =>
    simp only [step] at h
    split_ifs at h
    obtain ⟨found, hfound, hd⟩ := bind_ok_iff.mp h
    cases hd
    have hpaid : m.tag (String.ofList name) found ≤ cost (.emptyTag name attributes) := hm.emptyTag hfound
    have hadded := total_complete m d ⟨String.ofList name, found, []⟩
    rw [total_toNode, totalOfNodes] at hadded
    dsimp only at hadded
    omega
  | endTag name =>
    obtain ⟨opened, root⟩ := d
    cases opened with
    | nil => cases h
    | cons e outer =>
      cases h
      have hadded := total_complete m ⟨outer, root⟩ { e with children := e.children.reverse }
      have hopen := total_open m e ⟨outer, root⟩
      rw [total_toNode, totalOfNodes_reverse] at hadded
      rw [total_toNode] at hopen
      dsimp only at hadded hopen ⊢
      omega
  | text raw =>
    simp only [step] at h
    split at h
    · rename_i content hcontent
      cases h
      exact (total_push m d _).trans (Nat.add_le_add_left (hm.text hcontent) _)
    · cases h
  | cdata content =>
    cases h
    exact (total_push m d _).trans (Nat.add_le_add_left (hm.cdata content) _)
  | comment | instruction | doctype =>
    cases h
    exact Nat.le_add_right _ _
  | malformed => cases h

lemma finish_ok {d : Draft} {e : Element} (h : d.finish = .ok e) : d = ⟨[], some e⟩ := by
  obtain ⟨opened, root⟩ := d
  cases opened with
  | cons => cases h
  | nil =>
    cases root with
    | none => cases h
    | some e' =>
      cases h
      rfl

end Draft

lemma total_le_of_parse {m : Measure} {cost : Token → Nat} (hm : m.IsCovered cost) {document : String}
    {e : Element} (h : parse document = .ok e) : e.toNode.total m ≤ ((scan document.toList).map cost).sum := by
  obtain ⟨d, hd, hf⟩ := bind_ok_iff.mp h
  have hrun := (Draft.pays hm).foldlM hd
  rw [Draft.finish_ok hf] at hrun
  simpa [Draft.total, Draft.empty, totalOfNodes] using hrun

theorem byteSize_le_of_parse {document : String} {e : Element} (h : parse document = .ok e) :
    e.byteSize ≤ document.utf8ByteSize := by
  obtain ⟨ps, hps⟩ := scan_of_parse h
  rw [← String.utf8Len_toList]
  exact (total_le_of_parse Measure.bytes_isCovered h).trans (charge_le utf8Len_append Token.Spells.bytes_le hps)

theorem nodeCount_le_of_parse {document : String} {e : Element} (h : parse document = .ok e) :
    e.nodeCount ≤ document.length := by
  obtain ⟨ps, hps⟩ := scan_of_parse h
  rw [← String.length_toList]
  exact (total_le_of_parse Measure.nodes_isCovered h).trans
    (charge_le (fun _ _ => List.length_append) Token.Spells.nodes_le hps)

end IdentityProvider.Xml
