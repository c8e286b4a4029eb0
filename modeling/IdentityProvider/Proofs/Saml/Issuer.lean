import IdentityProvider.Proofs.Saml.Reading
import IdentityProvider.Proofs.Saml.WrittenRequest
import IdentityProvider.Proofs.Xml.Assembly
import IdentityProvider.Proofs.Xml.Trimming
/-! The issuer as the reader of requests and the reader of trees find it. Both find it in the same element. The
first takes each run of text without the blanks around it, and stops at the first end tag. -/

namespace IdentityProvider

namespace Xml

structure Tag.StandsFor (tag : Tag) (e : Element) : Prop where
  name : e.name = String.ofList tag.name
  attributes : elementAttributes (readAttributes tag.attributes) = .ok e.attributes
  children : nodesOfPieces tag.content = .ok e.children

lemma Tag.StandsFor.localName {tag : Tag} {e : Element} (h : tag.StandsFor e) : tag.localName = e.localName := by
  rw [Tag.localName, Element.localName, h.name]

lemma tags_standFor {ps : List Piece} {ns : List Node} (h : nodesOfPieces ps = .ok ns) :
    List.Forall₂ Tag.StandsFor (ps.filterMap Piece.tag?) (ns.filterMap Node.element?) := by
  induction ps generalizing ns with
  | nil =>
    cases h
    exact .nil
  | cons p ps ih =>
    obtain ⟨first, hfirst, h⟩ := bind_ok_iff.mp h
    obtain ⟨others, hothers, h⟩ := bind_ok_iff.mp h
    cases h
    cases p with
    | element name attributes content =>
      obtain ⟨found, hfound, h⟩ := bind_ok_iff.mp hfirst
      obtain ⟨children, hchildren, h⟩ := bind_ok_iff.mp h
      cases h
      exact .cons ⟨rfl, hfound, hchildren⟩ (ih hothers)
    | childless name attributes =>
      obtain ⟨found, hfound, h⟩ := bind_ok_iff.mp hfirst
      cases h
      exact .cons ⟨rfl, hfound, rfl⟩ (ih hothers)
    | text raw =>
      simp only [Piece.nodes] at hfirst
      have hrest := ih hothers
      split at hfirst
      · cases hfirst
        exact hrest
      · cases hfirst
    | cdata content =>
      have hrest := ih hothers
      cases hfirst
      exact hrest
    | aside kind =>
      have hrest := ih hothers
      cases hfirst
      exact hrest

lemma Tag.StandsFor.named {tag : Tag} {e : Element} (h : tag.StandsFor e) (name : String) :
    List.Forall₂ Tag.StandsFor (tag.named name) (e.named name) := by
  have hall : ∀ {tags : List Tag} {es : List Element}, List.Forall₂ Tag.StandsFor tags es →
      List.Forall₂ Tag.StandsFor (tags.filter fun c => c.localName == name)
        (es.filter fun c => c.localName == name) := by
    intro tags es hs
    induction hs with
    | nil => exact .nil
    | @cons c d _ _ hc _ ih =>
      by_cases hn : c.localName = name
      · rw [List.filter_cons_of_pos (by simpa using hn),
          List.filter_cons_of_pos (by simpa [← hc.localName] using hn)]
        exact .cons hc ih
      · rw [List.filter_cons_of_neg (by simpa using hn),
          List.filter_cons_of_neg (by simpa [← hc.localName] using hn)]
        exact ih
  exact hall (tags_standFor h.children)

def Piece.directText : Piece → List Char
  | .text raw => (unescape? raw).getD []
  | .cdata content => content
  | .element _ _ _ | .childless _ _ | .aside _ => []

def Piece.heardText : Piece → List Char
  | .text raw => (unescape? (Text.trimBoth Text.isMarkupBlank raw)).getD []
  | .cdata content => content
  | .element _ _ _ | .childless _ _ | .aside _ => []

def Piece.blanksBefore : Piece → List Char
  | .text raw => Text.leading Text.isMarkupBlank raw
  | _ => []

def Piece.blanksAfter : Piece → List Char
  | .text raw => Text.trailing Text.isMarkupBlank raw
  | _ => []

def Piece.hasEndTag : Piece → Bool
  | .element _ _ _ => true
  | _ => false

def Piece.isBlank (p : Piece) : Bool :=
  p.directText.all Text.isBlank

/-- A text begins with a blank only where nothing else has been said before, and ends with one only where
nothing else will be. -/
def BlanksStandOutside (content : List Piece) : Prop :=
  ∀ before raw after, content = before ++ .text raw :: after →
    (raw.head?.any Text.isMarkupBlank = true → ∀ p ∈ before, p.isBlank = true) ∧
    (raw.getLast?.any Text.isMarkupBlank = true → ∀ p ∈ after, p.isBlank = true)

lemma all_blanksBefore (p : Piece) : p.blanksBefore.all Text.isBlank = true := by
  cases p <;> first | rfl | exact isBlank_of_markup (Text.all_leading _ _)

lemma all_blanksAfter (p : Piece) : p.blanksAfter.all Text.isBlank = true := by
  cases p <;> first | rfl | exact isBlank_of_markup (Text.all_trailing _ _)

def Piece.isReadable : Piece → Bool
  | .text raw => (unescape? raw).isSome
  | _ => true

lemma directText_eq {p : Piece} (h : p.isReadable = true) :
    p.directText = p.blanksBefore ++ p.heardText ++ p.blanksAfter := by
  cases p with
  | text raw =>
    obtain ⟨text, htext⟩ := Option.isSome_iff_exists.mp h
    obtain ⟨inner, hinner, rfl⟩ := unescape_trimmed htext
    simp only [Piece.directText, Piece.heardText, Piece.blanksBefore, Piece.blanksAfter, htext, hinner,
      Option.getD_some]
  | element | childless | aside => rfl
  | cdata content => exact (List.append_nil content).symm

lemma nodes_isReadable {p : Piece} {ns : List Node} (h : p.nodes = .ok ns) : p.isReadable = true := by
  cases p with
  | text raw =>
    rw [Piece.nodes] at h
    rw [Piece.isReadable]
    split at h
    · rename_i heq
      rw [heq]
      rfl
    · cases h
  | element | childless | cdata | aside => rfl

lemma nodes_text {p : Piece} {ns : List Node} (h : p.nodes = .ok ns) :
    (String.join (ns.map Node.directText)).toList = p.directText := by
  cases p with
  | element name attributes content =>
    obtain ⟨found, _, h⟩ := bind_ok_iff.mp h
    obtain ⟨children, _, h⟩ := bind_ok_iff.mp h
    cases h
    rfl
  | childless name attributes =>
    obtain ⟨found, _, h⟩ := bind_ok_iff.mp h
    cases h
    rfl
  | text raw =>
    rw [Piece.nodes] at h
    rw [Piece.directText]
    split at h
    · rename_i content heq
      cases h
      simp [heq, Node.directText]
    · cases h
  | cdata content =>
    cases h
    simp [Node.directText, Piece.directText]
  | aside kind =>
    cases h
    rfl

lemma text_of_pieces {ps : List Piece} {ns : List Node} (h : nodesOfPieces ps = .ok ns) :
    (∀ p ∈ ps, p.isReadable = true) ∧ (String.join (ns.map Node.directText)).toList =
      ps.flatMap Piece.directText := by
  induction ps generalizing ns with
  | nil =>
    cases h
    exact ⟨nofun, rfl⟩
  | cons p ps ih =>
    obtain ⟨first, hfirst, h⟩ := bind_ok_iff.mp h
    obtain ⟨others, hothers, h⟩ := bind_ok_iff.mp h
    cases h
    obtain ⟨hreadable, htext⟩ := ih hothers
    refine ⟨List.forall_mem_cons.mpr ⟨nodes_isReadable hfirst, hreadable⟩, ?_⟩
    rw [List.flatMap_cons, ← htext, ← nodes_text hfirst]
    simp

end Xml

namespace AuthnRequest

open Xml

lemma heard_of_readable {ps : List Piece} (hreadable : ∀ p ∈ ps, p.isReadable = true)
    (hend : ∀ p ∈ ps, p.hasEndTag = false) : heard ps = some (ps.flatMap Piece.heardText) := by
  induction ps with
  | nil => simp [heard]
  | cons p ps ih =>
    rw [List.forall_mem_cons] at hreadable hend
    have hrest := ih hreadable.2 hend.2
    cases p with
    | element name attributes content => cases hend.1
    | childless name attributes =>
      rw [heard, hrest]
      rfl
    | aside kind =>
      rw [heard, hrest]
      rfl
    | cdata content =>
      rw [heard, hrest]
      rfl
    | text raw =>
      obtain ⟨text, htext⟩ := Option.isSome_iff_exists.mp hreadable.1
      obtain ⟨inner, hinner, _⟩ := unescape_trimmed htext
      rw [heard, hrest, hinner, List.flatMap_cons, Piece.heardText, hinner]
      rfl

lemma trimBoth_heard {ps : List Piece} (hreadable : ∀ p ∈ ps, p.isReadable = true) (ho : BlanksStandOutside ps) :
    Text.trimBoth Text.isBlank (ps.flatMap Piece.heardText) =
      Text.trimBoth Text.isBlank (ps.flatMap Piece.directText) := by
  have hblank : ∀ {qs : List Piece}, (∀ q ∈ qs, q ∈ ps) → (∀ q ∈ qs, q.isBlank = true) →
      ∀ q ∈ qs, (q.blanksBefore ++ q.heardText ++ q.blanksAfter).all Text.isBlank = true := by
    intro qs hmem hall q hq
    rw [← directText_eq (hreadable q (hmem q hq))]
    exact hall q hq
  -- Blanks of one text that are dropped are next to blanks that are trimmed anyway.
  have hbefore : ∀ ys p zs, ps = ys ++ p :: zs → p.blanksBefore = [] ∨
      ∀ y ∈ ys, (y.blanksBefore ++ y.heardText ++ y.blanksAfter).all Text.isBlank = true := by
    intro ys p zs he
    cases p with
    | text raw =>
      cases hraw : raw.head?.any Text.isMarkupBlank with
      | false => exact Or.inl (Text.leading_eq_nil hraw)
      | true => exact Or.inr (hblank (fun q hq => by simp [he, hq]) ((ho ys raw zs he).1 hraw))
    | element | childless | cdata | aside => exact Or.inl rfl
  have hafter : ∀ ys p zs, ps = ys ++ p :: zs → p.blanksAfter = [] ∨
      ∀ z ∈ zs, (z.blanksBefore ++ z.heardText ++ z.blanksAfter).all Text.isBlank = true := by
    intro ys p zs he
    cases p with
    | text raw =>
      cases hraw : raw.getLast?.any Text.isMarkupBlank with
      | false => exact Or.inl (Text.trailing_eq_nil hraw)
      | true => exact Or.inr (hblank (fun q hq => by simp [he, hq]) ((ho ys raw zs he).2 hraw))
    | element | childless | cdata | aside => exact Or.inl rfl
  rw [List.flatMap_congr fun p hp => directText_eq (hreadable p hp)]
  exact (Text.trimBoth_joined all_blanksBefore all_blanksAfter hbefore hafter).symm

lemma removeBlanks_heard {ps : List Piece} (hreadable : ∀ p ∈ ps, p.isReadable = true) :
    (ps.flatMap Piece.heardText).filter (fun c => !Text.isBlank c) =
      (ps.flatMap Piece.directText).filter fun c => !Text.isBlank c := by
  rw [List.filter_flatMap, List.filter_flatMap]
  apply List.flatMap_congr
  intro p hp
  rw [directText_eq (hreadable p hp), List.filter_append, List.filter_append,
    Text.filter_not_of_all (all_blanksBefore p), Text.filter_not_of_all (all_blanksAfter p), List.append_nil,
    List.nil_append]

structure IssuerPlace (document : String) (t : Element) where
  pieces : List Piece
  root : Tag
  tag : Tag
  element : Element
  scanned : scan document.toList = tokensOfPieces pieces
  rooted : pieces.filterMap Piece.tag? = [root]
  root_stands : root.StandsFor t
  tagged : root.named "Issuer" = [tag]
  found : t.named "Issuer" = [element]
  stands : tag.StandsFor element

lemma Reading.issuerPlace {document : String} {ps : List Piece} {r : AuthnRequest} {t : Element} (R : Reading ps r)
    (hps : scan document.toList = tokensOfPieces ps) (ht : Xml.parse document = .ok t) :
    ∃ place : IssuerPlace document t, place.tag = R.issuer := by
  obtain ⟨ns, hns, hroot⟩ := (Xml.parse_of_pieces hps).mp ht
  have hroots := tags_standFor hns
  rw [R.rooted, hroot, List.forall₂_cons] at hroots
  have hissuers := hroots.1.named "Issuer"
  rw [R.issued, List.forall₂_cons_left_iff] at hissuers
  obtain ⟨e, _, he, hnone, hissued⟩ := hissuers
  rw [List.forall₂_nil_left_iff.mp hnone] at hissued
  exact ⟨⟨ps, R.root, R.issuer, e, hps, R.rooted, hroots.1, R.issued, hissued, he⟩, rfl⟩

/-- Two readers of one document find its issuer in the same element. What the first takes of it is what is heard
up to the first end tag. If that is its own end tag, then nothing but blanks is lost, and no blank either if
none stands between parts of the text. -/
theorem issuer_found_alike {document : String} {r : AuthnRequest} {t : Element} (hr : parse document = .ok r)
    (ht : Xml.parse document = .ok t) : ∃ (place : IssuerPlace document t) (text : List Char),
      heard place.tag.content = some text ∧ r.issuer = Text.trim (String.ofList text) ∧
      ((∀ p ∈ place.tag.content, p.hasEndTag = false) →
        Text.removeBlanks r.issuer = Text.removeBlanks place.element.textContent ∧
        (BlanksStandOutside place.tag.content → r.issuer = Text.trim place.element.textContent)) := by
  obtain ⟨ps, hps⟩ := scan_of_parse hr
  obtain ⟨R⟩ := (parse_of_pieces hps).mp hr
  obtain ⟨place, hplace⟩ := R.issuerPlace hps ht
  have hheard := R.hears
  rw [← hplace] at hheard
  have hissuer : r.issuer = Text.trim (String.ofList R.text) := by
    rw [Text.trim, String.toList_ofList]
    exact congrArg AuthnRequest.issuer R.request_eq
  refine ⟨place, R.text, hheard, hissuer, ?_⟩
  intro hend
  obtain ⟨hreadable, htext⟩ := text_of_pieces place.stands.children
  rw [heard_of_readable hreadable hend, Option.some.injEq] at hheard
  constructor
  · rw [hissuer, Text.removeBlanks_trim, Text.removeBlanks, Text.removeBlanks, Element.textContent, htext,
      String.toList_ofList, ← hheard, removeBlanks_heard hreadable]
  · intro ho
    rw [hissuer, Text.trim, Text.trim, Element.textContent, htext, String.toList_ofList, ← hheard,
      trimBoth_heard hreadable ho]

def parted : String :=
  "<AuthnRequest ID=\"q\"><Issuer> s<x/> &amp;<![CDATA[ t]]> </Issuer></AuthnRequest>"

theorem issuer_found_alike_parted : ∃ r t, parse parted = .ok r ∧ Xml.parse parted = .ok t ∧ r.issuer = "s& t" ∧
    ∃ (place : IssuerPlace parted t) (text : List Char), heard place.tag.content = some text ∧
      r.issuer = Text.trim (String.ofList text) := by
  have hr : parse parted = .ok { id := "q", issuer := "s& t" } := by decide +kernel
  have hok : (Xml.parse parted).toBool = true := by decide +kernel
  cases ht : Xml.parse parted with
  | error e =>
    rw [ht] at hok
    cases hok
  | ok t =>
    obtain ⟨place, text, hheard, hissuer, _⟩ := issuer_found_alike hr ht
    exact ⟨_, t, hr, rfl, rfl, place, text, hheard, hissuer⟩

example : (parse "<AuthnRequest ID=\"q\"><Issuer>a<b>c</b>d</Issuer></AuthnRequest>").map AuthnRequest.issuer =
    .ok "ac" := by
  decide +kernel

end AuthnRequest

end IdentityProvider
