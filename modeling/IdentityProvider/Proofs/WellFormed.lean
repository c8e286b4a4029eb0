import IdentityProvider.Proofs.Saml.Issuer
import IdentityProvider.Proofs.Xml.Derivation
/-! Which documents are read. The tags of each must balance, around one root. The reader of trees also reads all
attributes and references, the reader of requests those of the root. All well-formed documents have such a tree,
and other documents too. -/

namespace IdentityProvider

namespace Xml

mutual

def Piece.All (attributesTest textTest : List Char → Prop) : Piece → Prop
  | .element _ attributes content => attributesTest attributes ∧ AllPieces attributesTest textTest content
  | .childless _ attributes => attributesTest attributes
  | .text raw => textTest raw
  | .cdata _ | .aside _ => True

def AllPieces (attributesTest textTest : List Char → Prop) : List Piece → Prop
  | [] => True
  | p :: ps => p.All attributesTest textTest ∧ AllPieces attributesTest textTest ps

end

def HasReferences (raw : List Char) : Prop :=
  ∃ text, Refers raw text

lemma nodesOfPieces_isOk_iff {ps : List Piece} :
    (∃ ns, nodesOfPieces ps = .ok ns) ↔ AllPieces HasLooseAttributes HasReferences ps := by
  have hcons : ∀ {p : Piece} {ps : List Piece}, (∃ ns, nodesOfPieces (p :: ps) = .ok ns) ↔
      (∃ ns, p.nodes = .ok ns) ∧ ∃ ns, nodesOfPieces ps = .ok ns := by
    intro p ps
    rw [nodesOfPieces]
    cases p.nodes <;> cases nodesOfPieces ps <;> simp [bind, Except.bind, pure, Except.pure]
  induction ps using pieces_induction with
  | nil => simp [nodesOfPieces, AllPieces]
  | element name attributes content ps ihc ih =>
    simp only [hcons, ih, AllPieces, Piece.All, ← readAttributes_isOk_iff, ← ihc, Piece.nodes]
    cases elementAttributes (readAttributes attributes) <;> cases nodesOfPieces content <;>
      simp [bind, Except.bind, pure, Except.pure]
  | childless name attributes ps ih =>
    simp only [hcons, ih, AllPieces, Piece.All, ← readAttributes_isOk_iff, Piece.nodes]
    cases elementAttributes (readAttributes attributes) <;> simp [bind, Except.bind, pure, Except.pure]
  | text raw ps ih =>
    simp only [hcons, ih, AllPieces, Piece.All, HasReferences, ← unescape_eq_some_iff, Piece.nodes]
    cases unescape? raw <;> simp
  | cdata content ps ih => simp [hcons, ih, AllPieces, Piece.All, Piece.nodes]
  | aside kind ps ih => simp [hcons, ih, AllPieces, Piece.All, Piece.nodes]

lemma allPieces_of_words {ps : List Piece} {words : List (List Char)}
    (h : List.Forall₂ Token.IsWord (tokensOfPieces ps) words) : AllPieces HasLooseAttributes HasReferences ps := by
  induction ps using pieces_induction generalizing words with
  | nil => trivial
  | element name attributes content ps ihc ih =>
    obtain ⟨tokens, others, helement, hrest, _⟩ := forall₂_append_left h
    obtain ⟨start, words, hstart, hwords, _⟩ := List.forall₂_cons_left_iff.mp helement
    obtain ⟨inside, _, hinside, _, _⟩ := forall₂_append_left hwords
    cases hstart with
    | startTag _ ha => exact ⟨⟨ha.loose, ihc hinside⟩, ih hrest⟩
  | childless name attributes ps ih =>
    obtain ⟨word, words, hword, hrest, _⟩ := List.forall₂_cons_left_iff.mp h
    cases hword with
    | emptyTag _ ha => exact ⟨ha.loose, ih hrest⟩
  | text raw ps ih =>
    obtain ⟨word, words, hword, hrest, _⟩ := List.forall₂_cons_left_iff.mp h
    cases hword with
    | text _ hr => exact ⟨hr.parsed.refers, ih hrest⟩
  | cdata content ps ih =>
    obtain ⟨_, _, _, hrest, _⟩ := List.forall₂_cons_left_iff.mp h
    exact ⟨trivial, ih hrest⟩
  | aside kind ps ih =>
    obtain ⟨_, _, _, hrest, _⟩ := List.forall₂_cons_left_iff.mp h
    exact ⟨trivial, ih hrest⟩

structure Outline (document : String) where
  pieces : List Piece
  root : Tag
  scanned : scan document.toList = tokensOfPieces pieces
  rooted : pieces.filterMap Piece.tag? = [root]

namespace Outline

variable {document : String} (o : Outline document)

def IsReadable : Prop :=
  AllPieces HasLooseAttributes HasReferences o.pieces

/-- What the reader does not ask for. Nothing but blanks and asides stands outside the root, a document type
comes once and before it, each token is spelled by its production, and all characters are of XML 1.0. -/
structure IsStandard : Prop where
  closed : ∀ p ∈ o.pieces, p.tag? = none → p.mayStandOutside = true
  declared : DeclaresOnce (tokensOfPieces o.pieces)
  spelled : ∃ words, AreWords (tokensOfPieces o.pieces) words ∧ dropByteOrderMark document.toList = words.flatten
  characters : ∀ c ∈ document.toList, isXmlChar c = true

lemma isReadable_iff : o.IsReadable ↔ ∃ e, parse document = .ok e := by
  rw [IsReadable, ← nodesOfPieces_isOk_iff]
  constructor
  · rintro ⟨ns, hns⟩
    have htags := tags_standFor hns
    rw [o.rooted, List.forall₂_cons_left_iff] at htags
    obtain ⟨e, _, _, hnone, he⟩ := htags
    rw [List.forall₂_nil_left_iff.mp hnone] at he
    exact ⟨e, (parse_of_pieces o.scanned).mpr ⟨ns, hns, he⟩⟩
  · rintro ⟨e, he⟩
    obtain ⟨ns, hns, _⟩ := (parse_of_pieces o.scanned).mp he
    exact ⟨ns, hns⟩

variable {o}

lemma IsStandard.isReadable (h : o.IsStandard) : o.IsReadable := by
  obtain ⟨words, hwords, _⟩ := h.spelled
  generalize hts : tokensOfPieces o.pieces = ts at hwords
  cases hwords with
  | plain hw =>
    subst hts
    exact allPieces_of_words hw
  | declared _ hw =>
    obtain ⟨qs, hqs, rfl⟩ := pieces_of_instruction hts
    rw [IsReadable, hqs]
    exact ⟨trivial, allPieces_of_words hw⟩

end Outline

lemma isDocument_iff {document : String} : IsDocument document.toList ↔ ∃ o : Outline document, o.IsStandard := by
  constructor
  · rintro ⟨hrooted, hcharacters⟩
    obtain ⟨ps, root, hps, hfound, hspelled⟩ := isRooted_iff.mp hrooted
    have hscanned : scan document.toList = tokensOfPieces ps := by
      have hnested := nested_pieces [] ps []
      rw [scan, hfound]
      simpa [nested] using hnested
    exact ⟨⟨ps, root, hscanned, hps.rooted⟩, hps.closed, hps.declared, hspelled, hcharacters⟩
  · rintro ⟨o, ho⟩
    have hm := pieces_not_malformed o.pieces
    rw [← o.scanned, scan] at hm
    have hfound : tokens (dropByteOrderMark document.toList) = tokensOfPieces o.pieces := by
      rw [← o.scanned, scan, nested_eq hm]
    exact ⟨isRooted_iff.mpr ⟨o.pieces, o.root, ⟨o.rooted, ho.closed, ho.declared⟩, hfound, ho.spelled⟩,
      ho.characters⟩

lemma outline_of_parse {document : String} {e : Element} (h : parse document = .ok e) :
    Nonempty (Outline document) := by
  obtain ⟨ps, ns, hps, hns, he⟩ := parse_ok_iff.mp h
  have htags := tags_standFor hns
  rw [he, List.forall₂_cons_right_iff] at htags
  obtain ⟨root, _, _, hnone, hroot⟩ := htags
  rw [List.forall₂_nil_right_iff.mp hnone] at hroot
  exact ⟨⟨ps, root, hps, hroot⟩⟩

def Element.read (document : String) : Except Failure Element :=
  (parse document).mapError fun e => .serialization e.message

lemma Element.read_isOk_iff {document : String} : (∃ e, read document = .ok e) ↔
    ∃ o : Outline document, o.IsReadable := by
  simp only [read, mapError_ok_iff]
  constructor
  · rintro ⟨e, he⟩
    obtain ⟨o⟩ := outline_of_parse he
    exact ⟨o, o.isReadable_iff.mpr ⟨e, he⟩⟩
  · rintro ⟨o, ho⟩
    exact o.isReadable_iff.mp ho

end Xml

open Xml

namespace AuthnRequest

variable {document : String} {r : AuthnRequest}

lemma Reading.root_hasLooseAttributes {o : Outline document} (R : Reading o.pieces r) :
    HasLooseAttributes o.root.attributes := by
  have hroot := R.rooted
  rw [o.rooted, List.cons.injEq] at hroot
  rw [hroot.1]
  exact readAttributes_isOk_iff.mp ⟨_, R.found⟩

lemma read_ok_iff : read document = .ok r ↔ ∃ o : Outline document, Nonempty (Reading o.pieces r) := by
  rw [read, mapError_ok_iff, parse_ok_iff]
  constructor
  · rintro ⟨ps, hps, ⟨R⟩⟩
    exact ⟨⟨ps, R.root, hps, R.rooted⟩, ⟨R⟩⟩
  · rintro ⟨o, hr⟩
    exact ⟨o.pieces, o.scanned, hr⟩

end AuthnRequest

/-- A document of which a tree is read is spelled as one root whose tags balance, with attributes and references
that can be read throughout. The well-formed documents are those among them that besides keep to the standard
where the reader does not ask for it. Of a document of which a request is read the same is known but for
attributes and references: those of the root can be read, and for the rest it is enough that the issuer and the
policies can. All other documents fail. -/
theorem read_outlines (document : String) :
    (∀ o : Outline document, ∃ words, List.Forall₂ Token.Spells (tokensOfPieces o.pieces) words ∧
      dropByteOrderMark document.toList = words.flatten) ∧
    ((∃ e, Element.read document = .ok e) ↔ ∃ o : Outline document, o.IsReadable) ∧
    (IsDocument document.toList ↔ (∃ e, Element.read document = .ok e) ∧ ∃ o : Outline document, o.IsStandard) ∧
    (∀ f, Element.read document = .error f → ∃ detail, f = .serialization detail) ∧
    (∀ r, AuthnRequest.read document = .ok r ↔
      ∃ o : Outline document, HasLooseAttributes o.root.attributes ∧ Nonempty (AuthnRequest.Reading o.pieces r)) ∧
    (∀ f, AuthnRequest.read document = .error f → ∃ detail, f = .malformedRequest detail) := by
  refine ⟨fun o => pieces_spell o.scanned, Element.read_isOk_iff, ?_, ?_, ?_, ?_⟩
  · rw [isDocument_iff]
    constructor
    · rintro ⟨o, ho⟩
      exact ⟨Element.read_isOk_iff.mpr ⟨o, ho.isReadable⟩, o, ho⟩
    · exact And.right
  · intro f hf
    obtain ⟨e, _, rfl⟩ := mapError_error_iff.mp hf
    exact ⟨e.message, rfl⟩
  · intro r
    rw [AuthnRequest.read_ok_iff]
    constructor
    · rintro ⟨o, ⟨R⟩⟩
      exact ⟨o, R.root_hasLooseAttributes, ⟨R⟩⟩
    · rintro ⟨o, _, hr⟩
      exact ⟨o, hr⟩
  · intro f hf
    obtain ⟨e, _, rfl⟩ := mapError_error_iff.mp hf
    exact ⟨e.message, rfl⟩

end IdentityProvider
