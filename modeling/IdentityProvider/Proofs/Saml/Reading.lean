import IdentityProvider.Proofs.Xml.Nesting
import IdentityProvider.Saml.Request
/-! What is read of a request, whatever the markup that it stands in. -/

namespace IdentityProvider

namespace Xml

structure Tag where
  name : List Char
  attributes : List Char
  content : List Piece

def Tag.localName (t : Tag) : String :=
  localPart (String.ofList t.name)

def Piece.tag? : Piece → Option Tag
  | .element name attributes content => some ⟨name, attributes, content⟩
  | .childless name attributes => some ⟨name, attributes, []⟩
  | .text _ | .cdata _ | .aside _ => none

def Tag.children (t : Tag) : List Tag :=
  t.content.filterMap Piece.tag?

def Tag.named (t : Tag) (name : String) : List Tag :=
  t.children.filter fun c => c.localName == name

end Xml

namespace AuthnRequest

open Xml

/-- What is heard of an issuer: texts without the blanks around each, and sections as they are, up to the first
end tag. That may be the end tag of an element inside. -/
def heard : List Piece → Option (List Char)
  | [] => some []
  | .element _ _ content :: _ => heard content
  | .childless _ _ :: ps => heard ps
  | .text raw :: ps => do
    let first ← unescape? (Text.trimBoth Text.isMarkupBlank raw)
    let others ← heard ps
    return first ++ others
  | .cdata content :: ps => (heard ps).map (content ++ ·)
  | .aside _ :: ps => heard ps

namespace Draft

variable {request : Option AuthnRequest} {issuer : Option (List Char)}

lemma step_startTag_deep (depth : Nat) (inIssuer : Bool) (name attributes : List Char) :
    step ⟨request, issuer, depth + 2, inIssuer⟩ (.startTag name attributes) =
      .ok ⟨request, issuer, depth + 3, inIssuer⟩ := rfl

lemma step_aside (d : Draft) (kind : Aside) : d.step kind.token = .ok d := by
  cases kind <;> rfl

lemma pass_deep (ps : List Piece) (depth : Nat) :
    (tokensOfPieces ps).foldlM step ⟨request, issuer, depth + 2, false⟩ =
      .ok ⟨request, issuer, depth + 2, false⟩ := by
  induction ps using pieces_induction generalizing depth with
  | nil => rfl
  | element name attributes content ps ihc ih =>
    have hend : step ⟨request, issuer, depth + 3, false⟩ (.endTag name) =
      .ok ⟨request, issuer, depth + 2, false⟩ := rfl
    simp only [tokensOfPieces, Piece.tokens, List.cons_append, List.append_assoc, List.nil_append]
    rw [foldlM_cons_ok (step_startTag_deep depth false name attributes), foldlM_append_ok (ihc (depth + 1)),
      foldlM_cons_ok hend, ih]
  | childless name attributes ps ih => exact ih depth
  | text raw ps ih => exact ih depth
  | cdata content ps ih => exact ih depth
  | aside kind ps ih =>
    simp only [tokensOfPieces, Piece.tokens, List.cons_append, List.nil_append]
    rw [foldlM_cons_ok (step_aside _ kind), ih]

lemma listen (ps : List Piece) (text : List Char) (depth : Nat) (name : List Char) (ts : List Token) :
    (tokensOfPieces ps ++ .endTag name :: ts).foldlM step ⟨request, some text, depth + 2, true⟩ =
      match heard ps with
      | some more => ts.foldlM step ⟨request, some (text ++ more), depth + 1, false⟩
      | none => .error (.document .badText) := by
  induction ps using pieces_induction generalizing text depth name ts with
  | nil =>
    simp only [tokensOfPieces, heard, List.nil_append, List.append_nil]
    exact foldlM_cons_ok rfl ts
  | element name' attributes content ps ihc ih =>
    simp only [tokensOfPieces, Piece.tokens, heard, List.cons_append, List.append_assoc, List.nil_append]
    rw [foldlM_cons_ok (step_startTag_deep depth true name' attributes), ihc]
    cases heard content with
    | none => rfl
    | some more =>
      -- The end tag of the inner element has ended the listening, so that the rest goes by unheard.
      dsimp only
      rw [foldlM_append_ok (pass_deep ps depth)]
      exact foldlM_cons_ok rfl ts
  | childless name' attributes ps ih =>
    simp only [tokensOfPieces, Piece.tokens, heard, List.cons_append, List.nil_append]
    exact (foldlM_cons_ok rfl _).trans (ih text depth name ts)
  | text raw ps ih =>
    simp only [tokensOfPieces, Piece.tokens, heard, List.cons_append, List.nil_append, List.foldlM_cons,
      step, if_true]
    cases unescape? (Text.trimBoth Text.isMarkupBlank raw) with
    | none => rfl
    | some first =>
      simp only [bind, Except.bind, Option.bind, append, Option.getD_some, ih]
      cases heard ps <;> simp
  | cdata content ps ih =>
    simp only [tokensOfPieces, Piece.tokens, heard, List.cons_append, List.nil_append, List.foldlM_cons,
      step, if_true]
    simp only [bind, Except.bind, append, Option.getD_some, ih]
    cases heard ps <;> simp
  | aside kind ps ih =>
    simp only [tokensOfPieces, Piece.tokens, heard, List.cons_append, List.nil_append]
    rw [foldlM_cons_ok (step_aside _ kind), ih]

def readTag (d : Draft) (t : Tag) : Except RequestError Draft :=
  if t.localName = "Issuer" then
    if d.issuer.isSome then .error .multipleIssuers
    else
      match heard t.content with
      | some text => .ok { d with issuer := some text }
      | none => .error (.document .badText)
  else if t.localName = "NameIDPolicy" then
    match attributeValue? (readAttributes t.attributes) "Format" with
    | .ok format => .ok { d with request := d.request.map fun r => { r with nameIdFormat := format } }
    | .error e => .error (.document e)
  else .ok d

lemma read_child (p : Piece) : p.tokens.foldlM step ⟨request, issuer, 1, false⟩ =
    p.tag?.toList.foldlM readTag ⟨request, issuer, 1, false⟩ := by
  cases p with
  | element name attributes content =>
    simp only [Piece.tokens, Piece.tag?, Option.toList_some, List.foldlM_cons, List.foldlM_nil, step,
      enter, readTag, Tag.localName]
    by_cases hissuer : localPart (String.ofList name) = "Issuer"
    · simp only [hissuer, if_true]
      cases issuer with
      | some text => rfl
      | none =>
        simp only [Option.isSome_none, Bool.false_eq_true, if_false, bind, Except.bind, pure, Except.pure]
        rw [listen content [] 0 name []]
        cases heard content <;> rfl
    · have hskip : ∀ request : Option AuthnRequest, (tokensOfPieces content ++ [Token.endTag name]).foldlM step
          ⟨request, issuer, 2, false⟩ = .ok ⟨request, issuer, 1, false⟩ :=
        fun request => (foldlM_append_ok (pass_deep content 0) _).trans (foldlM_cons_ok rfl [])
      simp only [hissuer, if_false]
      by_cases hpolicy : localPart (String.ofList name) = "NameIDPolicy"
      · simp only [hpolicy, if_true]
        cases attributeValue? (readAttributes attributes) "Format" with
        | error e => rfl
        | ok format => exact hskip _
      · simp only [hpolicy, if_false]
        exact hskip _
  | childless name attributes =>
    simp only [Piece.tokens, Piece.tag?, Option.toList_some, List.foldlM_cons, List.foldlM_nil, step,
      enter, readTag, Tag.localName, heard]
    rfl
  | text raw => rfl
  | cdata content => rfl
  | aside kind => cases kind <;> rfl

lemma readTag_ok {d d' : Draft} {t : Tag} (h : d.readTag t = .ok d') :
    d' = ⟨d'.request, d'.issuer, d.depth, d.inIssuer⟩ := by
  rw [readTag] at h
  split_ifs at h
  · split at h
    · cases h
      rfl
    · cases h
  · split at h
    · cases h
      rfl
    · cases h
  · cases h
    rfl

lemma read_children (ps : List Piece) : (tokensOfPieces ps).foldlM step ⟨request, issuer, 1, false⟩ =
    (ps.filterMap Piece.tag?).foldlM readTag ⟨request, issuer, 1, false⟩ := by
  induction ps generalizing request issuer with
  | nil => rfl
  | cons p ps ih =>
    rw [tokensOfPieces, List.foldlM_append, read_child]
    cases ht : p.tag? with
    | none => simpa [ht] using ih
    | some t =>
      rw [List.filterMap_cons_some ht, List.foldlM_cons]
      simp only [Option.toList_some, List.foldlM_cons, List.foldlM_nil, bind_pure]
      cases hr : readTag ⟨request, issuer, 1, false⟩ t with
      | error e => rfl
      | ok d =>
        rw [readTag_ok hr]
        exact ih

def withFormats (r : AuthnRequest) (formats : List (Option String)) : AuthnRequest :=
  { r with nameIdFormat := formats.getLast?.getD r.nameIdFormat }

lemma withFormats_cons (r : AuthnRequest) (format : Option String) (formats : List (Option String)) :
    withFormats { r with nameIdFormat := format } formats = withFormats r (format :: formats) := by
  simp [withFormats, List.getLast?_cons]

def AreFormats (policies : List Tag) (formats : List (Option String)) : Prop :=
  List.Forall₂ (fun t format => attributeValue? (readAttributes t.attributes) "Format" = .ok format)
    policies formats

def AreHeard (issuers : List Tag) (texts : List (List Char)) : Prop :=
  List.Forall₂ (fun t text => heard t.content = some text) issuers texts

lemma readTag_issuer {t : Tag} (ht : t.localName = "Issuer") {d : Draft} :
    readTag ⟨request, issuer, 1, false⟩ t = .ok d ↔
      issuer = none ∧ ∃ text, heard t.content = some text ∧ d = ⟨request, some text, 1, false⟩ := by
  rw [readTag, if_pos ht]
  cases issuer with
  | some text => simp
  | none => cases heard t.content <;> simp [eq_comm]

lemma readTag_policy {t : Tag} (ht : t.localName = "NameIDPolicy") {d : Draft} :
    readTag ⟨request, issuer, 1, false⟩ t = .ok d ↔
      ∃ format, attributeValue? (readAttributes t.attributes) "Format" = .ok format ∧
        d = ⟨request.map fun r => { r with nameIdFormat := format }, issuer, 1, false⟩ := by
  rw [readTag, if_neg (by simp [ht]), if_pos ht]
  cases attributeValue? (readAttributes t.attributes) "Format" <;> simp [eq_comm]

lemma readTag_other {t : Tag} (hi : t.localName ≠ "Issuer") (hp : t.localName ≠ "NameIDPolicy") (d : Draft) :
    d.readTag t = .ok d := by
  rw [readTag, if_neg hi, if_neg hp]

lemma readTags_ok_iff {ts : List Tag} {d : Draft} : ts.foldlM readTag ⟨request, issuer, 1, false⟩ = .ok d ↔
    ∃ texts formats issuer', AreHeard (ts.filter fun t => t.localName == "Issuer") texts ∧
      AreFormats (ts.filter fun t => t.localName == "NameIDPolicy") formats ∧
      issuer.toList ++ texts = issuer'.toList ∧ d = ⟨request.map (withFormats · formats), issuer', 1, false⟩ := by
  induction ts generalizing request issuer with
  | nil =>
    constructor
    · intro h
      cases h
      exact ⟨[], [], issuer, .nil, .nil, by simp, by cases request <;> rfl⟩
    · rintro ⟨texts, formats, issuer', ht, hf, hi, rfl⟩
      cases ht
      cases hf
      rw [List.append_nil] at hi
      rw [eq_of_toList_eq hi]
      cases request <;> rfl
  | cons t ts ih =>
    rw [List.foldlM_cons, bind_ok_iff]
    by_cases hissuer : t.localName = "Issuer"
    · rw [List.filter_cons_of_pos (by simpa using hissuer), List.filter_cons_of_neg (by simp [hissuer])]
      simp only [readTag_issuer hissuer]
      constructor
      · rintro ⟨_, ⟨rfl, text, hheard, rfl⟩, hrest⟩
        obtain ⟨texts, formats, issuer', ht, hf, hi, rfl⟩ := ih.mp hrest
        exact ⟨text :: texts, formats, issuer', .cons hheard ht, hf, hi, rfl⟩
      · rintro ⟨_, formats, issuer', ht, hf, hi, rfl⟩
        cases ht with
        | @cons _ text _ texts hheard ht =>
          cases issuer with
          | some first => exact absurd hi not_two_eq_toList
          | none => exact ⟨_, ⟨rfl, text, hheard, rfl⟩, ih.mpr ⟨texts, formats, issuer', ht, hf, hi, rfl⟩⟩
    · rw [List.filter_cons_of_neg (by simpa using hissuer)]
      by_cases hpolicy : t.localName = "NameIDPolicy"
      · rw [List.filter_cons_of_pos (by simpa using hpolicy)]
        simp only [readTag_policy hpolicy]
        have hcons : ∀ format formats, (request.map fun r => { r with nameIdFormat := format }).map
          (withFormats · formats) =
            request.map (withFormats · (format :: formats)) := by
          intro format formats
          cases request with
          | none => rfl
          | some r => exact congrArg some (withFormats_cons r format formats)
        constructor
        · rintro ⟨_, ⟨format, hformat, rfl⟩, hrest⟩
          obtain ⟨texts, formats, issuer', ht, hf, hi, rfl⟩ := ih.mp hrest
          exact ⟨texts, format :: formats, issuer', ht, .cons hformat hf, hi, by rw [hcons]⟩
        · rintro ⟨texts, _, issuer', ht, hf, hi, rfl⟩
          cases hf with
          | @cons _ format _ formats hformat hf =>
            exact ⟨_, ⟨format, hformat, rfl⟩, ih.mpr ⟨texts, formats, issuer', ht, hf, hi, by rw [hcons]⟩⟩
      · rw [List.filter_cons_of_neg (by simpa using hpolicy)]
        simp only [readTag_other hissuer hpolicy, Except.ok.injEq, exists_eq_left']
        exact ih

/-! ### The root -/

def IsRead (t : Tag) (d : Draft) : Prop :=
  t.localName = "AuthnRequest" ∧ ∃ attributes, elementAttributes (readAttributes t.attributes) = .ok attributes ∧
    ∃ d', t.children.foldlM readTag ⟨some (ofRootAttributes attributes), none, 1, false⟩ = .ok d' ∧
      d = ⟨d'.request, d'.issuer, 0, false⟩

lemma IsRead.state {t : Tag} {d : Draft} (h : IsRead t d) : ∃ r text, d = ⟨some r, text, 0, false⟩ := by
  obtain ⟨_, attributes, _, d', hd', rfl⟩ := h
  obtain ⟨_, _, text, _, _, _, rfl⟩ := readTags_ok_iff.mp hd'
  exact ⟨_, text, rfl⟩

lemma enter_root (name attributes : List Char) (hasContent : Bool) {d : Draft} :
    enter ⟨none, none, 0, false⟩ name attributes hasContent = .ok d ↔
      localPart (String.ofList name) = "AuthnRequest" ∧
        ∃ found, elementAttributes (readAttributes attributes) = .ok found ∧
        d = ⟨some (ofRootAttributes found), none, 0, false⟩ := by
  simp only [enter, Option.isSome_none, Bool.false_eq_true, if_false]
  by_cases hname : localPart (String.ofList name) = "AuthnRequest"
  · simp only [hname, ne_eq, not_true_eq_false, if_false, true_and]
    cases elementAttributes (readAttributes attributes) <;> simp [eq_comm]
  · simp [hname]

lemma read_root (p : Piece) {d : Draft} : p.tokens.foldlM step ⟨none, none, 0, false⟩ = .ok d ↔
    (p.tag? = none ∧ d = ⟨none, none, 0, false⟩) ∨ ∃ t, p.tag? = some t ∧ IsRead t d := by
  cases p with
  | element name attributes content =>
    simp only [Piece.tag?, reduceCtorEq, false_and, false_or, Option.some.injEq, exists_eq_left', IsRead,
      Tag.localName, Tag.children]
    rw [Piece.tokens, List.foldlM_cons, bind_ok_iff]
    constructor
    · rintro ⟨d₁, hstart, hrest⟩
      obtain ⟨d₂, henter, hd₁⟩ := bind_ok_iff.mp hstart
      obtain ⟨hname, found, hfound, rfl⟩ := (enter_root _ _ _).mp henter
      cases hd₁
      rw [List.foldlM_append, read_children, bind_ok_iff] at hrest
      obtain ⟨d', hchildren, hend⟩ := hrest
      refine ⟨hname, found, hfound, d', hchildren, ?_⟩
      obtain ⟨_, _, _, _, _, _, rfl⟩ := readTags_ok_iff.mp hchildren
      cases hend
      rfl
    · rintro ⟨hname, found, hfound, d', hchildren, rfl⟩
      refine ⟨_, bind_ok_iff.mpr ⟨_, (enter_root _ _ _).mpr ⟨hname, found, hfound, rfl⟩, rfl⟩, ?_⟩
      rw [List.foldlM_append, read_children, bind_ok_iff]
      refine ⟨d', hchildren, ?_⟩
      obtain ⟨_, _, _, _, _, _, rfl⟩ := readTags_ok_iff.mp hchildren
      rfl
  | childless name attributes =>
    simp only [Piece.tag?, reduceCtorEq, false_and, false_or, Option.some.injEq, exists_eq_left', IsRead,
      Tag.localName, Tag.children]
    rw [Piece.tokens, List.foldlM_cons, bind_ok_iff]
    constructor
    · rintro ⟨d₁, henter, hd⟩
      obtain ⟨hname, found, hfound, rfl⟩ := (enter_root _ _ false).mp henter
      cases hd
      exact ⟨hname, found, hfound, _, rfl, rfl⟩
    · rintro ⟨hname, found, hfound, d', hchildren, rfl⟩
      cases hchildren
      exact ⟨_, (enter_root _ _ false).mpr ⟨hname, found, hfound, rfl⟩, rfl⟩
  | text raw => simp [Piece.tag?, Piece.tokens, step, bind, Except.bind, pure, Except.pure, eq_comm]
  | cdata content => simp [Piece.tag?, Piece.tokens, step, bind, Except.bind, pure, Except.pure, eq_comm]
  | aside kind => simp [Piece.tag?, Piece.tokens, step_aside, bind, Except.bind, pure, Except.pure, eq_comm]

lemma read_after_root (p : Piece) (r : AuthnRequest) {d : Draft} :
    p.tokens.foldlM step ⟨some r, issuer, 0, false⟩ = .ok d ↔ p.tag? = none ∧ d = ⟨some r, issuer, 0, false⟩ := by
  cases p with
  | element name attributes content =>
    simp [Piece.tag?, Piece.tokens, List.foldlM_cons, step, enter, bind, Except.bind]
  | childless name attributes => simp [Piece.tag?, Piece.tokens, List.foldlM_cons, step, enter, bind, Except.bind]
  | text raw => simp [Piece.tag?, Piece.tokens, step, bind, Except.bind, pure, Except.pure, eq_comm]
  | cdata content => simp [Piece.tag?, Piece.tokens, step, bind, Except.bind, pure, Except.pure, eq_comm]
  | aside kind => simp [Piece.tag?, Piece.tokens, step_aside, bind, Except.bind, pure, Except.pure, eq_comm]

lemma read_all_after_root (ps : List Piece) (r : AuthnRequest) {d : Draft} :
    (tokensOfPieces ps).foldlM step ⟨some r, issuer, 0, false⟩ = .ok d ↔
      ps.filterMap Piece.tag? = [] ∧ d = ⟨some r, issuer, 0, false⟩ := by
  induction ps with
  | nil => simp [tokensOfPieces, pure, Except.pure, eq_comm]
  | cons p ps ih =>
    rw [tokensOfPieces, List.foldlM_append, bind_ok_iff]
    simp only [read_after_root]
    cases ht : p.tag? with
    | none => simp [List.filterMap_cons_none ht, ih]
    | some t => simp [List.filterMap_cons_some ht]

lemma read_all (ps : List Piece) {d : Draft} : (tokensOfPieces ps).foldlM step ⟨none, none, 0, false⟩ = .ok d ↔
    (ps.filterMap Piece.tag? = [] ∧ d = ⟨none, none, 0, false⟩) ∨ ∃ t, ps.filterMap Piece.tag? = [t] ∧
      IsRead t d := by
  induction ps with
  | nil => simp [tokensOfPieces, pure, Except.pure, eq_comm]
  | cons p ps ih =>
    rw [tokensOfPieces, List.foldlM_append, bind_ok_iff]
    simp only [read_root]
    cases ht : p.tag? with
    | none => simp [List.filterMap_cons_none ht, ih]
    | some t =>
      simp only [List.filterMap_cons_some ht, reduceCtorEq, false_and, false_or, Option.some.injEq,
        exists_eq_left', List.cons.injEq]
      constructor
      · rintro ⟨d₁, hread, hrest⟩
        obtain ⟨r, text, rfl⟩ := hread.state
        obtain ⟨hnone, rfl⟩ := (read_all_after_root ps r).mp hrest
        exact ⟨t, ⟨rfl, hnone⟩, hread⟩
      · rintro ⟨_, ⟨rfl, hnone⟩, hread⟩
        obtain ⟨r, text, rfl⟩ := hread.state
        exact ⟨_, hread, (read_all_after_root ps r).mpr ⟨hnone, rfl⟩⟩

lemma finish_ok_iff {request r : AuthnRequest} : finish ⟨some request, issuer, 0, false⟩ = .ok r ↔
    request.id ≠ "" ∧ ∃ text, issuer = some text ∧ Text.trimBoth Text.isBlank text ≠ [] ∧
      r = { request with issuer := String.ofList (Text.trimBoth Text.isBlank text) } := by
  simp only [finish, ne_eq, not_true_eq_false, if_false]
  by_cases hid : request.id = ""
  · simp [hid]
  · have he : request.id.isEmpty = false := by simpa using hid
    simp only [he, Bool.false_eq_true, if_false, hid, not_false_eq_true, true_and]
    cases issuer with
    | none => simp [Text.trimBoth_nil]
    | some text =>
      simp only [Option.getD_some, Option.some.injEq, exists_eq_left']
      split
      · rename_i ht
        simp [ht]
      · rename_i ht
        constructor
        · intro h
          cases h
          exact ⟨ht, rfl⟩
        · rintro ⟨_, rfl⟩
          rfl

lemma areHeard_singleton {issuers : List Tag} {text : List Char} :
    AreHeard issuers [text] ↔ ∃ t, issuers = [t] ∧ heard t.content = some text := by
  constructor
  · intro h
    cases h with
    | cons ht hs =>
      cases hs
      exact ⟨_, rfl, ht⟩
  · rintro ⟨t, rfl, ht⟩
    exact .cons ht .nil

end Draft

structure Reading (ps : List Piece) (r : AuthnRequest) where
  root : Tag
  attributes : List Attribute
  issuer : Tag
  text : List Char
  formats : List (Option String)
  rooted : ps.filterMap Piece.tag? = [root]
  named : root.localName = "AuthnRequest"
  found : elementAttributes (readAttributes root.attributes) = .ok attributes
  identified : (ofRootAttributes attributes).id ≠ ""
  issued : root.named "Issuer" = [issuer]
  hears : heard issuer.content = some text
  said : Text.trimBoth Text.isBlank text ≠ []
  policed : Draft.AreFormats (root.named "NameIDPolicy") formats
  request_eq : r =
    { ofRootAttributes attributes with
      issuer := String.ofList (Text.trimBoth Text.isBlank text), nameIdFormat := formats.getLast?.join }

lemma nameIdFormat_withAttribute (r : AuthnRequest) (key value : String) :
    (r.withAttribute key value).nameIdFormat = r.nameIdFormat := by
  unfold withAttribute
  split <;> rfl

lemma nameIdFormat_ofRootAttributes (attributes : List Attribute) :
    (ofRootAttributes attributes).nameIdFormat = none := by
  have hfold : ∀ r : AuthnRequest,
      (attributes.foldl (fun r a => r.withAttribute a.1 a.2) r).nameIdFormat = r.nameIdFormat := by
    intro r
    induction attributes generalizing r with
    | nil => rfl
    | cons a attributes ih => rw [List.foldl_cons, ih, nameIdFormat_withAttribute]
  exact hfold _

lemma getD_none_eq_join {α : Type} (o : Option (Option α)) : o.getD none = o.join := by
  cases o <;> rfl

lemma parse_of_pieces {document : String} {ps : List Piece} (h : scan document.toList = tokensOfPieces ps)
    {r : AuthnRequest} :
    parse document = .ok r ↔ Nonempty (Reading ps r) := by
  rw [parse, bind_ok_iff, h]
  constructor
  · rintro ⟨d, hd, hf⟩
    rcases (Draft.read_all ps).mp hd with ⟨_, rfl⟩ | ⟨root, hroot, hname, attributes, hfound, d', hd', rfl⟩
    · cases hf
    · obtain ⟨texts, formats, issuer', ht, hp, hi, rfl⟩ := Draft.readTags_ok_iff.mp hd'
      obtain ⟨hid, text, rfl, hsaid, rfl⟩ := Draft.finish_ok_iff.mp hf
      rw [Option.toList_none, List.nil_append, Option.toList_some] at hi
      subst hi
      obtain ⟨issuer, hissued, hheard⟩ := Draft.areHeard_singleton.mp ht
      exact ⟨⟨root, attributes, issuer, text, formats, hroot, hname, hfound, hid, hissued, hheard, hsaid, hp, by
        simp only [Draft.withFormats, nameIdFormat_ofRootAttributes, getD_none_eq_join]⟩⟩
  · rintro ⟨R⟩
    have hheard := Draft.areHeard_singleton.mpr ⟨R.issuer, R.issued, R.hears⟩
    have hread : R.root.children.foldlM Draft.readTag
        ⟨some (ofRootAttributes R.attributes), none, 1, false⟩ = .ok _ :=
      Draft.readTags_ok_iff.mpr ⟨[R.text], R.formats, some R.text, hheard, R.policed, rfl, rfl⟩
    have hroot := (Draft.read_all ps).mpr
      (Or.inr ⟨R.root, R.rooted, R.named, R.attributes, R.found, _, hread, rfl⟩)
    refine ⟨_, hroot, ?_⟩
    rw [Option.map_some, Draft.finish_ok_iff]
    refine ⟨R.identified, R.text, rfl, R.said, R.request_eq.trans ?_⟩
    simp only [Draft.withFormats, nameIdFormat_ofRootAttributes, getD_none_eq_join]

lemma Draft.enter_depth {d e : Draft} {name attributes : List Char} {hasContent : Bool}
    (h : d.enter name attributes hasContent = .ok e) : e.depth = d.depth := by
  simp only [enter] at h
  split at h
  · split_ifs at h
    split at h
    · cases h
      rfl
    · cases h
  · split_ifs at h
    · cases h
      rfl
    · split at h
      · cases h
        rfl
      · cases h
    · cases h
      rfl
  · cases h
    rfl

lemma draft_countsDepth : CountsDepth Draft.step Draft.depth := by
  intro d t d' h
  cases t with
  | startTag name attributes =>
    obtain ⟨e, _, hd⟩ := bind_ok_iff.mp h
    cases hd
    exact ⟨nofun, rfl⟩
  | emptyTag name attributes => exact ⟨nofun, Draft.enter_depth h⟩
  | endTag name =>
    simp only [Draft.step] at h
    split_ifs at h
    cases h
    exact ⟨nofun, rfl⟩
  | text raw =>
    simp only [Draft.step] at h
    split_ifs at h
    · split at h
      · cases h
        exact ⟨nofun, rfl⟩
      · cases h
    · cases h
      exact ⟨nofun, rfl⟩
  | cdata content =>
    cases h
    refine ⟨nofun, ?_⟩
    split_ifs <;> rfl
  | comment | instruction | doctype =>
    cases h
    exact ⟨nofun, rfl⟩
  | malformed => cases h

lemma scan_of_parse {document : String} {r : AuthnRequest} (h : parse document = .ok r) :
    ∃ ps, scan document.toList = tokensOfPieces ps := by
  obtain ⟨d, hd, hf⟩ := bind_ok_iff.mp h
  have hdepth : d.depth = 0 := by
    rw [Draft.finish] at hf
    split_ifs at hf with hd
    exact not_not.mp hd
  exact draft_countsDepth.pieces hd rfl hdepth

theorem parse_ok_iff {document : String} {r : AuthnRequest} :
    parse document = .ok r ↔ ∃ ps, scan document.toList = tokensOfPieces ps ∧ Nonempty (Reading ps r) := by
  constructor
  · intro h
    obtain ⟨ps, hps⟩ := scan_of_parse h
    exact ⟨ps, hps, (parse_of_pieces hps).mp h⟩
  · rintro ⟨ps, hps, hr⟩
    exact (parse_of_pieces hps).mpr hr

end AuthnRequest

end IdentityProvider
