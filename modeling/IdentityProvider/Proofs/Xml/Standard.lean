import IdentityProvider.Proofs.Saml.Reading
import IdentityProvider.Proofs.Xml.Productions
import Mathlib.Data.List.Chain
/-! What the scanner finds in documents of XML 1.0: pieces of markup around one root, each spelled by its
production. -/

namespace IdentityProvider.Xml

open Text (isMarkupBlank splitWhile_append)

def Token.isText : Token → Bool
  | .text _ => true
  | _ => false

def Token.isTag : Token → Bool
  | .startTag _ _ | .emptyTag _ _ | .endTag _ => true
  | _ => false

inductive Token.IsWord : Token → List Char → Prop
  | startTag {name attributes : List Char} : IsName name → AreAttributes attributes →
      IsWord (.startTag name attributes) ('<' :: (name ++ attributes ++ ['>']))
  | emptyTag {name attributes : List Char} : IsName name → AreAttributes attributes →
      IsWord (.emptyTag name attributes) ('<' :: (name ++ attributes ++ ['/', '>']))
  | endTag {name blanks : List Char} : IsName name → blanks.all isMarkupBlank = true →
      IsWord (.endTag name) ('<' :: '/' :: (name ++ blanks ++ ['>']))
  | text {raw : List Char} : raw ≠ [] → IsCharData raw → IsWord (.text raw) raw
  | cdata {content : List Char} : ¬ "]]>".toList <:+: content →
      IsWord (.cdata content) ("<![CDATA[".toList ++ (content ++ "]]>".toList))
  | comment {word : List Char} : IsComment word → IsWord .comment word
  | instruction {word : List Char} : IsInstruction word → IsWord .instruction word
  | doctype {word : List Char} : IsDoctype word → IsWord .doctype word

/-- The words of some tokens. The first may be the XML declaration. -/
inductive AreWords : List Token → List (List Char) → Prop
  | plain {ts : List Token} {words : List (List Char)} : List.Forall₂ Token.IsWord ts words → AreWords ts words
  | declared {ts : List Token} {declaration : List Char} {words : List (List Char)} : IsDeclaration declaration →
      List.Forall₂ Token.IsWord ts words → AreWords (.instruction :: ts) (declaration :: words)

def Piece.mayStandOutside : Piece → Bool
  | .text raw => raw.all isMarkupBlank
  | .aside _ => true
  | .element _ _ _ | .childless _ _ | .cdata _ => false

def Piece.isMisc : Piece → Bool
  | .text raw => raw.all isMarkupBlank
  | .aside kind => kind ≠ .doctype
  | .element _ _ _ | .childless _ _ | .cdata _ => false

structure DeclaresOnce (ts : List Token) : Prop where
  once : (ts.takeWhile fun t => !t.isTag).count .doctype ≤ 1
  before : .doctype ∉ ts.dropWhile fun t => !t.isTag

structure AreRooted (ps : List Piece) (root : Tag) : Prop where
  rooted : ps.filterMap Piece.tag? = [root]
  closed : ∀ p ∈ ps, p.tag? = none → p.mayStandOutside = true
  declared : DeclaresOnce (tokensOfPieces ps)

lemma Token.IsWord.takes {t : Token} {word : List Char} (h : t.IsWord word) (ht : t.isText = false) :
    ∃ w, word = '<' :: w ∧ Takes readMarkup? w t := by
  cases h with
  | startTag hn ha => exact ⟨_, rfl, startTag_takes hn ha⟩
  | emptyTag hn ha => exact ⟨_, rfl, emptyTag_takes hn ha⟩
  | endTag hn hb => exact ⟨_, rfl, endTag_takes hn hb⟩
  | text => cases ht
  | cdata hc => exact ⟨_, rfl, cdata_takes hc⟩
  | comment hc =>
    cases hc with
    | mk hbody => exact ⟨_, rfl, comment_takes hbody⟩
  | instruction hi =>
    cases hi with
    | mk hn _ _ hbody => exact ⟨_, rfl, instruction_takes hn.isTagWord hbody⟩
  | doctype hd =>
    cases hd with
    | mk _ hb hn _ hbody => exact ⟨_, rfl, doctype_takes hb hn hbody⟩

lemma IsDeclared.unasked {a : RawAttribute} (h : IsDeclared a) : '?' ∉ a.value := by
  have hnot : ∀ {p : Char → Bool} {cs : List Char}, cs.all p = true → p '?' = false → '?' ∉ cs := by
    intro p cs hall hp hm
    rw [List.all_eq_true.mp hall _ hm] at hp
    cases hp
  cases h with
  | version _ hdigits =>
    rw [List.mem_append, not_or]
    exact ⟨by decide, hnot hdigits (by decide)⟩
  | encoding hc hcs =>
    rw [List.mem_cons, not_or]
    refine ⟨?_, hnot hcs (by decide)⟩
    rintro rfl
    exact absurd hc (by decide)
  | standalone hv => rcases hv with rfl | rfl <;> decide

lemma IsAttributeList.unasked {cs : List Char} {found : List RawAttribute} (h : IsAttributeList cs found)
    (hv : ∀ a ∈ found, '?' ∉ a.value) : '?' ∉ cs := by
  induction h with
  | none hb => exact blanks_not_key hb (by decide)
  | @cons before key beforeSign afterSign value rest quote found _ hbefore hkey hbeforeSign hafterSign
      hquote _ _ _ ih =>
    rw [List.forall_mem_cons] at hv
    have hq : '?' ≠ quote := by
      rcases hquote with rfl | rfl <;> decide
    simp only [List.mem_append, List.mem_cons, not_or]
    exact ⟨blanks_not_key hbefore (by decide), hkey.isTagWord.not_mem (by decide),
      blanks_not_key hbeforeSign (by decide), by decide, blanks_not_key hafterSign (by decide), hq, hv.1,
      hq, ih hv.2⟩

lemma IsDeclaration.takes {word : List Char} (h : IsDeclaration word) :
    ∃ w, word = '<' :: w ∧ Takes readMarkup? w .instruction := by
  cases h with
  | mk hlist _ _ hdeclared =>
    have hnone := hlist.unasked fun a ha => (hdeclared a ha).unasked
    have htarget : IsTagWord "xml".toList := ⟨by decide, List.all_eq_true.mp rfl⟩
    exact ⟨_, rfl, instruction_takes htarget fun hm => hnone (hm.subset (by decide))⟩

structure IsScanned (cs : List Char) (ts : List Token) : Prop where
  found : tokens cs = ts
  spelled : ∃ words, List.Forall₂ Token.IsWord ts words ∧ cs = words.flatten

lemma isScanned_nil : IsScanned [] [] :=
  ⟨by rw [tokens], [], .nil, rfl⟩

section Scanned

variable {cs : List Char} {ts : List Token}

lemma IsScanned.cons (h : IsScanned cs ts) {t : Token} {word : List Char} (hw : t.IsWord word)
    (ht : t.isText = false) :
    IsScanned (word ++ cs) (t :: ts) := by
  obtain ⟨w, rfl, htakes⟩ := hw.takes ht
  obtain ⟨words, hwords, hcs⟩ := h.spelled
  refine ⟨?_, _, .cons hw hwords, by rw [hcs, List.flatten_cons]⟩
  rw [List.cons_append, tokens_markup (htakes cs), h.found]

def textPieces (raw : List Char) : List Piece :=
  if raw = [] then [] else [.text raw]

lemma doctype_not_mem_textPieces (raw : List Char) : .doctype ∉ tokensOfPieces (textPieces raw) := by
  rw [textPieces]
  split <;> simp [tokensOfPieces, Piece.tokens]

lemma IsScanned.text (h : IsScanned cs ts) (ho : cs.head?.any (· != '<') = false) {raw : List Char}
    (hr : IsCharData raw) :
    IsScanned (raw ++ cs) (tokensOfPieces (textPieces raw) ++ ts) := by
  cases raw with
  | nil => exact h
  | cons c raw =>
    obtain ⟨words, hwords, hcs⟩ := h.spelled
    have hnone := hr.parsed.unopened
    rw [List.mem_cons, not_or] at hnone
    have hall : raw.all (· != '<') = true := Text.all_ne_of_not_mem hnone.2
    obtain ⟨htake, hdrop⟩ := splitWhile_append hall ho
    refine ⟨?_, _, .cons (.text (List.cons_ne_nil c raw) hr) hwords, by rw [hcs, List.flatten_cons]⟩
    rw [List.cons_append, tokens_literal (Ne.symm hnone.1), htake, hdrop, h.found]
    rfl

lemma opens_word {t : Token} {word : List Char} (hw : t.IsWord word) (ht : t.isText = false) (rest : List Char) :
    (word ++ rest).head?.any (· != '<') = false := by
  obtain ⟨w, rfl, _⟩ := hw.takes ht
  rfl

lemma IsContent.isScanned {inside : List Char} (h : IsContent inside) (hcs : IsScanned cs ts)
    (ho : cs.head?.any (· != '<') = false) :
    ∃ ps, .doctype ∉ tokensOfPieces ps ∧ IsScanned (inside ++ cs) (tokensOfPieces ps ++ ts) := by
  induction h generalizing cs ts with
  | @text raw hr => exact ⟨textPieces raw, doctype_not_mem_textPieces raw, hcs.text ho hr⟩
  | @markup raw word rest hr hword _ ih =>
    obtain ⟨ps, hnone, hps⟩ := ih hcs ho
    -- Whatever markup it is, it is a piece by itself.
    have hleaf : ∀ {p : Piece} {t : Token}, p.tokens = [t] → t.IsWord word → t.isText = false → t ≠ .doctype →
        ∃ ps, .doctype ∉ tokensOfPieces ps ∧ IsScanned (raw ++ (word ++ rest) ++ cs)
          (tokensOfPieces ps ++ ts) := by
      intro p t hp hw ht hd
      have hall := (hps.cons hw ht).text (opens_word hw ht _) hr
      refine ⟨textPieces raw ++ p :: ps, ?_, ?_⟩
      · simp [tokensOfPieces_append, tokensOfPieces, hp, doctype_not_mem_textPieces, Ne.symm hd, hnone]
      · simpa [tokensOfPieces_append, tokensOfPieces, hp] using hall
    rcases hword with hw | hw | hw | hw
    · cases hw with
      | @mk name attributes hn ha =>
        exact hleaf (p := .childless name attributes) rfl (.emptyTag hn ha) rfl (by simp)
    · cases hw with
      | @mk content hc => exact hleaf (p := .cdata content) rfl (.cdata hc) rfl (by simp)
    · exact hleaf (p := .aside .comment) (t := .comment) rfl (.comment hw) rfl (by simp)
    · exact hleaf (p := .aside .instruction) (t := .instruction) rfl (.instruction hw) rfl (by simp)
  | @element raw name start inside stop rest hr hstart _ hstop _ ihi ih =>
    obtain ⟨ps, hnone, hps⟩ := ih hcs ho
    cases hstop with
    | mk hn hb =>
      have hend := hps.cons (.endTag hn hb) rfl
      obtain ⟨content, hnone', hcontent⟩ := ihi hend (opens_word (.endTag hn hb) rfl _)
      cases hstart with
      | @mk attributes hn ha =>
        have hall := (hcontent.cons (.startTag hn ha) rfl).text (opens_word (.startTag hn ha) rfl _) hr
        refine ⟨textPieces raw ++ .element name attributes content :: ps, ?_, ?_⟩
        · simp [tokensOfPieces_append, tokensOfPieces, Piece.tokens, doctype_not_mem_textPieces, hnone, hnone']
        · simpa [tokensOfPieces_append, tokensOfPieces, Piece.tokens] using hall

lemma IsElement.isScanned {root : List Char} (h : IsElement root) (hcs : IsScanned cs ts) :
    ∃ (p : Piece) (tag : Tag), p.tag? = some tag ∧ .doctype ∉ p.tokens ∧ IsScanned (root ++ cs)
      (p.tokens ++ ts) := by
  cases h with
  | childless hw =>
    cases hw with
    | @mk name attributes hn ha =>
      exact ⟨.childless name attributes, _, rfl, by simp [Piece.tokens], hcs.cons (.emptyTag hn ha) rfl⟩
  | @parent name start inside stop hstart hinside hstop =>
    cases hstop with
    | mk hn hb =>
      have hend := hcs.cons (.endTag hn hb) rfl
      obtain ⟨content, hnone, hcontent⟩ := hinside.isScanned hend (opens_word (.endTag hn hb) rfl _)
      cases hstart with
      | @mk attributes hn ha =>
        have hall := hcontent.cons (.startTag hn ha) rfl
        refine ⟨.element name attributes content, _, rfl, ?_, ?_⟩
        · simp [Piece.tokens, hnone]
        · simpa [Piece.tokens] using hall

lemma isCharData_of_blanks {blanks : List Char} (h : blanks.all isMarkupBlank = true) : IsCharData blanks where
  parsed := by
    induction blanks with
    | nil => exact .nil
    | cons c cs ih =>
      rw [List.all_cons, Bool.and_eq_true] at h
      refine .literal ?_ ?_ (ih h.2) <;> (rintro rfl; exact absurd h.1 (by decide))
  unclosed := by
    intro hm
    exact blanks_not_key h (by decide : isMarkupBlank '>' = false) (hm.subset (by decide))

lemma textPieces_isMisc {blanks : List Char} (h : blanks.all isMarkupBlank = true) :
    ∀ p ∈ textPieces blanks, p.isMisc = true := by
  rw [textPieces]
  split
  · nofun
  · simpa [Piece.isMisc] using h

lemma IsMisc.isScanned {misc : List Char} (h : IsMisc misc) (hcs : IsScanned cs ts)
    (ho : cs.head?.any (· != '<') = false) :
    ∃ ps : List Piece, (∀ p ∈ ps, p.isMisc = true) ∧ IsScanned (misc ++ cs) (tokensOfPieces ps ++ ts) := by
  induction h with
  | @blanks blanks hb => exact ⟨textPieces blanks, textPieces_isMisc hb, hcs.text ho (isCharData_of_blanks hb)⟩
  | @markup blanks word rest hb hword _ ih =>
    obtain ⟨ps, hps, hrest⟩ := ih
    have haside : ∀ kind : Aside, kind.token.IsWord word → kind.token.isText = false → kind ≠ .doctype →
        ∃ ps : List Piece, (∀ p ∈ ps, p.isMisc = true) ∧
          IsScanned (blanks ++ (word ++ rest) ++ cs) (tokensOfPieces ps ++ ts) := by
      intro kind hw ht hk
      have hall := (hrest.cons hw ht).text (opens_word hw ht _) (isCharData_of_blanks hb)
      refine ⟨textPieces blanks ++ .aside kind :: ps, ?_, ?_⟩
      · intro p hp
        rcases List.mem_append.mp hp with hp | hp
        · exact textPieces_isMisc hb p hp
        rcases List.mem_cons.mp hp with rfl | hp
        · simpa [Piece.isMisc] using hk
        · exact hps p hp
      · simpa [tokensOfPieces_append, tokensOfPieces, Piece.tokens] using hall
    rcases hword with hw | hw
    · exact haside .comment (.comment hw) rfl (by simp)
    · exact haside .instruction (.instruction hw) rfl (by simp)

end Scanned

lemma Piece.isMisc_iff {p : Piece} : p.isMisc = true ↔ p.mayStandOutside = true ∧ p ≠ .aside .doctype := by
  cases p with
  | element name attributes content => simp [isMisc, mayStandOutside]
  | childless name attributes => simp [isMisc, mayStandOutside]
  | text raw => simp [isMisc, mayStandOutside]
  | cdata content => simp [isMisc, mayStandOutside]
  | aside kind => cases kind <;> simp [isMisc, mayStandOutside]

lemma Piece.tag_eq_none {p : Piece} (h : p.mayStandOutside = true) : p.tag? = none := by
  cases p with
  | element | childless | cdata => cases h
  | text | aside => rfl

lemma tokens_outside {ps : List Piece} (h : ∀ p ∈ ps, p.tag? = none) :
    (tokensOfPieces ps).all (fun t => !t.isTag) = true := by
  induction ps with
  | nil => rfl
  | cons p ps ih =>
    rw [List.forall_mem_cons] at h
    rw [tokensOfPieces, List.all_append, ih h.2, Bool.and_true]
    cases p with
    | element | childless => cases h.1
    | text | cdata => rfl
    | aside kind => cases kind <;> rfl

lemma tokens_of_tag {p : Piece} {tag : Tag} (h : p.tag? = some tag) :
    ∃ t ts, p.tokens = t :: ts ∧ t.isTag = true := by
  cases p with
  | element | childless => exact ⟨_, _, rfl, rfl⟩
  | text | cdata | aside => cases h

lemma doctype_mem_iff {ps : List Piece} (h : ∀ p ∈ ps, p.tag? = none) :
    .doctype ∈ tokensOfPieces ps ↔ .aside .doctype ∈ ps := by
  induction ps with
  | nil => simp [tokensOfPieces]
  | cons p ps ih =>
    rw [List.forall_mem_cons] at h
    rw [tokensOfPieces, List.mem_append, ih h.2, List.mem_cons]
    refine or_congr_left ?_
    cases p with
    | element | childless => cases h.1
    | text | cdata => simp [Piece.tokens]
    | aside kind => cases kind <;> simp [Piece.tokens, Aside.token]

lemma doctype_not_mem_misc {ps : List Piece} (h : ∀ p ∈ ps, p.isMisc = true) : .doctype ∉ tokensOfPieces ps := by
  rw [doctype_mem_iff fun p hp => Piece.tag_eq_none (Piece.isMisc_iff.mp (h p hp)).1]
  exact fun hm => absurd (h _ hm) (by decide)

lemma tokens_split {before after : List Piece} {p : Piece} {tag : Tag} (hb : ∀ q ∈ before, q.tag? = none)
    (hp : p.tag? = some tag) :
    (tokensOfPieces (before ++ p :: after)).takeWhile (fun t => !t.isTag) = tokensOfPieces before ∧
      (tokensOfPieces (before ++ p :: after)).dropWhile (fun t => !t.isTag) =
        p.tokens ++ tokensOfPieces after := by
  obtain ⟨t, ts, ht, htag⟩ := tokens_of_tag hp
  rw [tokensOfPieces_append, tokensOfPieces]
  apply splitWhile_append (tokens_outside hb)
  rw [ht]
  simp [htag]

lemma areRooted_iff {ps : List Piece} {root : Tag} : AreRooted ps root ↔
    ∃ before p after, ps = before ++ p :: after ∧
    p.tag? = some root ∧ .doctype ∉ p.tokens ∧ (∀ q ∈ before, q.mayStandOutside = true) ∧
    (tokensOfPieces before).count .doctype ≤ 1 ∧ ∀ q ∈ after, q.isMisc = true := by
  constructor
  · rintro ⟨hrooted, hclosed, honce, hbefore⟩
    obtain ⟨before, p, after, rfl, hb, hp, hafter⟩ := List.filterMap_eq_cons_iff.mp hrooted
    rw [List.filterMap_eq_nil_iff] at hafter
    obtain ⟨htake, hdrop⟩ := tokens_split hb hp
    rw [htake] at honce
    rw [hdrop, List.mem_append, not_or, doctype_mem_iff hafter] at hbefore
    refine ⟨before, p, after, rfl, hp, hbefore.1, ?_, honce, ?_⟩
    · intro q hq
      exact hclosed q (by simp [hq]) (hb q hq)
    · intro q hq
      refine Piece.isMisc_iff.mpr ⟨hclosed q (by simp [hq]) (hafter q hq), ?_⟩
      rintro rfl
      exact hbefore.2 hq
  · rintro ⟨before, p, after, rfl, hp, hnone, hb, honce, ha⟩
    have hb' : ∀ q ∈ before, q.tag? = none := fun q hq => Piece.tag_eq_none (hb q hq)
    have ha' : ∀ q ∈ after, q.tag? = none := fun q hq => Piece.tag_eq_none (Piece.isMisc_iff.mp (ha q hq)).1
    obtain ⟨htake, hdrop⟩ := tokens_split hb' hp
    refine ⟨List.filterMap_eq_cons_iff.mpr ⟨before, p, after, rfl, hb', hp, List.filterMap_eq_nil_iff.mpr ha'⟩, ?_,
      ?_, ?_⟩
    · intro q hq hnot
      rcases List.mem_append.mp hq with hq | hq
      · exact hb q hq
      rcases List.mem_cons.mp hq with rfl | hq
      · rw [hp] at hnot
        cases hnot
      · exact (Piece.isMisc_iff.mp (ha q hq)).1
    · rwa [htake]
    · rw [hdrop, List.mem_append, not_or, doctype_mem_iff ha']
      exact ⟨hnone, fun hm => absurd (ha _ hm) (by decide)⟩

lemma areRooted_instruction_iff {ps : List Piece} {root : Tag} :
    AreRooted (.aside .instruction :: ps) root ↔ AreRooted ps root := by
  have hdeclares : DeclaresOnce (tokensOfPieces (.aside .instruction :: ps)) ↔
    DeclaresOnce (tokensOfPieces ps) := by
    have hts : tokensOfPieces (.aside .instruction :: ps) = .instruction :: tokensOfPieces ps := rfl
    rw [hts]
    constructor
    · rintro ⟨honce, hbefore⟩
      exact ⟨by simpa [Token.isTag] using honce, by simpa [Token.isTag] using hbefore⟩
    · rintro ⟨honce, hbefore⟩
      exact ⟨by simpa [Token.isTag] using honce, by simpa [Token.isTag] using hbefore⟩
  constructor
  · rintro ⟨hrooted, hclosed, hdeclared⟩
    exact ⟨hrooted, fun p hp => hclosed p (List.mem_cons_of_mem _ hp), hdeclares.mp hdeclared⟩
  · rintro ⟨hrooted, hclosed, hdeclared⟩
    exact ⟨hrooted, List.forall_mem_cons.mpr ⟨fun _ => rfl, hclosed⟩, hdeclares.mpr hdeclared⟩

lemma IsElement.opens {root : List Char} (h : IsElement root) (rest : List Char) :
    (root ++ rest).head?.any (· != '<') = false := by
  cases h with
  | childless hw =>
    cases hw
    rfl
  | parent hstart =>
    cases hstart
    rfl

lemma IsBody.isScanned {body : List Char} (h : IsBody body) :
    ∃ ps root, AreRooted ps root ∧ IsScanned body (tokensOfPieces ps) := by
  cases h with
  | @mk before doctype root after hbefore hdoctype hroot hafter =>
    obtain ⟨psa, hpsa, hafter⟩ := hafter.isScanned isScanned_nil rfl
    obtain ⟨p, tag, hp, hnone, hroot'⟩ := hroot.isScanned hafter
    rw [List.append_nil, List.append_nil] at hroot'
    have hts : p.tokens ++ tokensOfPieces psa = tokensOfPieces (p :: psa) := rfl
    rw [hts] at hroot'
    rcases hdoctype with rfl | ⟨word, misc, hword, hmisc, rfl⟩
    · obtain ⟨psb, hpsb, hall⟩ := hbefore.isScanned hroot' (hroot.opens after)
      refine ⟨psb ++ p :: psa, tag, areRooted_iff.mpr ⟨psb, p, psa, rfl, hp, hnone, ?_, ?_, hpsa⟩, ?_⟩
      · exact fun q hq => (Piece.isMisc_iff.mp (hpsb q hq)).1
      · rw [List.count_eq_zero_of_not_mem (doctype_not_mem_misc hpsb)]
        exact Nat.zero_le 1
      · rw [tokensOfPieces_append]
        simpa using hall
    · obtain ⟨psm, hpsm, hmisc'⟩ := hmisc.isScanned hroot' (hroot.opens after)
      have hd := hmisc'.cons (.doctype hword) rfl
      obtain ⟨psb, hpsb, hall⟩ := hbefore.isScanned hd (opens_word (.doctype hword) rfl _)
      refine ⟨(psb ++ .aside .doctype :: psm) ++ p :: psa, tag,
        areRooted_iff.mpr ⟨psb ++ .aside .doctype :: psm, p, psa, rfl, hp, hnone, ?_, ?_, hpsa⟩, ?_⟩
      · intro q hq
        rcases List.mem_append.mp hq with hq | hq
        · exact (Piece.isMisc_iff.mp (hpsb q hq)).1
        rcases List.mem_cons.mp hq with rfl | hq
        · rfl
        · exact (Piece.isMisc_iff.mp (hpsm q hq)).1
      · have hb := List.count_eq_zero_of_not_mem (doctype_not_mem_misc hpsb)
        have hm := List.count_eq_zero_of_not_mem (doctype_not_mem_misc hpsm)
        simp [tokensOfPieces_append, tokensOfPieces, Piece.tokens, Aside.token, hb, hm]
      · simpa [tokensOfPieces_append, tokensOfPieces, Piece.tokens, Aside.token] using hall

end IdentityProvider.Xml
