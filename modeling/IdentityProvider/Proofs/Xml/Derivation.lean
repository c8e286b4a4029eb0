import IdentityProvider.Proofs.Xml.Standard
/-! The way back from the pieces of a document, each spelled by its production, to the productions of XML 1.0. -/

namespace IdentityProvider.Xml

open Text (isMarkupBlank)

lemma forall₂_append_left {α β : Type} {R : α → β → Prop} {xs ys : List α} {zs : List β}
    (h : List.Forall₂ R (xs ++ ys) zs) :
    ∃ us vs, List.Forall₂ R xs us ∧ List.Forall₂ R ys vs ∧ zs = us ++ vs := by
  have hus := (List.forall₂_take_append zs xs ys h.flip).flip
  have hvs := (List.forall₂_drop_append zs xs ys h.flip).flip
  exact ⟨_, _, hus, hvs, (List.take_append_drop xs.length zs).symm⟩

/-- The scanner makes one text of what stands between two pieces of markup. -/
def Token.Apart (s t : Token) : Prop :=
  ¬ (s.isText = true ∧ t.isText = true)

lemma readMarkup_not_text {cs rest : List Char} {t : Token} (h : readMarkup? cs = some (t, rest)) :
    t.isText = false := by
  obtain ⟨word, hword, hspells⟩ := readMarkup_spells h
  cases hspells with
  | text hne hnone =>
    cases word with
    | nil => exact absurd rfl hne
    | cons c word =>
      rw [List.cons_append, List.cons.injEq] at hword
      exact absurd (hword.1 ▸ List.mem_cons_self) hnone
  | startTag | emptyTag | endTag | cdata | comment | instruction | doctype => rfl

lemma tokens_opened (cs : List Char) : ∀ t ∈ (tokens ('<' :: cs)).head?, t.isText = false := by
  cases h : readMarkup? cs with
  | none =>
    rw [tokens_unreadable h]
    simp [Token.isText]
  | some read =>
    rw [tokens_markup h]
    simpa using readMarkup_not_text h

lemma tokens_apart (cs : List Char) : (tokens cs).IsChain Token.Apart := by
  induction hn : cs.length using Nat.strongRecOn generalizing cs with
  | ind n ih =>
    cases cs with
    | nil =>
      rw [tokens]
      exact .nil
    | cons c cs =>
      rw [List.length_cons] at hn
      by_cases hc : c = '<'
      · subst hc
        cases h : readMarkup? cs with
        | none =>
          rw [tokens_unreadable h]
          exact .singleton _
        | some read =>
          have hlength := length_le_of_readMarkup? h
          rw [tokens_markup h, List.isChain_cons]
          refine ⟨fun t _ hboth => ?_, ih _ (by omega) _ rfl⟩
          rw [readMarkup_not_text h] at hboth
          cases hboth.1
      · have hlength := length_dropWhile_le (· != '<') cs
        rw [tokens_literal hc, List.isChain_cons]
        refine ⟨?_, ih _ (by omega) _ rfl⟩
        intro t ht hboth
        cases hd : cs.dropWhile (· != '<') with
        | nil =>
          rw [hd, tokens] at ht
          cases ht
        | cons d rest =>
          have hopen : d = '<' := by simpa using (Text.dropWhile_eq_cons hd).2
          subst hopen
          rw [hd] at ht
          rw [tokens_opened rest t ht] at hboth
          cases hboth.2

lemma isCharData_nil : IsCharData [] :=
  isCharData_of_blanks rfl

/-- Text that comes before pieces may be put before their words, unless these begin with text themselves. -/
lemma isContent_of_words {ps : List Piece} (hd : .doctype ∉ tokensOfPieces ps)
    (ha : (tokensOfPieces ps).IsChain Token.Apart) {words : List (List Char)}
    (hw : List.Forall₂ Token.IsWord (tokensOfPieces ps) words) {raw : List Char} (hr : IsCharData raw)
    (ho : raw = [] ∨ ∀ t ∈ (tokensOfPieces ps).head?, t.isText = false) : IsContent (raw ++ words.flatten) := by
  induction ps using pieces_induction generalizing words raw with
  | nil =>
    cases hw
    simpa using IsContent.text hr
  | element name attributes content ps ihc ih =>
    simp only [tokensOfPieces, Piece.tokens, List.cons_append, List.append_assoc, List.mem_cons, List.mem_append,
      List.nil_append, not_or] at hd ha hw
    obtain ⟨start, words, hstart, hws, rfl⟩ := List.forall₂_cons_left_iff.mp hw
    obtain ⟨inside, others, hinside, hothers, rfl⟩ := forall₂_append_left hws
    obtain ⟨stop, words, hstop, hrest, rfl⟩ := List.forall₂_cons_left_iff.mp hothers
    have hcontent := ihc hd.2.1 ha.tail.left_of_append hinside isCharData_nil (.inl rfl)
    have hafter := ih hd.2.2.2 ha.tail.right_of_append.tail hrest isCharData_nil (.inl rfl)
    cases hstart with
    | startTag hn hattributes =>
      cases hstop with
      | endTag _ hb =>
        have hall := IsContent.element hr (.mk hn hattributes) hcontent (.mk hn hb) hafter
        simpa using hall
  | childless name attributes ps ih =>
    simp only [tokensOfPieces, Piece.tokens, List.singleton_append, List.mem_cons, not_or] at hd ha hw
    obtain ⟨word, words, hword, hws, rfl⟩ := List.forall₂_cons_left_iff.mp hw
    have hrest := ih hd.2 ha.tail hws isCharData_nil (.inl rfl)
    cases hword with
    | emptyTag hn hattributes => exact .markup hr (.inl (.mk hn hattributes)) hrest
  | text run ps ih =>
    simp only [tokensOfPieces, Piece.tokens, List.singleton_append, List.mem_cons, not_or] at hd ha hw ho
    obtain ⟨word, words, hword, hws, rfl⟩ := List.forall₂_cons_left_iff.mp hw
    have hraw : raw = [] := ho.resolve_right fun h => by cases h _ rfl
    cases hword with
    | text _ hrun =>
      rw [hraw]
      refine ih hd.2 ha.tail hws hrun (.inr ?_)
      intro t ht
      rw [List.isChain_cons] at ha
      by_contra hn
      exact ha.1 t ht ⟨rfl, by simpa using hn⟩
  | cdata content ps ih =>
    simp only [tokensOfPieces, Piece.tokens, List.singleton_append, List.mem_cons, not_or] at hd ha hw
    obtain ⟨word, words, hword, hws, rfl⟩ := List.forall₂_cons_left_iff.mp hw
    have hrest := ih hd.2 ha.tail hws isCharData_nil (.inl rfl)
    cases hword with
    | cdata hc => exact .markup hr (.inr (.inl (.mk hc))) hrest
  | aside kind ps ih =>
    simp only [tokensOfPieces, Piece.tokens, List.singleton_append, List.mem_cons, not_or] at hd ha hw
    obtain ⟨word, words, hword, hws, rfl⟩ := List.forall₂_cons_left_iff.mp hw
    have hrest := ih hd.2 ha.tail hws isCharData_nil (.inl rfl)
    cases kind with
    | comment =>
      cases hword with
      | comment hc => exact .markup hr (.inr (.inr (.inl hc))) hrest
    | instruction =>
      cases hword with
      | instruction hi => exact .markup hr (.inr (.inr (.inr hi))) hrest
    | doctype => exact absurd rfl hd.1

lemma isElement_of_words {p : Piece} {tag : Tag} (hp : p.tag? = some tag) (hd : .doctype ∉ p.tokens)
    (ha : p.tokens.IsChain Token.Apart) {words : List (List Char)}
    (hw : List.Forall₂ Token.IsWord p.tokens words) :
    IsElement words.flatten := by
  cases p with
  | text | cdata | aside => cases hp
  | childless name attributes =>
    obtain ⟨word, words, hword, hws, rfl⟩ := List.forall₂_cons_left_iff.mp hw
    cases hws
    cases hword with
    | emptyTag hn hattributes => simpa using IsElement.childless (.mk hn hattributes)
  | element name attributes content =>
    simp only [Piece.tokens, List.mem_cons, List.mem_append, not_or] at hd ha hw
    obtain ⟨start, words, hstart, hws, rfl⟩ := List.forall₂_cons_left_iff.mp hw
    obtain ⟨inside, others, hinside, hothers, rfl⟩ := forall₂_append_left hws
    obtain ⟨stop, words, hstop, hrest, rfl⟩ := List.forall₂_cons_left_iff.mp hothers
    cases hrest
    have hcontent := isContent_of_words hd.2.1 ha.tail.left_of_append hinside isCharData_nil (.inl rfl)
    cases hstart with
    | startTag hn hattributes =>
      cases hstop with
      | endTag _ hb => simpa using IsElement.parent (.mk hn hattributes) hcontent (.mk hn hb)

lemma IsMisc.after_blanks {blanks misc : List Char} (hb : blanks.all isMarkupBlank = true) (h : IsMisc misc) :
    IsMisc (blanks ++ misc) := by
  cases h with
  | blanks hb' => exact .blanks (by rw [List.all_append, hb, hb']; rfl)
  | markup hb' hword hrest =>
    rw [← List.append_assoc]
    exact .markup (by rw [List.all_append, hb, hb']; rfl) hword hrest

lemma isMisc_of_words {ps : List Piece} (h : ∀ p ∈ ps, p.isMisc = true) {words : List (List Char)}
    (hw : List.Forall₂ Token.IsWord (tokensOfPieces ps) words) : IsMisc words.flatten := by
  induction ps generalizing words with
  | nil =>
    cases hw
    exact .blanks rfl
  | cons p ps ih =>
    rw [List.forall_mem_cons] at h
    cases p with
    | element | childless | cdata => cases h.1
    | text raw =>
      simp only [tokensOfPieces, Piece.tokens, List.singleton_append] at hw
      obtain ⟨word, words, hword, hws, rfl⟩ := List.forall₂_cons_left_iff.mp hw
      cases hword with
      | text => exact (ih h.2 hws).after_blanks h.1
    | aside kind =>
      simp only [tokensOfPieces, Piece.tokens, List.singleton_append] at hw
      obtain ⟨word, words, hword, hws, rfl⟩ := List.forall₂_cons_left_iff.mp hw
      have haside : IsComment word ∨ IsInstruction word := by
        cases kind with
        | comment =>
          cases hword with
          | comment hc => exact .inl hc
        | instruction =>
          cases hword with
          | instruction hi => exact .inr hi
        | doctype => cases h.1
      exact .markup (List.all_nil : ([] : List Char).all isMarkupBlank = true) haside (ih h.2 hws)

lemma prolog_of_words {ps : List Piece} (h : ∀ p ∈ ps, p.mayStandOutside = true)
    (honce : (tokensOfPieces ps).count .doctype ≤ 1) {words : List (List Char)}
    (hw : List.Forall₂ Token.IsWord (tokensOfPieces ps) words) :
    ∃ before doctype, words.flatten = before ++ doctype ∧ IsMisc before ∧
      (doctype = [] ∨ ∃ word misc, IsDoctype word ∧ IsMisc misc ∧ doctype = word ++ misc) := by
  have hmisc : ∀ {qs : List Piece}, (∀ q ∈ qs, q ∈ ps) → (tokensOfPieces qs).count .doctype = 0 →
      ∀ q ∈ qs, q.isMisc = true := by
    intro qs hqs hnone q hq
    rw [List.count_eq_zero, doctype_mem_iff fun q hq => Piece.tag_eq_none (h q (hqs q hq))] at hnone
    exact Piece.isMisc_iff.mpr ⟨h q (hqs q hq), fun he => hnone (he ▸ hq)⟩
  by_cases hdoctype : .aside .doctype ∈ ps
  · obtain ⟨front, back, rfl⟩ := List.append_of_mem hdoctype
    have hts : tokensOfPieces (front ++ .aside .doctype :: back) =
        tokensOfPieces front ++ .doctype :: tokensOfPieces back := tokensOfPieces_append _ _
    rw [hts] at hw
    rw [hts, List.count_append, List.count_cons_self] at honce
    obtain ⟨fronts, others, hfront, hothers, rfl⟩ := forall₂_append_left hw
    obtain ⟨word, backs, hword, hback, rfl⟩ := List.forall₂_cons_left_iff.mp hothers
    have hfront' := isMisc_of_words (hmisc (fun q hq => List.mem_append_left _ hq) (by omega)) hfront
    have hback' := isMisc_of_words
      (hmisc (fun q hq => List.mem_append_right _ (List.mem_cons_of_mem _ hq)) (by omega)) hback
    cases hword with
    | doctype hd =>
      exact ⟨_, _, by rw [List.flatten_append, List.flatten_cons], hfront', .inr ⟨_, _, hd, hback', rfl⟩⟩
  · have hnone : (tokensOfPieces ps).count .doctype = 0 := by
      rwa [List.count_eq_zero, doctype_mem_iff fun q hq => Piece.tag_eq_none (h q hq)]
    exact ⟨_, [], (List.append_nil _).symm, isMisc_of_words (hmisc (fun _ hq => hq) hnone) hw, .inl rfl⟩

lemma AreRooted.isBody {ps : List Piece} {root : Tag} (h : AreRooted ps root)
    (ha : (tokensOfPieces ps).IsChain Token.Apart) {words : List (List Char)}
    (hw : List.Forall₂ Token.IsWord (tokensOfPieces ps) words) : IsBody words.flatten := by
  obtain ⟨before, p, after, rfl, hp, hnone, hb, honce, hafter⟩ := areRooted_iff.mp h
  rw [tokensOfPieces_append, tokensOfPieces] at ha hw
  obtain ⟨befores, others, hbefore, hothers, rfl⟩ := forall₂_append_left hw
  obtain ⟨elements, afters, helement, hafters, rfl⟩ := forall₂_append_left hothers
  obtain ⟨misc, doctype, hprolog, hmisc, hdoctype⟩ := prolog_of_words hb honce hbefore
  have hroot := isElement_of_words hp hnone ha.right_of_append.left_of_append helement
  rw [List.flatten_append, List.flatten_append, hprolog, List.append_assoc]
  exact .mk hmisc hdoctype hroot (isMisc_of_words hafter hafters)

section Marked

variable {text : List Char}

lemma blanks_unmarked {blanks : List Char} (hb : blanks.all isMarkupBlank = true)
    (ht : text.head? ≠ some '\uFEFF') :
    (blanks ++ text).head? ≠ some '\uFEFF' := by
  cases blanks with
  | nil => exact ht
  | cons c blanks =>
    rw [List.all_cons, Bool.and_eq_true] at hb
    intro he
    rw [Option.some.inj he] at hb
    exact absurd hb.1 (by decide)

lemma IsMisc.unmarked {misc : List Char} (h : IsMisc misc) (ht : text.head? ≠ some '\uFEFF') :
    (misc ++ text).head? ≠ some '\uFEFF' := by
  cases h with
  | blanks hb => exact blanks_unmarked hb ht
  | markup hb hword _ =>
    rw [List.append_assoc]
    apply blanks_unmarked hb
    rcases hword with hw | hw <;> (cases hw; simp)

lemma IsBody.unmarked (h : IsBody text) : text.head? ≠ some '\uFEFF' := by
  cases h with
  | mk hbefore hdoctype hroot _ =>
    apply hbefore.unmarked
    rcases hdoctype with rfl | ⟨word, misc, hword, _, rfl⟩
    · cases hroot with
      | childless hw =>
        cases hw
        simp
      | parent hstart =>
        cases hstart
        simp
    · cases hword
      simp

lemma dropByteOrderMark_append {mark : List Char} (hm : mark = [] ∨ mark = ['\uFEFF'])
    (ht : text.head? ≠ some '\uFEFF') : dropByteOrderMark (mark ++ text) = text := by
  rcases hm with rfl | rfl
  · exact if_neg ht
  · rfl

lemma exists_mark (text : List Char) :
    ∃ mark, (mark = [] ∨ mark = ['\uFEFF']) ∧ text = mark ++ dropByteOrderMark text := by
  rw [dropByteOrderMark]
  split
  · rename_i hhead
    cases text with
    | nil => cases hhead
    | cons c text =>
      cases hhead
      exact ⟨_, .inr rfl, rfl⟩
  · exact ⟨[], .inl rfl, rfl⟩

end Marked

lemma pieces_of_instruction {ps : List Piece} {ts : List Token} (h : tokensOfPieces ps = .instruction :: ts) :
    ∃ qs, ps = .aside .instruction :: qs ∧ tokensOfPieces qs = ts := by
  cases ps with
  | nil => cases h
  | cons p qs =>
    cases p with
    | element | childless | text | cdata => cases h
    | aside kind =>
      rw [tokensOfPieces, Piece.tokens, List.singleton_append, List.cons.injEq] at h
      cases kind with
      | comment | doctype => cases h.1
      | instruction => exact ⟨qs, rfl, h.2⟩

lemma isRooted_iff {document : List Char} : IsRooted document ↔ ∃ ps root, AreRooted ps root ∧
    tokens (dropByteOrderMark document) = tokensOfPieces ps ∧
    ∃ words, AreWords (tokensOfPieces ps) words ∧ dropByteOrderMark document = words.flatten := by
  constructor
  · rintro @⟨mark, declaration, body, hmark, hdeclaration, hbody⟩
    obtain ⟨ps, root, hps, hscanned⟩ := hbody.isScanned
    obtain ⟨words, hwords, hflat⟩ := hscanned.spelled
    have hunmarked : (declaration ++ body).head? ≠ some '\uFEFF' := by
      rcases hdeclaration with rfl | hd
      · exact hbody.unmarked
      · cases hd
        simp
    rw [dropByteOrderMark_append hmark hunmarked]
    rcases hdeclaration with rfl | hd
    · exact ⟨ps, root, hps, hscanned.found, words, .plain hwords, hflat⟩
    · refine ⟨.aside .instruction :: ps, root, areRooted_instruction_iff.mpr hps, ?_, declaration :: words,
        .declared hd hwords, by rw [hflat, List.flatten_cons]⟩
      obtain ⟨w, rfl, htakes⟩ := hd.takes
      rw [List.cons_append, tokens_markup (htakes body), hscanned.found]
      rfl
  · rintro ⟨ps, root, hps, hfound, words, hwords, hflat⟩
    have happart := tokens_apart (dropByteOrderMark document)
    rw [hfound] at happart
    obtain ⟨mark, hmark, hdocument⟩ := exists_mark document
    rw [hdocument, hflat]
    generalize hts : tokensOfPieces ps = ts at hwords happart
    cases hwords with
    | plain hw =>
      subst hts
      have hplain : ([] : List Char) = [] ∨ IsDeclaration [] := .inl rfl
      exact IsRooted.mk hmark hplain (hps.isBody happart hw)
    | declared hd hw =>
      obtain ⟨qs, rfl, rfl⟩ := pieces_of_instruction hts
      exact .mk hmark (.inr hd) ((areRooted_instruction_iff.mp hps).isBody happart.tail hw)

end IdentityProvider.Xml
