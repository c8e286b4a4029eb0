import IdentityProvider.Proofs.Xml.Doctype
import IdentityProvider.Proofs.Xml.Grammar
/-! The productions of XML 1.0 as the scanner takes them. Whatever follows, each comes out as the token that it
stands for, with the attributes and references that it holds. -/

namespace IdentityProvider.Xml

open Text (isMarkupBlank splitWhile_append)

lemma IsName.isTagWord {cs : List Char} (h : IsName cs) : IsTagWord cs := by
  have hcolon : isTagChar ':' = true := by decide
  cases cs with
  | nil => exact h.elim
  | cons c cs =>
    refine ⟨List.cons_ne_nil c cs, ?_⟩
    rw [List.forall_mem_cons]
    constructor
    · rcases h.1 with hc | rfl
      · exact nameChar_isTagChar (nameStart_isNameChar hc)
      · exact hcolon
    · intro d hd
      rcases h.2 d hd with hd' | rfl
      · exact nameChar_isTagChar hd'
      · exact hcolon

lemma IsTagWord.not_mem {cs : List Char} (h : IsTagWord cs) {c : Char} (hc : isTagChar c = false) : c ∉ cs :=
  fun hm => tagChar_ne (h.2 c hm) hc rfl

lemma IsTagWord.not_all_blank {name cs : List Char} (h : IsTagWord name) (hs : name ⊆ cs) :
    cs.all isMarkupBlank = false := by
  obtain ⟨c, hc⟩ := List.exists_mem_of_ne_nil name h.1
  rw [List.all_eq_false]
  exact ⟨c, hs hc, by rw [tagChar_not_blank (h.2 c hc)]; decide⟩

lemma foldlM_digits {base : Nat} {digit : Char → Option Nat} {cs : List Char} {m n : Nat}
    (h : cs.foldlM (fun n d => (digit d).map (base * n + ·)) m = some n) : ∀ c ∈ cs, (digit c).isSome = true := by
  induction cs generalizing m with
  | nil => exact List.forall_mem_nil _
  | cons c cs ih =>
    rw [List.foldlM_cons] at h
    obtain ⟨next, hnext, hrest⟩ := Option.bind_eq_some_iff.mp h
    obtain ⟨v, hv, _⟩ := Option.map_eq_some_iff.mp hnext
    rw [List.forall_mem_cons]
    exact ⟨by rw [hv]; rfl, ih hrest⟩

lemma numeral_digits {base : Nat} {digit : Char → Option Nat} {cs : List Char} {n : Nat}
    (h : Text.numeral base digit cs = some n) : ∀ c ∈ cs, (digit c).isSome = true := by
  cases cs with
  | nil => cases h
  | cons c cs => exact foldlM_digits h

lemma charOfCode_toNat {c : Char} (h : isXmlChar c = true) : charOfCode? c.toNat = some c := by
  have hzero : c.toNat ≠ 0 := by
    intro hc
    rw [isXmlChar, hc] at h
    cases h
  rw [charOfCode?, dif_pos ⟨c.valid, hzero⟩]
  rfl

lemma IsReference.outside {name : List Char} (h : IsReference name) {c : Char} (hc : c ∈ ['&', ';', '<']) :
    c ∉ name := by
  have hpredefined : ∀ d ∈ ['&', ';', '<'], ∀ entity ∈ predefinedEntities, d ∉ entity := by
    simp [predefinedEntities]
  have hdigits : ∀ d ∈ ['&', ';', '<'],
      d ≠ '#' ∧ d ≠ 'x' ∧ Text.decimalValue d = none ∧ Text.hexValue d = none := by
    simp [Text.decimalValue, Text.hexValue]
  obtain ⟨hnumber, hx, hdecimal, hhex⟩ := hdigits c hc
  intro hm
  cases h with
  | entity hname => exact hpredefined c hc name hname hm
  | decimal hn =>
    rcases List.mem_cons.mp hm with he | hm
    · exact hnumber he
    · have hsome := numeral_digits hn c hm
      rw [hdecimal] at hsome
      cases hsome
  | hexadecimal hn =>
    rcases List.mem_cons.mp hm with he | hm
    · exact hnumber he
    rcases List.mem_cons.mp hm with he | hm
    · exact hx he
    · have hsome := numeral_digits hn c hm
      rw [hhex] at hsome
      cases hsome

lemma IsReference.reference {name : List Char} (h : IsReference name) : ∃ c, reference? name = some c := by
  have hpredefined : ∀ entity ∈ predefinedEntities, (reference? entity).isSome = true := by decide
  cases h with
  | entity hname => exact Option.isSome_iff_exists.mp (hpredefined name hname)
  | @decimal digits c hn hc =>
    refine ⟨c, ?_⟩
    have hbare : ∀ rest, digits ≠ 'x' :: rest := by
      rintro rest rfl
      exact absurd (numeral_digits hn 'x' List.mem_cons_self) (by decide)
    rw [reference?, hn]
    · exact charOfCode_toNat hc
    · intro rest he
      exact hbare rest he
  | @hexadecimal digits c hn hc =>
    refine ⟨c, ?_⟩
    rw [reference?, hn]
    exact charOfCode_toNat hc

lemma IsParsedData.refers {raw : List Char} (h : IsParsedData raw) : ∃ text, Refers raw text := by
  induction h with
  | nil => exact ⟨[], .nil⟩
  | literal _ hc _ ih =>
    obtain ⟨text, htext⟩ := ih
    exact ⟨_, .literal hc htext⟩
  | reference hname _ ih =>
    obtain ⟨text, htext⟩ := ih
    obtain ⟨c, hc⟩ := hname.reference
    exact ⟨_, .reference (hname.outside (by simp)) (hname.outside (by simp)) hc htext⟩

lemma IsParsedData.unopened {raw : List Char} (h : IsParsedData raw) : '<' ∉ raw := by
  induction h with
  | nil => exact List.not_mem_nil
  | literal hc _ _ ih =>
    rw [List.mem_cons, not_or]
    exact ⟨Ne.symm hc, ih⟩
  | reference hname _ ih =>
    simp only [List.mem_cons, List.mem_append, not_or]
    exact ⟨by decide, hname.outside (by simp), by decide, ih⟩

lemma IsTagText.splitTag {cs : List Char} (h : IsTagText cs) (read rest : List Char) :
    splitTag none read (cs ++ rest) = Xml.splitTag none (cs.reverse ++ read) rest := by
  induction h generalizing read with
  | nil => rfl
  | plain hgreater hquote hapostrophe _ ih =>
    rw [List.cons_append, Xml.splitTag]
    simp only [hgreater, hquote, hapostrophe, if_false, or_self]
    rw [ih]
    simp
  | @quoted quote value cs hquote hvalue _ ih =>
    have hgreater : quote ≠ '>' := by
      rcases hquote with rfl | rfl <;> decide
    rw [List.cons_append, Xml.splitTag]
    simp only [hgreater, if_false, if_pos hquote]
    rw [List.append_assoc, List.cons_append, splitTag_quoted hvalue, ih]
    simp

lemma IsTagText.append_plain {cs rest : List Char} (h : ∀ c ∈ cs, c ≠ '>' ∧ c ≠ '"' ∧ c ≠ '\'')
    (hr : IsTagText rest) : IsTagText (cs ++ rest) := by
  induction cs with
  | nil => exact hr
  | cons c cs ih =>
    rw [List.forall_mem_cons] at h
    exact .plain h.1.1 h.1.2.1 h.1.2.2 (ih h.2)

lemma blanks_unquoted {cs : List Char} (h : cs.all isMarkupBlank = true) :
    ∀ c ∈ cs, c ≠ '>' ∧ c ≠ '"' ∧ c ≠ '\'' := by
  intro c hc
  have hb := List.all_eq_true.mp h c hc
  refine ⟨?_, ?_, ?_⟩ <;> (rintro rfl; exact absurd hb (by decide))

lemma blanks_not_key {cs : List Char} (h : cs.all isMarkupBlank = true) {c : Char} (hc : isMarkupBlank c = false) :
    c ∉ cs := by
  intro hm
  rw [List.all_eq_true.mp h c hm] at hc
  cases hc

section Attributes

variable {cs : List Char} {found : List RawAttribute}

lemma IsAttributeList.isTagText (h : IsAttributeList cs found) {after : List Char} (ha : IsTagText after) :
    IsTagText (cs ++ after) := by
  induction h with
  | none hb => exact ha.append_plain (blanks_unquoted hb)
  | @cons before key beforeSign afterSign value rest quote found _ hbefore hkey hbeforeSign hafterSign hquote
      hvalue _ _ ih =>
    have hsign : IsTagText ('=' :: (afterSign ++ quote :: (value ++ quote :: (rest ++ after)))) :=
      .plain (by decide) (by decide) (by decide)
        (.append_plain (blanks_unquoted hafterSign) (.quoted hquote hvalue ih))
    have hall := hsign.append_plain (blanks_unquoted hbeforeSign)
    have hall' := (hall.append_plain (tagWord_unquoted hkey.isTagWord)).append_plain (blanks_unquoted hbefore)
    simpa using hall'

lemma blanks_head {blanks : List Char} (hne : blanks ≠ []) (hb : blanks.all isMarkupBlank = true)
    (rest : List Char) : (blanks ++ rest).head?.any (fun c => !isMarkupBlank c) = false := by
  cases blanks with
  | nil => exact absurd rfl hne
  | cons b blanks =>
    rw [List.all_cons, Bool.and_eq_true] at hb
    simp [hb.1]

lemma IsAttributeList.opens (h : IsAttributeList cs found) : cs.head?.any (fun c => !isMarkupBlank c) = false := by
  cases h with
  | none hb =>
    by_cases hne : cs = []
    · rw [hne]
      rfl
    · rw [← List.append_nil cs]
      exact blanks_head hne hb []
  | cons hne hb => exact blanks_head hne hb _

lemma IsAttributeList.getLast_ne (h : IsAttributeList cs found) {name : List Char} (hn : IsTagWord name) :
    (name ++ cs).getLast? ≠ some '/' := by
  have hslash : ∀ {ds : List Char}, '/' ∉ ds → ds.getLast? ≠ some '/' := fun hd hl => hd (List.mem_of_getLast? hl)
  have hname : name.getLast? ≠ some '/' := hslash (hn.not_mem (by decide))
  have hlist : cs.getLast? ≠ some '/' := by
    induction h with
    | none hb => exact hslash (blanks_not_key hb (by decide))
    | @cons before key beforeSign afterSign value rest quote found _ _ _ _ _ hquote _ _ _ ih =>
      have hlast : (before ++
        (key ++ (beforeSign ++ '=' :: (afterSign ++ quote :: (value ++ quote :: rest))))).getLast? =
          some (rest.getLast?.getD quote) := by
        simp [List.getLast?_append, List.getLast?_cons]
      rw [hlast]
      cases hr : rest.getLast? with
      | none => rcases hquote with rfl | rfl <;> decide
      | some c =>
        rw [hr] at ih
        exact ih
  rw [List.getLast?_append]
  cases hc : cs.getLast? with
  | none => exact hname
  | some c =>
    rw [hc] at hlist
    exact hlist

lemma IsAttributeList.loose (h : IsAttributeList cs found) :
    LooseAttributes cs found ∧ ∀ a ∈ found, ∃ text, Refers a.value text := by
  induction h with
  | none hb => exact ⟨.none hb, nofun⟩
  | @cons before key beforeSign afterSign value rest quote found _ hbefore hkey hbeforeSign hafterSign hquote
      hvalue hdata _ ih =>
    obtain ⟨hne, hchars⟩ := hkey.isTagWord
    cases key with
    | nil => exact absurd rfl hne
    | cons k key =>
      rw [List.forall_mem_cons] at hchars
      have hkeyChars : key.all isKeyChar = true :=
        List.all_eq_true.mpr fun c hc => tagChar_isKeyChar (hchars.2 c hc)
      refine ⟨.cons ?_ ih.1, List.forall_mem_cons.mpr ⟨hdata.refers, ih.2⟩⟩
      exact .mk rest hbefore (tagChar_not_blank hchars.1) hkeyChars hbeforeSign hafterSign hquote hvalue

lemma AreAttributes.loose (h : AreAttributes cs) : HasLooseAttributes cs := by
  obtain ⟨found, hfound, hn⟩ := h
  exact ⟨found, hfound.loose.1, hn, hfound.loose.2⟩

end Attributes

section Tags

variable {name attributes : List Char}

lemma IsTagText.splits {tag : List Char} (h : IsTagText tag) (rest : List Char) :
    Xml.splitTag none [] (tag ++ '>' :: rest) = some (tag, rest) := by
  rw [h.splitTag, Xml.splitTag]
  simp

lemma name_split (hn : IsTagWord name) (ha : attributes.head?.any (fun c => !isMarkupBlank c) = false) :
    tagName (name ++ attributes) = name ∧ tagAttributes (name ++ attributes) = attributes := by
  have hall : name.all (fun c => !isMarkupBlank c) = true := by
    rw [List.all_eq_true]
    intro c hc
    rw [tagChar_not_blank (hn.2 c hc), Bool.not_false]
  exact splitWhile_append hall ha

lemma readMarkup_word (hn : IsTagWord name) (cs : List Char) :
    readMarkup? (name ++ cs) = readStartTag? (name ++ cs) := by
  obtain ⟨hne, hchars⟩ := hn
  cases name with
  | nil => exact absurd rfl hne
  | cons c name =>
    have hc := hchars c List.mem_cons_self
    exact readMarkup_tag (tagChar_ne hc (by decide)) (tagChar_ne hc (by decide)) (tagChar_ne hc (by decide)) _

lemma startTag_takes (hn : IsName name) (ha : AreAttributes attributes) :
    Takes readMarkup? (name ++ attributes ++ ['>']) (.startTag name attributes) := by
  obtain ⟨found, hfound, _⟩ := ha
  obtain ⟨hname, hattributes⟩ := name_split hn.isTagWord hfound.opens
  have htag : IsTagText (name ++ (attributes ++ [])) :=
    (hfound.isTagText .nil).append_plain (tagWord_unquoted hn.isTagWord)
  rw [List.append_nil] at htag
  intro rest
  rw [List.append_assoc, List.singleton_append, List.append_assoc, readMarkup_word hn.isTagWord,
    ← List.append_assoc, readStartTag?, htag.splits, Option.map_some]
  dsimp only
  rw [if_neg (hfound.getLast_ne hn.isTagWord), hname, hattributes]

lemma emptyTag_takes (hn : IsName name) (ha : AreAttributes attributes) :
    Takes readMarkup? (name ++ attributes ++ ['/', '>']) (.emptyTag name attributes) := by
  obtain ⟨found, hfound, _⟩ := ha
  obtain ⟨hname, hattributes⟩ := name_split hn.isTagWord hfound.opens
  have hslash : IsTagText ['/'] := .plain (by decide) (by decide) (by decide) .nil
  have htag := (hfound.isTagText hslash).append_plain (tagWord_unquoted hn.isTagWord)
  intro rest
  have hword : name ++ attributes ++ ['/', '>'] ++ rest = name ++ (attributes ++ ['/']) ++ '>' :: rest := by simp
  rw [hword, List.append_assoc, readMarkup_word hn.isTagWord, ← List.append_assoc, readStartTag?, htag.splits,
    Option.map_some]
  dsimp only
  rw [← List.append_assoc, List.getLast?_concat, if_pos rfl, List.dropLast_concat, hname, hattributes]

lemma endTag_takes {blanks : List Char} (hn : IsName name) (hb : blanks.all isMarkupBlank = true) :
    Takes readMarkup? ('/' :: (name ++ blanks ++ ['>'])) (.endTag name) := by
  obtain ⟨hne, hchars⟩ := hn.isTagWord
  have htag : IsTagText (name ++ (blanks ++ [])) :=
    .append_plain (tagWord_unquoted hn.isTagWord) (.append_plain (blanks_unquoted hb) .nil)
  rw [List.append_nil] at htag
  have hall := hn.isTagWord.not_all_blank (List.subset_append_left name blanks)
  have hreverse : (name ++ blanks).reverse.dropWhile isMarkupBlank = name.reverse := by
    rw [List.reverse_append]
    refine (splitWhile_append (by rwa [List.all_reverse]) ?_).2
    cases hr : name.reverse with
    | nil => exact absurd (List.reverse_eq_nil_iff.mp hr) hne
    | cons c cs =>
      have hc : c ∈ name := by
        rw [← List.mem_reverse, hr]
        exact List.mem_cons_self
      exact tagChar_not_blank (hchars c hc)
  intro rest
  rw [List.cons_append, readMarkup?, List.append_assoc, List.singleton_append, htag.splits, Option.map_some]
  dsimp only
  rw [endTagName, hall, if_neg Bool.false_ne_true, hreverse, List.reverse_reverse]

end Tags

lemma not_infix_append {opening inner : List Char} (ho : '>' ∉ opening) (h : ¬ opening ++ ['>'] <:+: inner) :
    ¬ opening ++ ['>'] <:+: inner ++ opening := by
  rintro ⟨before, after, he⟩
  rcases List.append_eq_append_iff.mp he with ⟨rest, hinner, _⟩ | ⟨rest, hstart, hopening⟩
  · exact h ⟨before, rest, hinner.symm⟩
  · rcases List.eq_nil_or_concat rest with rfl | ⟨init, last, rfl⟩
    · rw [List.append_nil] at hstart
      exact h ⟨before, [], by rw [List.append_nil, hstart]⟩
    · rw [List.concat_eq_append, ← List.append_assoc, ← List.append_assoc] at hstart
      obtain ⟨_, hlast⟩ := List.append_inj' hstart rfl
      rw [List.singleton_inj] at hlast
      rw [← hlast] at hopening
      exact ho (by rw [hopening]; simp)

lemma splitAtMarker_onto {opening inner : List Char} (h : ¬ opening ++ ['>'] <:+: inner ++ opening)
    (read rest : List Char) :
    splitAtMarker (opening ++ ['>']) read (inner ++ (opening ++ ['>']) ++ rest) =
      some (read.reverse ++ inner, rest) := by
  induction inner generalizing read with
  | nil =>
    obtain ⟨m, marker, hm⟩ :=
      List.exists_cons_of_ne_nil (List.append_ne_nil_of_right_ne_nil opening (List.cons_ne_nil '>' []))
    rw [List.nil_append, hm, List.cons_append, splitAtMarker, ← List.cons_append,
      if_pos (List.isPrefixOf_iff_prefix.mpr (List.prefix_append _ rest)), List.drop_left, List.append_nil]
  | cons c inner ih =>
    rw [List.cons_append, List.infix_cons_iff, not_or] at h
    rw [List.cons_append, List.cons_append, splitAtMarker, if_neg, ih h.2]
    · simp
    · rw [List.isPrefixOf_iff_prefix]
      intro hprefix
      have hlonger : c :: (inner ++ opening) <+: c :: (inner ++ (opening ++ ['>']) ++ rest) :=
        ⟨'>' :: rest, by simp⟩
      exact h.1 (List.prefix_of_prefix_length_le hprefix hlonger (by simp))

lemma takes_to_marker {opening inner : List Char} (ho : '>' ∉ opening) (h : ¬ opening ++ ['>'] <:+: inner) :
    Takes (splitAtMarker (opening ++ ['>']) []) (inner ++ (opening ++ ['>'])) inner :=
  splitAtMarker_onto (not_infix_append ho h) []

lemma not_infix_append_of_head {c : Char} {marker before cs : List Char} (hb : c ∉ before)
    (h : ¬ c :: marker <:+: cs) :
    ¬ c :: marker <:+: before ++ cs := by
  induction before with
  | nil => exact h
  | cons b before ih =>
    rw [List.mem_cons, not_or] at hb
    rw [List.cons_append, List.infix_cons_iff, not_or]
    refine ⟨?_, ih hb.2⟩
    rintro ⟨after, he⟩
    exact hb.1 (List.cons.inj he).1

lemma cdata_takes {content : List Char} (h : ¬ "]]>".toList <:+: content) :
    Takes readMarkup? ("![CDATA[".toList ++ (content ++ "]]>".toList)) (.cdata content) := by
  have hopen : ∀ cs, stripMarker? "--".toList ("[CDATA[".toList ++ cs) = none := fun _ => rfl
  have hend : Takes (splitAtMarker "]]>".toList []) (content ++ "]]>".toList) content :=
    takes_to_marker (by decide : '>' ∉ "]]".toList) h
  have hread : Takes readDeclaration? ("[CDATA[".toList ++ (content ++ "]]>".toList)) (.cdata content) := by
    intro rest
    rw [List.append_assoc, readDeclaration?, stripMarker_append, hopen]
    dsimp only
    rw [hend rest]
    rfl
  exact hread

lemma comment_takes {body : List Char} (h : ¬ "--".toList <:+: body) :
    Takes readMarkup? ("!--".toList ++ (body ++ "-->".toList)) .comment := by
  have hbody : ¬ "--".toList ++ ['>'] <:+: body := fun hm => h (List.IsInfix.trans ⟨[], ['>'], rfl⟩ hm)
  have hend : Takes (splitAtMarker "-->".toList []) (body ++ "-->".toList) body :=
    takes_to_marker (by decide) hbody
  have hread : Takes readDeclaration? ("--".toList ++ (body ++ "-->".toList)) .comment := by
    intro rest
    rw [List.append_assoc, readDeclaration?, stripMarker_append]
    dsimp only
    rw [hend rest]
    rfl
  exact hread

lemma instruction_takes {target body : List Char} (ht : IsTagWord target) (h : ¬ "?>".toList <:+: body) :
    Takes readMarkup? ('?' :: (target ++ body ++ "?>".toList)) .instruction := by
  have hbody : ¬ ['?'] ++ ['>'] <:+: target ++ body := not_infix_append_of_head (ht.not_mem (by decide)) h
  have hend : Takes (splitAtMarker "?>".toList []) (target ++ body ++ "?>".toList) (target ++ body) :=
    takes_to_marker (by decide) hbody
  have hread : Takes readInstruction? (target ++ body ++ "?>".toList) .instruction := by
    intro rest
    have hopen : ¬ (target ++ body ++ "?>".toList ++ rest).head? = some '>' := by
      obtain ⟨hne, hchars⟩ := ht
      cases target with
      | nil => exact absurd rfl hne
      | cons c target =>
        intro he
        exact tagChar_ne (hchars c List.mem_cons_self) (by decide : isTagChar '>' = false) (Option.some.inj he)
    rw [readInstruction?, if_neg hopen, hend rest]
    rfl
  exact hread

lemma splitDoctype_cons (depth : Nat) (read : List Char) (c : Char) (cs : List Char) :
    splitDoctype depth read (c :: cs) =
    if c = '>' then
      match depth with
      | 0 => some (read.reverse, cs)
      | d + 1 => splitDoctype d (c :: read) cs
    else splitDoctype (if c = '<' then depth + 1 else depth) (c :: read) cs := by
  cases depth <;> rfl

lemma IsPaired.splitDoctype {cs : List Char} (h : IsPaired cs) (depth : Nat) (read rest : List Char) :
    splitDoctype depth read (cs ++ rest) = Xml.splitDoctype depth (cs.reverse ++ read) rest := by
  induction h generalizing depth read rest with
  | nil => rfl
  | plain hopen hclose _ ih =>
    rw [List.cons_append, splitDoctype_cons, if_neg hclose, if_neg hopen, ih]
    simp
  | pair _ _ ihi ih =>
    rw [List.cons_append, splitDoctype_cons, if_neg (by decide), if_pos rfl, List.append_assoc,
      List.cons_append, ihi, splitDoctype_cons, if_pos rfl]
    dsimp only
    rw [ih]
    simp

lemma IsPaired.append_plain {cs rest : List Char} (h : ∀ c ∈ cs, c ≠ '<' ∧ c ≠ '>') (hr : IsPaired rest) :
    IsPaired (cs ++ rest) := by
  induction cs with
  | nil => exact hr
  | cons c cs ih =>
    rw [List.forall_mem_cons] at h
    exact .plain h.1.1 h.1.2 (ih h.2)

lemma isDoctype_of_name {blanks name body : List Char} (hn : IsTagWord name) :
    isDoctype ("DOCTYPE".toList ++ (blanks ++ (name ++ body))) = true := by
  have hsome : (blanks ++ (name ++ body)).all isMarkupBlank = false := by
    apply hn.not_all_blank
    intro c hc
    simp [hc]
  have hdrop : ("DOCTYPE".toList ++ (blanks ++ (name ++ body))).drop 7 = blanks ++ (name ++ body) := rfl
  have htake : ("DOCTYPE".toList ++ (blanks ++ (name ++ body))).take 7 = "DOCTYPE".toList := rfl
  rw [isDoctype, hdrop, htake, hsome]
  rfl

lemma doctype_takes {blanks name body : List Char} (hb : blanks.all isMarkupBlank = true) (hn : IsName name)
    (hbody : IsPaired body) :
    Takes readMarkup? ("!DOCTYPE".toList ++ (blanks ++ name ++ body ++ ['>'])) .doctype := by
  have hname : IsPaired (name ++ body) := by
    apply hbody.append_plain
    intro c hc
    have htag := hn.isTagWord.2 c hc
    exact ⟨tagChar_ne htag (by decide), tagChar_ne htag (by decide)⟩
  have hblanks : IsPaired (blanks ++ (name ++ body)) := by
    apply hname.append_plain
    intro c hc
    exact ⟨fun he => blanks_not_key hb (by decide) (he ▸ hc), fun he => blanks_not_key hb (by decide) (he ▸ hc)⟩
  have hall : IsPaired ("DOCTYPE".toList ++ (blanks ++ (name ++ body))) := hblanks.append_plain (by simp)
  have hread : Takes readDeclaration? ("DOCTYPE".toList ++ (blanks ++ name ++ body ++ ['>'])) .doctype := by
    intro rest
    have hcomment : ∀ cs, stripMarker? "--".toList ("DOCTYPE".toList ++ cs) = none := fun _ => rfl
    have hcdata : ∀ cs, stripMarker? "[CDATA[".toList ("DOCTYPE".toList ++ cs) = none := fun _ => rfl
    have hword : "DOCTYPE".toList ++ (blanks ++ name ++ body ++ ['>']) ++ rest =
        "DOCTYPE".toList ++ (blanks ++ (name ++ body)) ++ '>' :: rest := by simp
    have hsplit : splitDoctype 0 [] ("DOCTYPE".toList ++ (blanks ++ (name ++ body)) ++ '>' :: rest) =
        some ("DOCTYPE".toList ++ (blanks ++ (name ++ body)), rest) := by
      rw [hall.splitDoctype, splitDoctype_cons, if_pos rfl]
      simp
    rw [hword, readDeclaration?, hsplit, List.append_assoc, hcomment, hcdata]
    dsimp only
    rw [Option.bind_some, if_pos (isDoctype_of_name hn.isTagWord)]
  exact hread

end IdentityProvider.Xml
