import IdentityProvider.Proofs.Xml.Size
/-! What a document declares is of no consequence. With an empty comment in the place of each document type
declaration, whatever entities it declares, the document has the same markup but for that comment, and is read
alike. -/

namespace IdentityProvider.Xml

open String (utf8Len utf8Len_cons utf8Len_append)

def Takes {α : Type} (read : List Char → Option (α × List Char)) (word : List Char) (a : α) : Prop :=
  ∀ rest, read (word ++ rest) = some (a, rest)

lemma splitTag_takes {quote : Option Char} {read cs tag rest : List Char}
    (h : splitTag quote read cs = some (tag, rest)) :
    ∃ word, cs = word ++ rest ∧ word ≠ [] ∧ Takes (splitTag quote read) word tag := by
  fun_induction splitTag quote read cs with
  | case1 => cases h
  | case2 read c cs q ih =>
    obtain ⟨word, rfl, _, hword⟩ := ih h
    refine ⟨c :: word, rfl, List.cons_ne_nil _ _, fun rest' => ?_⟩
    rw [List.cons_append, splitTag]
    exact hword rest'
  | case3 read cs =>
    cases h
    refine ⟨['>'], rfl, List.cons_ne_nil _ _, fun rest' => ?_⟩
    rw [List.singleton_append, splitTag]
    exact if_pos rfl
  | case4 read c cs hc ih =>
    obtain ⟨word, rfl, _, hword⟩ := ih h
    refine ⟨c :: word, rfl, List.cons_ne_nil _ _, fun rest' => ?_⟩
    rw [List.cons_append, splitTag, if_neg hc]
    exact hword rest'

lemma splitAtMarker_takes {marker read cs before rest : List Char} (hne : marker ≠ [])
    (h : splitAtMarker marker read cs = some (before, rest)) :
    ∃ word, cs = word ++ rest ∧ marker.length ≤ word.length ∧ Takes (splitAtMarker marker read) word before := by
  fun_induction splitAtMarker marker read cs with
  | case1 => cases h
  | case2 read c cs hm =>
    cases h
    rw [List.isPrefixOf_iff_prefix] at hm
    refine ⟨marker, (List.prefix_iff_eq_append.mp hm).symm, Nat.le_refl _, fun rest' => ?_⟩
    cases marker with
    | nil => exact absurd rfl hne
    | cons m marker =>
      rw [List.cons_append, splitAtMarker, ← List.cons_append, List.drop_left,
        if_pos (List.isPrefixOf_iff_prefix.mpr (List.prefix_append _ rest'))]
  | case3 read c cs hm ih =>
    obtain ⟨word, rfl, hlength, hword⟩ := ih h
    have hlong : marker.length ≤ (c :: word).length := Nat.le_succ_of_le hlength
    refine ⟨c :: word, rfl, hlong, fun rest' => ?_⟩
    -- Whether the marker stands here is seen within the word, which is long enough.
    rw [List.cons_append, splitAtMarker, if_neg]
    · exact hword rest'
    · rw [List.isPrefixOf_iff_prefix] at hm ⊢
      intro hm'
      have hinside : marker <+: c :: word :=
        List.prefix_of_prefix_length_le hm' (List.prefix_append (c :: word) rest') hlong
      exact hm (hinside.trans (List.prefix_append (c :: word) rest))

lemma stripMarker_append (marker body : List Char) : stripMarker? marker (marker ++ body) = some body := by
  rw [stripMarker?, if_pos (List.isPrefixOf_iff_prefix.mpr (List.prefix_append marker body)), List.drop_left]

section Markup

variable {cs rest : List Char} {t : Token}

lemma readDeclaration_takes (h : readDeclaration? cs = some (t, rest)) (ht : t ≠ .doctype) :
    ∃ word, cs = word ++ rest ∧ Takes readDeclaration? word t := by
  unfold readDeclaration? at h
  split at h
  · rename_i body hb
    obtain ⟨⟨inside, r⟩, hs, he⟩ := Option.map_eq_some_iff.mp h
    cases he
    obtain ⟨word, rfl, _, hword⟩ := splitAtMarker_takes (by decide) hs
    refine ⟨"--".toList ++ word, by rw [stripMarker_eq hb, List.append_assoc], fun rest' => ?_⟩
    rw [List.append_assoc, readDeclaration?, stripMarker_append]
    dsimp only
    rw [hword rest']
    rfl
  · rename_i body _ hb
    obtain ⟨⟨inside, r⟩, hs, he⟩ := Option.map_eq_some_iff.mp h
    cases he
    obtain ⟨word, rfl, _, hword⟩ := splitAtMarker_takes (by decide) hs
    refine ⟨"[CDATA[".toList ++ word, by rw [stripMarker_eq hb, List.append_assoc], fun rest' => ?_⟩
    have hopen : ∀ cs, stripMarker? "--".toList ("[CDATA[".toList ++ cs) = none := fun _ => rfl
    rw [List.append_assoc, readDeclaration?, stripMarker_append, hopen]
    dsimp only
    rw [hword rest']
    rfl
  · obtain ⟨⟨body, r⟩, _, he⟩ := Option.bind_eq_some_iff.mp h
    dsimp only at he
    split_ifs at he
    cases he
    exact absurd rfl ht

lemma readInstruction_takes (h : readInstruction? cs = some (t, rest)) :
    ∃ word, cs = word ++ rest ∧ Takes readInstruction? word t := by
  unfold readInstruction? at h
  split_ifs at h with hclosed
  obtain ⟨⟨inside, r⟩, hs, he⟩ := Option.map_eq_some_iff.mp h
  cases he
  obtain ⟨word, rfl, hlength, hword⟩ := splitAtMarker_takes (by decide) hs
  refine ⟨word, rfl, fun rest' => ?_⟩
  cases word with
  | nil => exact absurd hlength (by decide)
  | cons c word =>
    have hopen : ¬ (c :: word ++ rest').head? = some '>' := hclosed
    rw [readInstruction?, if_neg hopen, hword rest']
    rfl

lemma readStartTag_takes (h : readStartTag? cs = some (t, rest)) :
    ∃ word, cs = word ++ rest ∧ word ≠ [] ∧ Takes readStartTag? word t := by
  obtain ⟨⟨tag, r⟩, hs, he⟩ := Option.map_eq_some_iff.mp h
  obtain ⟨word, rfl, hne, hword⟩ := splitTag_takes hs
  dsimp only at he
  have hr : r = rest := by split_ifs at he <;> exact (Prod.mk.inj he).2
  subst hr
  refine ⟨word, rfl, hne, fun rest' => ?_⟩
  rw [readStartTag?, hword rest', Option.map_some]
  dsimp only
  split_ifs at he ⊢ <;> cases he <;> rfl

lemma readMarkup_tag {c : Char} (h₁ : c ≠ '!') (h₂ : c ≠ '?') (h₃ : c ≠ '/') (cs : List Char) :
    readMarkup? (c :: cs) = readStartTag? (c :: cs) := by
  unfold readMarkup?
  split <;> simp_all

lemma readMarkup_takes (h : readMarkup? cs = some (t, rest)) (ht : t ≠ .doctype) :
    ∃ word, cs = word ++ rest ∧ Takes readMarkup? word t := by
  unfold readMarkup? at h
  split at h
  · obtain ⟨word, rfl, hword⟩ := readDeclaration_takes h ht
    exact ⟨'!' :: word, rfl, hword⟩
  · obtain ⟨word, rfl, hword⟩ := readInstruction_takes h
    exact ⟨'?' :: word, rfl, hword⟩
  · obtain ⟨⟨tag, r⟩, hs, he⟩ := Option.map_eq_some_iff.mp h
    cases he
    obtain ⟨word, rfl, _, hword⟩ := splitTag_takes hs
    refine ⟨'/' :: word, rfl, fun rest' => ?_⟩
    rw [List.cons_append, readMarkup?, hword rest']
    rfl
  · rename_i hd hi he
    obtain ⟨word, rfl, hne, hword⟩ := readStartTag_takes h
    cases word with
    | nil => exact absurd rfl hne
    | cons c word =>
      refine ⟨c :: word, rfl, fun rest' => ?_⟩
      rw [List.cons_append, readMarkup_tag (fun hc => hd _ (by rw [hc]; rfl)) (fun hc => hi _ (by rw [hc]; rfl))
        fun hc => he _ (by rw [hc]; rfl)]
      exact hword rest'

end Markup

def Token.undeclared : Token → Token
  | .doctype => .comment
  | t => t

/-- An empty comment in the place of each document type of a text. What follows markup that is ill formed is
left as it is. -/
def undeclare : List Char → List Char
  | [] => []
  | c :: cs =>
    if c = '<' then
      match _ : readMarkup? cs with
      | some (.doctype, rest) => "<!---->".toList ++ undeclare rest
      | some (_, rest) => '<' :: (cs.take (cs.length - rest.length) ++ undeclare rest)
      | none => '<' :: cs
    else c :: undeclare cs
termination_by cs => cs.length
decreasing_by
  · rename_i h
    exact Nat.lt_succ_of_le (length_le_of_readMarkup? h)
  · rename_i h
    exact Nat.lt_succ_of_le (length_le_of_readMarkup? h)
  · exact Nat.lt_succ_self _

def undeclared (document : String) : String :=
  String.ofList (undeclare document.toList)

lemma undeclare_literal {c : Char} (hc : c ≠ '<') (cs : List Char) : undeclare (c :: cs) = c :: undeclare cs := by
  rw [undeclare, if_neg hc]

lemma undeclare_unreadable {cs : List Char} (h : readMarkup? cs = none) : undeclare ('<' :: cs) = '<' :: cs := by
  rw [undeclare]
  simp only [if_true]
  split
  · rename_i h'
    cases h.symm.trans h'
  · rename_i h'
    cases h.symm.trans h'
  · rfl

lemma undeclare_doctype {cs rest : List Char} (h : readMarkup? cs = some (.doctype, rest)) :
    undeclare ('<' :: cs) = "<!---->".toList ++ undeclare rest := by
  rw [undeclare]
  simp only [if_true]
  split
  · rename_i h'
    cases h.symm.trans h'
    rfl
  · rename_i hother h'
    cases h.symm.trans h'
    exact (hother rfl).elim
  · rename_i h'
    cases h.symm.trans h'

lemma undeclare_word {word : List Char} {t : Token} (h : Takes readMarkup? word t) (ht : t ≠ .doctype)
    (rest : List Char) :
    undeclare ('<' :: (word ++ rest)) = '<' :: (word ++ undeclare rest) := by
  rw [undeclare]
  simp only [if_true]
  split
  · rename_i h'
    cases (h rest).symm.trans h'
    exact absurd rfl ht
  · rename_i h'
    cases (h rest).symm.trans h'
    simp
  · rename_i h'
    cases (h rest).symm.trans h'

lemma undeclare_induction {P : List Char → Prop} (nil : P [])
    (literal : ∀ c cs, c ≠ '<' → (∀ rest, rest.length ≤ cs.length → P rest) → P (c :: cs))
    (unreadable : ∀ cs, readMarkup? cs = none → P ('<' :: cs))
    (doctype : ∀ cs rest, readMarkup? cs = some (.doctype, rest) → P rest → P ('<' :: cs))
    (word : ∀ word rest t, t ≠ .doctype → Takes readMarkup? word t → P rest → P ('<' :: (word ++ rest)))
    (cs : List Char) : P cs := by
  induction hn : cs.length using Nat.strongRecOn generalizing cs with
  | ind n ih =>
    cases cs with
    | nil => exact nil
    | cons c cs =>
      rw [List.length_cons] at hn
      by_cases hc : c = '<'
      · subst hc
        cases hm : readMarkup? cs with
        | none => exact unreadable cs hm
        | some read =>
          obtain ⟨t, rest⟩ := read
          have hlength := length_le_of_readMarkup? hm
          have hrest := ih rest.length (by omega) rest rfl
          by_cases ht : t = .doctype
          · subst ht
            exact doctype cs rest hm hrest
          · obtain ⟨w, rfl, hw⟩ := readMarkup_takes hm ht
            exact word w rest t ht hw hrest
      · exact literal c cs hc fun rest hlength => ih rest.length (by omega) rest rfl

lemma undeclare_opens (cs : List Char) : ∃ tail, undeclare ('<' :: cs) = '<' :: tail := by
  generalize hall : '<' :: cs = all
  cases all using undeclare_induction with
  | nil => cases hall
  | literal c cs hc => exact absurd (List.cons.inj hall).1.symm hc
  | unreadable cs h => exact ⟨_, undeclare_unreadable h⟩
  | doctype cs rest h => exact ⟨_, undeclare_doctype h⟩
  | word word rest t ht hword => exact ⟨_, undeclare_word hword ht rest⟩

lemma undeclare_text (cs : List Char) : (undeclare cs).takeWhile (· != '<') = cs.takeWhile (· != '<') ∧
    (undeclare cs).dropWhile (· != '<') = undeclare (cs.dropWhile (· != '<')) := by
  induction cs with
  | nil =>
    rw [undeclare]
    exact ⟨rfl, by rw [List.dropWhile_nil, undeclare]⟩
  | cons c cs ih =>
    by_cases hc : c = '<'
    · subst hc
      obtain ⟨tail, he⟩ := undeclare_opens cs
      refine ⟨by simp [he], ?_⟩
      rw [List.dropWhile_cons_of_neg (by simp), he, List.dropWhile_cons_of_neg (by simp)]
    · rw [undeclare_literal hc]
      simp [hc, ih]

lemma undeclared_of_ne {t : Token} (h : t ≠ .doctype) : t.undeclared = t := by
  cases t with
  | doctype => exact absurd rfl h
  | startTag | emptyTag | endTag | text | cdata | comment | instruction | malformed => rfl

lemma tokens_undeclare (cs : List Char) : tokens (undeclare cs) = (tokens cs).map Token.undeclared := by
  induction cs using undeclare_induction with
  | nil =>
    rw [undeclare, tokens]
    rfl
  | literal c cs hc ih =>
    obtain ⟨htake, hdrop⟩ := undeclare_text cs
    rw [undeclare_literal hc, tokens_literal hc, tokens_literal hc, htake, hdrop, ih _ (length_dropWhile_le _ cs)]
    rfl
  | unreadable cs h =>
    rw [undeclare_unreadable h, tokens_unreadable h]
    rfl
  | doctype cs rest h ih =>
    rw [undeclare_doctype h, tokens_markup h, List.map_cons, ← ih]
    exact tokens_markup rfl
  | word word rest t ht hword ih =>
    rw [undeclare_word hword ht, tokens_markup (hword rest), List.map_cons, ← ih, undeclared_of_ne ht]
    exact tokens_markup (hword _)

lemma nested_undeclared (opened : List (List Char)) (ts : List Token) :
    nested opened (ts.map Token.undeclared) = (nested opened ts).map Token.undeclared := by
  induction ts generalizing opened with
  | nil => rfl
  | cons t ts ih =>
    cases t with
    | endTag name =>
      cases opened with
      | nil => rfl
      | cons innermost outer =>
        simp only [List.map_cons, Token.undeclared, nested, ih]
        split_ifs <;> rfl
    | startTag | emptyTag | text | cdata | comment | instruction | doctype | malformed =>
      simp only [List.map_cons, Token.undeclared, nested, ih]

lemma dropByteOrderMark_undeclare (cs : List Char) :
    dropByteOrderMark (undeclare cs) = undeclare (dropByteOrderMark cs) := by
  cases cs with
  | nil =>
    rw [undeclare]
    exact (undeclare.eq_1).symm
  | cons c cs =>
    by_cases hc : c = '<'
    · -- A text that begins with markup has no mark before it, nor has it one afterwards.
      subst hc
      obtain ⟨tail, he⟩ := undeclare_opens cs
      have hkept : dropByteOrderMark ('<' :: cs) = '<' :: cs := rfl
      rw [hkept, he]
      rfl
    · rw [undeclare_literal hc, dropByteOrderMark, dropByteOrderMark, List.head?_cons, List.head?_cons]
      by_cases hmark : some c = some '\uFEFF'
      · rw [if_pos hmark, if_pos hmark]
        rfl
      · rw [if_neg hmark, if_neg hmark, undeclare_literal hc]

lemma scan_undeclared (document : String) :
    scan (undeclared document).toList = (scan document.toList).map Token.undeclared := by
  rw [undeclared, String.toList_ofList, scan, scan, dropByteOrderMark_undeclare, tokens_undeclare,
    nested_undeclared]

lemma doctype_not_mem_undeclared (document : String) : .doctype ∉ scan (undeclared document).toList := by
  rw [scan_undeclared, List.mem_map]
  rintro ⟨t, _, ht⟩
  cases t <;> cases ht

lemma utf8Len_emptyComment_le {cs rest : List Char} (h : readMarkup? cs = some (.doctype, rest)) :
    utf8Len "<!---->".toList + utf8Len rest ≤ utf8Len ('<' :: cs) := by
  obtain ⟨word, hword, hspells⟩ := readMarkup_spells h
  rw [hword, utf8Len_append]
  cases hspells with
  | @doctype body hbody =>
    have hkeyword : (body.take 7).map Char.toUpper = "DOCTYPE".toList := by
      rw [isDoctype, Bool.and_eq_true, beq_iff_eq] at hbody
      exact hbody.1
    have hlength : min 7 body.length = 7 := by simpa using congrArg List.length hkeyword
    have hbytes := length_le_utf8Len body
    have hcomment : utf8Len "<!---->".toList = 7 := rfl
    rw [utf8Len_append, utf8Len_append, hcomment]
    omega

lemma utf8Len_undeclare (cs : List Char) : utf8Len (undeclare cs) ≤ utf8Len cs := by
  induction cs using undeclare_induction with
  | nil => rw [undeclare]
  | literal c cs hc ih =>
    rw [undeclare_literal hc, utf8Len_cons, utf8Len_cons]
    exact Nat.add_le_add_right (ih cs (Nat.le_refl _)) _
  | unreadable cs h => rw [undeclare_unreadable h]
  | doctype cs rest h ih =>
    have hcomment := utf8Len_emptyComment_le h
    rw [undeclare_doctype h, utf8Len_append]
    omega
  | word word rest t ht hword ih =>
    rw [undeclare_word hword ht, utf8Len_cons, utf8Len_cons, utf8Len_append, utf8Len_append]
    omega

lemma utf8ByteSize_undeclared (document : String) :
    (undeclared document).utf8ByteSize ≤ document.utf8ByteSize := by
  rw [undeclared, String.utf8ByteSize_ofList, ← String.utf8Len_toList]
  exact utf8Len_undeclare _

lemma foldlM_undeclared {ε σ : Type} {step : σ → Token → Except ε σ} (h : ∀ s, step s .doctype = step s .comment)
    (document : String) (s : σ) :
    (scan (undeclared document).toList).foldlM step s = (scan document.toList).foldlM step s := by
  have hstep : (fun s t => step s (Token.undeclared t)) = step := by
    funext s t
    cases t with
    | doctype => exact (h s).symm
    | startTag | emptyTag | endTag | text | cdata | comment | instruction | malformed => rfl
  rw [scan_undeclared, List.foldlM_map, hstep]

theorem parse_undeclared (document : String) : parse (undeclared document) = parse document := by
  rw [parse, parse, foldlM_undeclared fun _ => rfl]

end IdentityProvider.Xml
