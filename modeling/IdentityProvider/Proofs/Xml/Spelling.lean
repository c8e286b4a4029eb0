import IdentityProvider.Proofs.Xml.Nesting
import IdentityProvider.Proofs.Xml.Scanning
import IdentityProvider.Proofs.Xml.Trimming
import Mathlib.Data.List.Forall2
import Mathlib.Data.List.TakeWhile
/-! How documents are spelled: what texts stand for tokens, for the attributes of a tag and for references. What
the scanner and the readers take is spelled so. -/

namespace IdentityProvider.Xml

open Text (isMarkupBlank dropWhile_eq_cons splitWhile_append)

/-! ### References -/

inductive Refers : List Char → List Char → Prop
  | nil : Refers [] []
  | literal {c : Char} {raw text : List Char} : c ≠ '&' → Refers raw text → Refers (c :: raw) (c :: text)
  | reference {name : List Char} {c : Char} {raw text : List Char} : '&' ∉ name → ';' ∉ name →
      reference? name = some c → Refers raw text → Refers ('&' :: (name ++ ';' :: raw)) (c :: text)

lemma unescapeOnto_reference {name : List Char} (ha : '&' ∉ name) (hs : ';' ∉ name) (done body raw : List Char) :
    unescapeOnto done (some body) (name ++ ';' :: raw) =
      match reference? (body.reverse ++ name) with
      | some c => unescapeOnto (c :: done) none raw
      | none => none := by
  induction name generalizing body with
  | nil => cases hr : reference? body.reverse <;> simp [unescapeOnto, hr]
  | cons n name ih =>
    rw [List.mem_cons, not_or] at ha hs
    rw [List.cons_append, unescapeOnto, if_neg (Ne.symm hs.1), if_neg (Ne.symm ha.1), ih ha.2 hs.2]
    simp

lemma reference_ends {done body cs text : List Char} (h : unescapeOnto done (some body) cs = some text) :
    ∃ name raw, cs = name ++ ';' :: raw ∧ '&' ∉ name ∧ ';' ∉ name := by
  induction cs generalizing body with
  | nil => cases h
  | cons c cs ih =>
    by_cases hs : c = ';'
    · exact ⟨[], cs, by rw [hs]; rfl, by simp, by simp⟩
    · by_cases ha : c = '&'
      · rw [unescapeOnto, if_neg hs, if_pos ha] at h
        cases h
      · rw [unescapeOnto, if_neg hs, if_neg ha] at h
        obtain ⟨name, raw, rfl, hna, hns⟩ := ih h
        exact ⟨c :: name, raw, rfl, by simp [Ne.symm ha, hna], by simp [Ne.symm hs, hns]⟩

lemma Refers.unescapeOnto {raw text : List Char} (h : Refers raw text) (done : List Char) :
    unescapeOnto done none raw = some (done.reverse ++ text) := by
  induction h generalizing done with
  | nil => simp [Xml.unescapeOnto]
  | literal hc _ ih =>
    rw [Xml.unescapeOnto, if_neg hc, ih]
    simp
  | reference ha hs hr _ ih =>
    rw [Xml.unescapeOnto, if_pos rfl, unescapeOnto_reference ha hs, List.reverse_nil, List.nil_append, hr]
    simp [ih]

lemma refers_of_unescapeOnto {done raw out : List Char} (h : unescapeOnto done none raw = some out) :
    ∃ text, Refers raw text ∧ out = done.reverse ++ text := by
  -- What follows a reference is shorter, but not the tail of the text.
  induction hn : raw.length using Nat.strongRecOn generalizing raw done with
  | ind n ih =>
    cases raw with
    | nil =>
      cases h
      exact ⟨[], .nil, by simp⟩
    | cons c raw =>
      by_cases hc : c = '&'
      · subst hc
        rw [unescapeOnto, if_pos rfl] at h
        obtain ⟨name, rest, rfl, ha, hs⟩ := reference_ends h
        rw [unescapeOnto_reference ha hs, List.reverse_nil, List.nil_append] at h
        cases hr : reference? name with
        | none =>
          rw [hr] at h
          cases h
        | some d =>
          rw [hr] at h
          obtain ⟨text, htext, rfl⟩ := ih rest.length (by simp at hn; omega) h rfl
          exact ⟨d :: text, .reference ha hs hr htext, by simp⟩
      · rw [unescapeOnto, if_neg hc] at h
        obtain ⟨text, htext, rfl⟩ := ih raw.length (by simp at hn; omega) h rfl
        exact ⟨c :: text, .literal hc htext, by simp⟩

lemma unescape_eq_some_iff {raw text : List Char} : unescape? raw = some text ↔ Refers raw text := by
  constructor
  · intro h
    obtain ⟨text', htext, rfl⟩ := refers_of_unescapeOnto h
    exact htext
  · intro h
    exact h.unescapeOnto []

/-! ### Attributes -/

inductive LooseAttribute : List Char → RawAttribute → List Char → Prop
  | mk {before key beforeSign afterSign value : List Char} {k quote : Char} (rest : List Char) :
      before.all isMarkupBlank = true → isMarkupBlank k = false → key.all isKeyChar = true →
      beforeSign.all isMarkupBlank = true → afterSign.all isMarkupBlank = true → quote = '"' ∨ quote = '\'' →
      quote ∉ value →
      LooseAttribute (before ++
        k :: (key ++ (beforeSign ++ '=' :: (afterSign ++ quote :: (value ++ quote :: rest)))))
        ⟨k :: key, value⟩ rest

inductive LooseAttributes : List Char → List RawAttribute → Prop
  | none {cs : List Char} : cs.all isMarkupBlank = true → LooseAttributes cs []
  | cons {cs rest : List Char} {a : RawAttribute} {found : List RawAttribute} : LooseAttribute cs a rest →
      LooseAttributes rest found → LooseAttributes cs (a :: found)

lemma head_not_any {p : Char → Bool} {c : Char} (cs : List Char) (h : p c = false) :
    (c :: cs).head?.any p = false := h

lemma readQuoted_eq_some_iff {cs value rest : List Char} : readQuoted? cs = some (value, rest) ↔
    ∃ quote, (quote = '"' ∨ quote = '\'') ∧ quote ∉ value ∧ cs = quote :: (value ++ quote :: rest) := by
  constructor
  · intro h
    cases cs with
    | nil => cases h
    | cons quote cs =>
      rw [readQuoted?] at h
      split_ifs at h with hq
      split at h
      · cases h
      · rename_i c rest' hd
        cases h
        obtain ⟨hcs, hc⟩ := dropWhile_eq_cons hd
        have hc' : c = quote := by simpa using hc
        subst hc'
        refine ⟨c, hq, ?_, by rw [← hcs]⟩
        intro hm
        simpa using List.all_eq_true.mp List.all_takeWhile c hm
  · rintro ⟨quote, hq, hv, rfl⟩
    have hall : value.all (· != quote) = true := by
      rw [List.all_eq_true]
      intro c hc
      have hne : c ≠ quote := fun he => hv (he ▸ hc)
      simpa using hne
    obtain ⟨ht, hd⟩ := splitWhile_append hall (head_not_any rest (by simp : (quote != quote) = false))
    rw [readQuoted?, if_pos hq, hd, ht]

lemma blank_not_isKeyChar {c : Char} (h : isMarkupBlank c = true) : isKeyChar c = false := by
  rw [isKeyChar, h, Bool.not_true, Bool.and_false]

lemma readAttribute_eq_finished_iff {cs : List Char} : readAttribute cs = .finished ↔
    cs.all isMarkupBlank = true := by
  unfold readAttribute
  constructor
  · intro h
    split at h
    · rename_i hnone
      exact List.all_eq_true.mpr (List.dropWhile_eq_nil_iff.mp hnone)
    · split at h
      · cases h
      · split_ifs at h
        split at h <;> cases h
  · intro h
    have hnone : cs.dropWhile isMarkupBlank = [] := List.dropWhile_eq_nil_iff.mpr (List.all_eq_true.mp h)
    rw [hnone]

lemma readAttribute_eq_attribute_iff {cs rest : List Char} {a : RawAttribute} :
    readAttribute cs = .attribute a rest ↔ LooseAttribute cs a rest := by
  constructor
  · intro h
    unfold readAttribute at h
    split at h
    · cases h
    · rename_i k cs' hk
      split at h
      · cases h
      · rename_i e afterEquals he
        split_ifs at h with hsign
        split at h
        · rename_i value rest' hq
          cases h
          subst hsign
          obtain ⟨hcs, hkb⟩ := dropWhile_eq_cons hk
          obtain ⟨hsign, _⟩ := dropWhile_eq_cons he
          obtain ⟨quote, hquote, hv, hvalue⟩ := readQuoted_eq_some_iff.mp hq
          have hafter : afterEquals.takeWhile isMarkupBlank ++ quote :: (value ++ quote :: rest) =
            afterEquals := by
            rw [← hvalue, List.takeWhile_append_dropWhile]
          have hshape : LooseAttribute (cs.takeWhile isMarkupBlank ++ k :: (cs'.takeWhile isKeyChar ++
              ((cs'.dropWhile isKeyChar).takeWhile isMarkupBlank ++
                '=' :: (afterEquals.takeWhile isMarkupBlank ++ quote :: (value ++ quote :: rest)))))
              ⟨k :: cs'.takeWhile isKeyChar, value⟩ rest :=
            .mk rest List.all_takeWhile hkb List.all_takeWhile List.all_takeWhile List.all_takeWhile hquote hv
          rwa [hafter, ← hsign, List.takeWhile_append_dropWhile, ← hcs] at hshape
        · cases h
  · intro h
    cases h with
    | @mk before key beforeSign afterSign value k quote _ hbefore hk hkey hbeforeSign hafterSign hquote hv =>
      have hquoteKept : isMarkupBlank quote = false := by rcases hquote with rfl | rfl <;> rfl
      have hbare : (beforeSign ++ '=' :: (afterSign ++ quote :: (value ++ quote :: rest))).head?.any isKeyChar =
        false := by
        cases beforeSign with
        | nil => rfl
        | cons c cs =>
          rw [List.all_cons, Bool.and_eq_true] at hbeforeSign
          exact blank_not_isKeyChar hbeforeSign.1
      obtain ⟨htake, hdrop⟩ := splitWhile_append hkey hbare
      rw [readAttribute, (splitWhile_append hbefore (head_not_any _ hk)).2]
      dsimp only
      rw [hdrop, htake, (splitWhile_append hbeforeSign (head_not_any _ rfl)).2]
      dsimp only
      rw [if_pos rfl, (splitWhile_append hafterSign (head_not_any _ hquoteKept)).2,
        readQuoted_eq_some_iff.mpr ⟨quote, hquote, hv, rfl⟩]

lemma scanAttributes_eq (seen : List (List Char)) (cs : List Char) : scanAttributes seen cs =
    match readAttribute cs with
    | .finished => ⟨[], true⟩
    | .fault => ⟨[], false⟩
    | .attribute a rest =>
      if a.key ∈ seen then ⟨[], false⟩
      else ⟨a :: (scanAttributes (a.key :: seen) rest).found,
        (scanAttributes (a.key :: seen) rest).wellFormed⟩ := by
  rw [scanAttributes]
  split
  · rename_i h
    rw [h]
  · rename_i h
    rw [h]
  · rename_i h
    rw [h]

lemma scanAttributes_eq_nil_iff {seen : List (List Char)} {cs : List Char} :
    scanAttributes seen cs = ⟨[], true⟩ ↔ cs.all isMarkupBlank = true := by
  rw [scanAttributes_eq, ← readAttribute_eq_finished_iff]
  rcases readAttribute cs with _ | _ | ⟨a, rest⟩
  · simp
  · simp
  · dsimp only
    split_ifs <;> simp

lemma scanAttributes_eq_cons_iff {seen : List (List Char)} {cs : List Char} {a : RawAttribute}
    {found : List RawAttribute} :
    scanAttributes seen cs = ⟨a :: found, true⟩ ↔
      ∃ rest, LooseAttribute cs a rest ∧ a.key ∉ seen ∧ scanAttributes (a.key :: seen) rest = ⟨found, true⟩ := by
  simp only [← readAttribute_eq_attribute_iff]
  rw [scanAttributes_eq]
  rcases readAttribute cs with _ | _ | ⟨b, rest⟩
  · simp
  · simp
  · dsimp only
    split_ifs with hseen
    · constructor
      · intro h
        cases h
      · rintro ⟨_, h, hnew, _⟩
        cases h
        exact absurd hseen hnew
    · constructor
      · intro h
        rw [RawAttributes.mk.injEq, List.cons.injEq] at h
        obtain ⟨⟨rfl, hfound⟩, hwell⟩ := h
        refine ⟨rest, rfl, hseen, ?_⟩
        rw [← hfound, ← hwell]
      · rintro ⟨_, h, _, hrest⟩
        cases h
        rw [hrest]

lemma scanAttributes_eq_iff {seen : List (List Char)} {cs : List Char} {found : List RawAttribute} :
    scanAttributes seen cs = ⟨found, true⟩ ↔
      LooseAttributes cs found ∧ (found.map RawAttribute.key).Nodup ∧ ∀ a ∈ found, a.key ∉ seen := by
  induction found generalizing seen cs with
  | nil =>
    rw [scanAttributes_eq_nil_iff]
    constructor
    · exact fun h => ⟨.none h, List.nodup_nil, nofun⟩
    · rintro ⟨h, _⟩
      cases h
      assumption
  | cons a found ih =>
    rw [scanAttributes_eq_cons_iff, List.map_cons, List.nodup_cons, List.forall_mem_cons]
    simp only [ih, List.mem_cons, not_or]
    constructor
    · rintro ⟨rest, ha, hseen, hrest, hn, hnew⟩
      refine ⟨.cons ha hrest, ⟨?_, hn⟩, hseen, fun b hb => (hnew b hb).2⟩
      intro hm
      obtain ⟨b, hb, hkey⟩ := List.mem_map.mp hm
      exact (hnew b hb).1 hkey
    · rintro ⟨h, ⟨hfresh, hn⟩, hseen, hnew⟩
      cases h with
      | cons ha hrest =>
        refine ⟨_, ha, hseen, hrest, hn, fun b hb => ⟨?_, hnew b hb⟩⟩
        exact fun he => hfresh (List.mem_map.mpr ⟨b, hb, he⟩)

def HasLooseAttributes (raw : List Char) : Prop :=
  ∃ found, LooseAttributes raw found ∧ (found.map RawAttribute.key).Nodup ∧
    ∀ a ∈ found, ∃ text, Refers a.value text

lemma elementAttributes_isOk_iff {raw : RawAttributes} : (∃ attributes, elementAttributes raw = .ok attributes) ↔
    raw.wellFormed = true ∧ ∀ a ∈ raw.found, ∃ text, Refers a.value text := by
  obtain ⟨found, wellFormed⟩ := raw
  induction found with
  | nil => cases wellFormed <;> simp [elementAttributes, bind, Except.bind, pure, Except.pure]
  | cons a found ih =>
    rw [elementAttributes_cons, List.forall_mem_cons]
    simp only [← unescape_eq_some_iff] at ih ⊢
    cases unescape? a.value with
    | none => simp
    | some value => simpa [map_ok_iff] using ih

lemma readAttributes_isOk_iff {raw : List Char} :
    (∃ attributes, elementAttributes (readAttributes raw) = .ok attributes) ↔ HasLooseAttributes raw := by
  rw [elementAttributes_isOk_iff, readAttributes]
  constructor
  · rintro ⟨hw, hv⟩
    obtain ⟨hare, hn, _⟩ := scanAttributes_eq_iff.mp (by rw [← hw] : scanAttributes [] raw = ⟨_, true⟩)
    exact ⟨_, hare, hn, hv⟩
  · rintro ⟨found, hare, hn, hv⟩
    rw [scanAttributes_eq_iff.mpr ⟨hare, hn, fun a _ => List.not_mem_nil⟩]
    exact ⟨rfl, hv⟩

/-! ### Tokens -/

/-- The inside of a tag: `>` stands in quotes alone, and each quote is closed. -/
inductive IsTagText : List Char → Prop
  | nil : IsTagText []
  | plain {c : Char} {cs : List Char} : c ≠ '>' → c ≠ '"' → c ≠ '\'' → IsTagText cs → IsTagText (c :: cs)
  | quoted {quote : Char} {value cs : List Char} : quote = '"' ∨ quote = '\'' → quote ∉ value → IsTagText cs →
      IsTagText (quote :: (value ++ quote :: cs))

inductive Token.Spells : Token → List Char → Prop
  | startTag {name attributes : List Char} : name.any isMarkupBlank = false → IsTagText (name ++ attributes) →
      (name ++ attributes).getLast? ≠ some '/' →
      Spells (.startTag name attributes) ('<' :: (name ++ attributes ++ ['>']))
  | emptyTag {name attributes : List Char} : name.any isMarkupBlank = false →
      IsTagText (name ++ attributes ++ ['/']) →
      Spells (.emptyTag name attributes) ('<' :: (name ++ attributes ++ ['/', '>']))
  | endTag {name blanks : List Char} : blanks.all isMarkupBlank = true → IsTagText (name ++ blanks) →
      Spells (.endTag name) ('<' :: '/' :: (name ++ blanks ++ ['>']))
  | text {raw : List Char} : raw ≠ [] → '<' ∉ raw → Spells (.text raw) raw
  | cdata {content : List Char} : ¬ "]]>".toList <:+: content →
      Spells (.cdata content) ("<![CDATA[".toList ++ content ++ "]]>".toList)
  | comment {body : List Char} : ¬ "-->".toList <:+: body → Spells .comment ("<!--".toList ++ body ++ "-->".toList)
  | instruction {body : List Char} : ¬ "?>".toList <:+: body →
      Spells .instruction ("<?".toList ++ body ++ "?>".toList)
  | doctype {body : List Char} : isDoctype body = true → Spells .doctype ("<!".toList ++ body ++ ['>'])

lemma splitTag_spells {quote : Option Char} {read cs tag rest : List Char}
    (h : splitTag quote read cs = some (tag, rest)) :
    match quote with
    | none => ∃ inner, tag = read.reverse ++ inner ∧ IsTagText inner ∧ cs = inner ++ '>' :: rest
    | some q => ∃ value inner, tag = read.reverse ++ (value ++ q :: inner) ∧ q ∉ value ∧ IsTagText inner ∧
        cs = value ++ q :: (inner ++ '>' :: rest) := by
  induction cs generalizing quote read with
  | nil => cases h
  | cons c cs ih =>
    cases quote with
    | some q =>
      rw [splitTag] at h
      dsimp only at h ⊢
      by_cases hc : c = q
      · subst hc
        rw [if_pos rfl] at h
        obtain ⟨inner, rfl, hinner, rfl⟩ := ih h
        exact ⟨[], inner, by simp, by simp, hinner, rfl⟩
      · rw [if_neg hc] at h
        obtain ⟨value, inner, rfl, hv, hinner, rfl⟩ := ih h
        exact ⟨c :: value, inner, by simp, by simp [Ne.symm hc, hv], hinner, rfl⟩
    | none =>
      rw [splitTag] at h
      dsimp only at h ⊢
      by_cases hc : c = '>'
      · subst hc
        rw [if_pos rfl] at h
        cases h
        exact ⟨[], by simp, .nil, rfl⟩
      · rw [if_neg hc] at h
        by_cases hq : c = '"' ∨ c = '\''
        · rw [if_pos hq] at h
          obtain ⟨value, inner, rfl, hv, hinner, rfl⟩ := ih h
          exact ⟨c :: (value ++ c :: inner), by simp, .quoted hq hv hinner, by simp⟩
        · rw [if_neg hq] at h
          rw [not_or] at hq
          obtain ⟨inner, rfl, hinner, rfl⟩ := ih h
          exact ⟨c :: inner, by simp, .plain hc hq.1 hq.2 hinner, rfl⟩

lemma splitTag_eq {cs tag rest : List Char} (h : splitTag none [] cs = some (tag, rest)) :
    IsTagText tag ∧ cs = tag ++ '>' :: rest := by
  obtain ⟨inner, rfl, hinner, hcs⟩ := splitTag_spells h
  exact ⟨hinner, hcs⟩

lemma splitAtMarker_spells {marker read cs before rest : List Char} (hm : marker ≠ [])
    (h : splitAtMarker marker read cs = some (before, rest)) :
    ∃ inner, before = read.reverse ++ inner ∧ ¬ marker <:+: inner ∧ cs = inner ++ marker ++ rest := by
  induction cs generalizing read with
  | nil => cases h
  | cons c cs ih =>
    rw [splitAtMarker] at h
    split_ifs at h with hp
    · cases h
      rw [List.isPrefixOf_iff_prefix] at hp
      refine ⟨[], by simp, by simpa using hm, ?_⟩
      rw [List.nil_append, List.prefix_iff_eq_append.mp hp]
    · obtain ⟨inner, rfl, hinner, rfl⟩ := ih h
      refine ⟨c :: inner, by simp, ?_, rfl⟩
      rw [List.infix_cons_iff, not_or]
      refine ⟨fun hprefix => hp ?_, hinner⟩
      rw [List.isPrefixOf_iff_prefix]
      exact hprefix.trans ⟨marker ++ rest, by simp⟩

lemma splitAtMarker_eq {marker cs before rest : List Char} (hm : marker ≠ [])
    (h : splitAtMarker marker [] cs = some (before, rest)) : ¬ marker <:+: before ∧
    cs = before ++ marker ++ rest := by
  obtain ⟨inner, rfl, hinner, hcs⟩ := splitAtMarker_spells hm h
  exact ⟨hinner, hcs⟩

lemma splitDoctype_spells {depth : Nat} {read cs body rest : List Char}
    (h : splitDoctype depth read cs = some (body, rest)) :
    read.reverse ++ cs = body ++ '>' :: rest := by
  fun_induction splitDoctype depth read cs with
  | case1 => cases h
  | case2 =>
    cases h
    rfl
  | case3 _ cs d ih => simpa using ih h
  | case4 _ _ c cs _ ih => simpa using ih h

lemma stripMarker_eq {marker cs body : List Char} (h : stripMarker? marker cs = some body) :
    cs = marker ++ body := by
  rw [stripMarker?] at h
  split_ifs at h with hp
  cases h
  exact (List.prefix_iff_eq_append.mp (List.isPrefixOf_iff_prefix.mp hp)).symm

lemma tagName_append_tagAttributes (tag : List Char) : tagName tag ++ tagAttributes tag = tag :=
  List.takeWhile_append_dropWhile

lemma tagName_no_blank (tag : List Char) : (tagName tag).any isMarkupBlank = false := by
  rw [List.any_eq_false]
  intro c hc
  simpa using List.all_eq_true.mp List.all_takeWhile c hc

lemma endTagName_append (tag : List Char) : ∃ blanks, blanks.all isMarkupBlank = true ∧
    endTagName tag ++ blanks = tag := by
  rw [endTagName]
  split_ifs with hb
  · exact ⟨[], rfl, List.append_nil tag⟩
  · refine ⟨(tag.reverse.takeWhile isMarkupBlank).reverse, ?_, ?_⟩
    · rw [List.all_reverse]
      exact List.all_takeWhile
    · rw [← List.reverse_append, List.takeWhile_append_dropWhile, List.reverse_reverse]

section Markup

variable {cs rest : List Char} {t : Token}

lemma readDeclaration_spells (h : readDeclaration? cs = some (t, rest)) :
    ∃ word, '<' :: '!' :: cs = word ++ rest ∧ t.Spells word := by
  unfold readDeclaration? at h
  split at h
  · rename_i body hb
    obtain ⟨⟨inside, r⟩, hs, he⟩ := Option.map_eq_some_iff.mp h
    cases he
    obtain ⟨hm, rfl⟩ := splitAtMarker_eq (by decide) hs
    exact ⟨_, by rw [stripMarker_eq hb]; simp, .comment hm⟩
  · rename_i body _ hb
    obtain ⟨⟨inside, r⟩, hs, he⟩ := Option.map_eq_some_iff.mp h
    cases he
    obtain ⟨hm, rfl⟩ := splitAtMarker_eq (by decide) hs
    exact ⟨_, by rw [stripMarker_eq hb]; simp, .cdata hm⟩
  · obtain ⟨⟨body, r⟩, hs, he⟩ := Option.bind_eq_some_iff.mp h
    dsimp only at he
    split_ifs at he with hd
    cases he
    have hcs := splitDoctype_spells hs
    rw [List.reverse_nil, List.nil_append] at hcs
    exact ⟨_, by rw [hcs]; simp, .doctype hd⟩

lemma readInstruction_spells (h : readInstruction? cs = some (t, rest)) :
    ∃ word, '<' :: '?' :: cs = word ++ rest ∧ t.Spells word := by
  unfold readInstruction? at h
  split_ifs at h
  obtain ⟨⟨inside, r⟩, hs, he⟩ := Option.map_eq_some_iff.mp h
  cases he
  obtain ⟨hm, rfl⟩ := splitAtMarker_eq (by decide) hs
  exact ⟨_, by simp, .instruction hm⟩

lemma readStartTag_spells (h : readStartTag? cs = some (t, rest)) :
    ∃ word, '<' :: cs = word ++ rest ∧ t.Spells word := by
  obtain ⟨⟨tag, r⟩, hs, he⟩ := Option.map_eq_some_iff.mp h
  obtain ⟨htag, rfl⟩ := splitTag_eq hs
  dsimp only at he
  split_ifs at he with hslash
  · cases he
    have hsplit : tagName tag.dropLast ++ tagAttributes tag.dropLast ++ ['/'] = tag := by
      rw [tagName_append_tagAttributes]
      exact List.dropLast_append_getLast? '/' hslash
    refine ⟨'<' :: (tagName tag.dropLast ++ tagAttributes tag.dropLast ++ ['/', '>']), ?_,
      .emptyTag (tagName_no_blank _) (by rwa [hsplit])⟩
    calc '<' :: (tag ++ '>' :: rest)
        = '<' :: (tagName tag.dropLast ++ tagAttributes tag.dropLast ++ ['/'] ++ '>' :: rest) := by rw [hsplit]
      _ = '<' :: (tagName tag.dropLast ++ tagAttributes tag.dropLast ++ ['/', '>']) ++ rest := by simp
  · cases he
    refine ⟨'<' :: (tagName tag ++ tagAttributes tag ++ ['>']), ?_, .startTag (tagName_no_blank _) ?_ ?_⟩
    · rw [tagName_append_tagAttributes]
      simp
    · rwa [tagName_append_tagAttributes]
    · rwa [tagName_append_tagAttributes]

lemma readMarkup_spells (h : readMarkup? cs = some (t, rest)) :
    ∃ word, '<' :: cs = word ++ rest ∧ t.Spells word := by
  unfold readMarkup? at h
  split at h
  · exact readDeclaration_spells h
  · exact readInstruction_spells h
  · rename_i cs
    obtain ⟨⟨tag, r⟩, hs, he⟩ := Option.map_eq_some_iff.mp h
    cases he
    obtain ⟨htag, rfl⟩ := splitTag_eq hs
    obtain ⟨blanks, hb, hsplit⟩ := endTagName_append tag
    refine ⟨'<' :: '/' :: (endTagName tag ++ blanks ++ ['>']), ?_, .endTag hb (by rwa [hsplit])⟩
    rw [hsplit]
    simp
  · exact readStartTag_spells h

end Markup

lemma tokens_unreadable {cs : List Char} (h : readMarkup? cs = none) : tokens ('<' :: cs) = [.malformed] := by
  rw [tokens]
  simp only [if_true]
  split
  · rename_i h'
    rw [h] at h'
    cases h'
  · rfl

lemma tokens_literal {c : Char} (hc : c ≠ '<') (cs : List Char) :
    tokens (c :: cs) = .text (c :: cs.takeWhile (· != '<')) :: tokens (cs.dropWhile (· != '<')) := by
  rw [tokens, if_neg hc]

lemma tokens_spell {cs : List Char} (h : .malformed ∉ tokens cs) :
    ∃ words, List.Forall₂ Token.Spells (tokens cs) words ∧ cs = words.flatten := by
  induction hn : cs.length using Nat.strongRecOn generalizing cs with
  | ind n ih =>
    cases cs with
    | nil =>
      rw [tokens]
      exact ⟨[], .nil, rfl⟩
    | cons c cs =>
      by_cases hc : c = '<'
      · subst hc
        cases hm : readMarkup? cs with
        | none => simp [tokens_unreadable hm] at h
        | some read =>
          obtain ⟨t, rest⟩ := read
          rw [tokens_markup hm, List.mem_cons, not_or] at h
          obtain ⟨word, hword, hspells⟩ := readMarkup_spells hm
          have hlength := length_le_of_readMarkup? hm
          obtain ⟨words, hwords, hrest⟩ := ih rest.length (by simp at hn; omega) h.2 rfl
          rw [tokens_markup hm]
          exact ⟨word :: words, .cons hspells hwords, by rw [hword, hrest, List.flatten_cons]⟩
      · rw [tokens_literal hc, List.mem_cons, not_or] at h
        have hlength := length_dropWhile_le (· != '<') cs
        obtain ⟨words, hwords, hrest⟩ := ih (cs.dropWhile (· != '<')).length (by simp at hn; omega) h.2 rfl
        have hopen : '<' ∉ c :: cs.takeWhile (· != '<') := by
          rw [List.mem_cons, not_or]
          exact ⟨Ne.symm hc, fun hm => by simpa using List.all_eq_true.mp List.all_takeWhile '<' hm⟩
        rw [tokens_literal hc]
        refine ⟨(c :: cs.takeWhile (· != '<')) :: words, .cons (.text (List.cons_ne_nil _ _) hopen) hwords, ?_⟩
        rw [List.flatten_cons, ← hrest, List.cons_append, List.takeWhile_append_dropWhile]

lemma nested_eq {opened : List (List Char)} {ts : List Token} (h : .malformed ∉ nested opened ts) :
    nested opened ts = ts := by
  induction ts generalizing opened with
  | nil => rfl
  | cons t ts ih =>
    cases t with
    | endTag name =>
      cases opened with
      | nil => simp [nested] at h
      | cons innermost outer =>
        rw [nested] at h ⊢
        split_ifs at h ⊢ with hname
        · rw [List.mem_cons, not_or] at h
          rw [ih h.2]
        · simp at h
    | startTag | emptyTag | text | cdata | comment | instruction | doctype | malformed =>
      simp only [nested, List.mem_cons, not_or] at h ⊢
      rw [ih h.2]

lemma aside_not_malformed (kind : Aside) : kind.token ≠ .malformed := by
  cases kind <;> nofun

lemma pieces_not_malformed (ps : List Piece) : .malformed ∉ tokensOfPieces ps := by
  induction ps using pieces_induction with
  | nil => exact List.not_mem_nil
  | element name attributes content ps ihc ih => simp [tokensOfPieces, Piece.tokens, ihc, ih]
  | childless name attributes ps ih => simp [tokensOfPieces, Piece.tokens, ih]
  | text raw ps ih => simp [tokensOfPieces, Piece.tokens, ih]
  | cdata content ps ih => simp [tokensOfPieces, Piece.tokens, ih]
  | aside kind ps ih => simp [tokensOfPieces, Piece.tokens, ih, Ne.symm (aside_not_malformed kind)]

lemma pieces_spell {document : List Char} {ps : List Piece} (h : scan document = tokensOfPieces ps) :
    ∃ words, List.Forall₂ Token.Spells (tokensOfPieces ps) words ∧ dropByteOrderMark document = words.flatten := by
  have hm := pieces_not_malformed ps
  rw [← h, scan] at hm
  have hall := nested_eq hm
  rw [hall] at hm
  rw [← h, scan, hall]
  exact tokens_spell hm

end IdentityProvider.Xml
