import IdentityProvider.Proofs.Xml.Rendering
import IdentityProvider.Xml.Document

namespace IdentityProvider.Xml

open Text (isMarkupBlank)

def IsTagWord (cs : List Char) : Prop :=
  cs ≠ [] ∧ ∀ c ∈ cs, isTagChar c = true

lemma qName_isTagWord {s : String} (h : isQName s = true) : IsTagWord s.toList :=
  ⟨qName_ne_nil h, fun c hc => (qName_chars h c hc).1⟩

lemma tagChar_ne {c d : Char} (h : isTagChar c = true) (hd : isTagChar d = false) : c ≠ d := by
  rintro rfl
  rw [h] at hd
  cases hd

lemma tagChar_not_blank {c : Char} (h : isTagChar c = true) : isMarkupBlank c = false := by
  simp only [isTagChar, Bool.not_eq_true', Bool.or_eq_false_iff] at h
  exact h.1

lemma tagChar_isKeyChar {c : Char} (h : isTagChar c = true) : isKeyChar c = true := by
  simp [isKeyChar, tagChar_not_blank h, tagChar_ne h (d := '=') (by decide)]

lemma IsTagWord.dropWhile_blank {cs : List Char} (h : IsTagWord cs) (rest : List Char) :
    (cs ++ rest).dropWhile isMarkupBlank = cs ++ rest := by
  obtain ⟨hn, hc⟩ := h
  cases cs with
  | nil => exact (hn rfl).elim
  | cons c cs => simp [tagChar_not_blank (hc c (by simp))]

lemma splitTag_unquoted {xs : List Char} (h : ∀ c ∈ xs, c ≠ '>' ∧ c ≠ '"' ∧ c ≠ '\'') (read rest : List Char) :
    splitTag none read (xs ++ rest) = splitTag none (xs.reverse ++ read) rest := by
  induction xs generalizing read with
  | nil => rfl
  | cons x xs ih =>
    obtain ⟨hg, hq, ha⟩ := h x (by simp)
    simp only [List.cons_append, splitTag, hg, hq, ha, if_false, or_self]
    rw [ih fun c hc => h c (by simp [hc])]
    simp

lemma splitTag_quoted {quote : Char} {xs : List Char} (h : quote ∉ xs) (read rest : List Char) :
    splitTag (some quote) read (xs ++ quote :: rest) = splitTag none (quote :: (xs.reverse ++ read)) rest := by
  induction xs generalizing read with
  | nil => simp [splitTag]
  | cons x xs ih =>
    have hx : x ≠ quote := fun hx => h (by simp [hx])
    simp only [List.cons_append, splitTag, hx, if_false]
    rw [ih fun hc => h (List.mem_cons_of_mem _ hc)]
    simp

lemma escaped_value_closes_no_quote (e : Escapes) (cs : List Char) : '"' ∉ cs.flatMap e.value := by
  simpa using fun c _ => e.value_closes_no_quote c

lemma tagWord_unquoted {cs : List Char} (h : IsTagWord cs) : ∀ c ∈ cs, c ≠ '>' ∧ c ≠ '"' ∧ c ≠ '\'' :=
  fun c hc => ⟨tagChar_ne (h.2 c hc) (by decide), tagChar_ne (h.2 c hc) (by decide),
    tagChar_ne (h.2 c hc) (by decide)⟩

lemma splitTag_attribute (e : Escapes) {a : Attribute} (h : IsTagWord a.1.toList) (read rest : List Char) :
    splitTag none read (renderAttribute e a ++ rest) =
      splitTag none ((renderAttribute e a).reverse ++ read) rest := by
  have hk : ∀ c ∈ ' ' :: (a.1.toList ++ ['=']), c ≠ '>' ∧ c ≠ '"' ∧ c ≠ '\'' := by
    intro c hc
    simp only [List.mem_cons, List.mem_append, List.not_mem_nil, or_false] at hc
    rcases hc with rfl | hc | rfl
    · decide
    · exact tagWord_unquoted h c hc
    · decide
  have hs : renderAttribute e a ++ rest =
      (' ' :: (a.1.toList ++ ['='])) ++ '"' :: (a.2.toList.flatMap e.value ++ '"' :: rest) := by
    simp [renderAttribute]
  rw [hs, splitTag_unquoted hk]
  simp only [splitTag, true_or, if_true]
  rw [splitTag_quoted (escaped_value_closes_no_quote e _)]
  simp [renderAttribute]

lemma splitTag_attributes (e : Escapes) {attributes : List Attribute}
    (h : ∀ a ∈ attributes, IsTagWord a.1.toList) (read rest : List Char) :
    splitTag none read (attributes.flatMap (renderAttribute e) ++ rest) =
      splitTag none ((attributes.flatMap (renderAttribute e)).reverse ++ read) rest := by
  induction attributes generalizing read with
  | nil => rfl
  | cons a attributes ih =>
    rw [List.flatMap_cons, List.append_assoc, splitTag_attribute e (h a (by simp)),
      ih fun b hb => h b (by simp [hb])]
    simp

lemma tag_not_empty (e : Escapes) {name : List Char} (hn : IsTagWord name) (attributes : List Attribute) :
    (name ++ attributes.flatMap (renderAttribute e)).getLast? ≠ some '/' := by
  rcases List.eq_nil_or_concat attributes with rfl | ⟨as, a, rfl⟩
  · intro hl
    have hm : '/' ∈ name := List.mem_of_getLast? (by simpa using hl)
    exact tagChar_ne (hn.2 _ hm) (by decide) rfl
  · have hr : renderAttribute e a = (' ' :: (a.1.toList ++ '=' :: '"' :: a.2.toList.flatMap e.value)) ++
      ['"'] := by
      simp [renderAttribute]
    rw [List.concat_eq_append, List.flatMap_append, List.flatMap_singleton, hr, ← List.append_assoc,
      ← List.append_assoc, List.getLast?_concat]
    decide

lemma tag_split (e : Escapes) {name : List Char} (hn : IsTagWord name) (attributes : List Attribute) :
    tagName (name ++ attributes.flatMap (renderAttribute e)) = name ∧
      tagAttributes (name ++ attributes.flatMap (renderAttribute e)) =
        attributes.flatMap (renderAttribute e) := by
  have hb : ∀ c ∈ name, (!isMarkupBlank c) = true := fun c hc => by simp [tagChar_not_blank (hn.2 c hc)]
  have hr : (attributes.flatMap (renderAttribute e)).takeWhile (fun c => !isMarkupBlank c) = [] ∧
      (attributes.flatMap (renderAttribute e)).dropWhile (fun c => !isMarkupBlank c) =
        attributes.flatMap (renderAttribute e) := by
    cases attributes with
    | nil => simp
    | cons a as => simp [renderAttribute, isMarkupBlank]
  simp only [tagName, tagAttributes]
  rw [List.takeWhile_append_of_pos hb, List.dropWhile_append_of_pos hb, hr.1, hr.2]
  simp

lemma readMarkup_startTag (e : Escapes) {name : List Char} (hn : IsTagWord name)
    {attributes : List Attribute} (ha : ∀ a ∈ attributes, IsTagWord a.1.toList) (rest : List Char) :
    readMarkup? (name ++ attributes.flatMap (renderAttribute e) ++ '>' :: rest) =
      some (.startTag name (attributes.flatMap (renderAttribute e)), rest) := by
  have hs : readStartTag? (name ++ attributes.flatMap (renderAttribute e) ++ '>' :: rest) =
      some (.startTag name (attributes.flatMap (renderAttribute e)), rest) := by
    rw [readStartTag?, List.append_assoc, splitTag_unquoted (tagWord_unquoted hn), splitTag_attributes e ha]
    obtain ⟨ht, hb⟩ := tag_split e hn attributes
    simp only [splitTag, if_true, List.append_nil, List.reverse_append, List.reverse_reverse, Option.map_some]
    rw [if_neg (tag_not_empty e hn attributes), ht, hb]
  obtain ⟨hne, hc⟩ := hn
  cases name with
  | nil => exact (hne rfl).elim
  | cons c cs =>
    have hf := hc c (by simp)
    have h₁ : c ≠ '!' := tagChar_ne hf (by decide)
    have h₂ : c ≠ '?' := tagChar_ne hf (by decide)
    have h₃ : c ≠ '/' := tagChar_ne hf (by decide)
    rw [← hs]
    simp only [List.cons_append]
    unfold readMarkup?
    split <;> simp_all

lemma readMarkup_endTag {name : List Char} (hn : IsTagWord name) (rest : List Char) :
    readMarkup? ('/' :: (name ++ '>' :: rest)) = some (.endTag name, rest) := by
  have hl : name.all isMarkupBlank = false := by
    obtain ⟨hne, hc⟩ := hn
    cases name with
    | nil => exact (hne rfl).elim
    | cons c cs => simp [tagChar_not_blank (hc c (by simp))]
  have hr : name.reverse.dropWhile isMarkupBlank = name.reverse := by
    have hw : IsTagWord name.reverse := ⟨by simpa using hn.1, fun c hc => hn.2 c (by simpa using hc)⟩
    simpa using hw.dropWhile_blank []
  simp only [readMarkup?]
  rw [splitTag_unquoted (tagWord_unquoted hn)]
  simp only [splitTag, if_true, List.append_nil, List.reverse_reverse, Option.map_some, endTagName, hl,
    Bool.false_eq_true, if_false, hr]

lemma tokens_markup {cs rest : List Char} {t : Token} (h : readMarkup? cs = some (t, rest)) :
    tokens ('<' :: cs) = t :: tokens rest := by
  rw [tokens]
  simp only [if_true]
  split
  · rename_i h'
    rw [h] at h'
    cases h'
    rfl
  · rename_i h'
    rw [h] at h'
    cases h'

lemma tokens_text {raw : List Char} (hn : raw ≠ []) (ho : '<' ∉ raw) (rest : List Char) :
    tokens (raw ++ '<' :: rest) = .text raw :: tokens ('<' :: rest) := by
  cases raw with
  | nil => exact (hn rfl).elim
  | cons c cs =>
    have hc : c ≠ '<' := fun h => ho (by simp [h])
    have hcs : ∀ d ∈ cs, (d != '<') = true := by
      intro d hd
      simpa using fun h : d = '<' => ho (List.mem_cons_of_mem _ (h ▸ hd))
    rw [List.cons_append, tokens]
    simp only [hc, if_false]
    rw [List.takeWhile_append_of_pos hcs, List.dropWhile_append_of_pos hcs]
    simp

def rawAttribute (e : Escapes) (a : Attribute) : RawAttribute :=
  ⟨a.1.toList, a.2.toList.flatMap e.value⟩

lemma readQuoted_value (e : Escapes) (v rest : List Char) :
    readQuoted? ('"' :: (v.flatMap e.value ++ '"' :: rest)) = some (v.flatMap e.value, rest) := by
  have hv : ∀ c ∈ v.flatMap e.value, (c != '"') = true := by
    intro c hc
    simpa using fun h : c = '"' => escaped_value_closes_no_quote e v (h ▸ hc)
  simp only [readQuoted?, true_or, if_true]
  rw [List.dropWhile_append_of_pos hv, List.takeWhile_append_of_pos hv]
  simp

lemma readAttribute_render (e : Escapes) {a : Attribute} (h : IsTagWord a.1.toList) (rest : List Char) :
    readAttribute (renderAttribute e a ++ rest) = .attribute (rawAttribute e a) rest := by
  obtain ⟨k, ks, hk⟩ := List.exists_cons_of_ne_nil h.1
  have hks : ∀ c ∈ ks, isKeyChar c = true := fun c hc => tagChar_isKeyChar (h.2 c (by simp [hk, hc]))
  have hs : (renderAttribute e a ++ rest).dropWhile isMarkupBlank =
      k :: (ks ++ '=' :: '"' :: (a.2.toList.flatMap e.value ++ '"' :: rest)) := by
    have hd := h.dropWhile_blank ('=' :: '"' :: (a.2.toList.flatMap e.value ++ '"' :: rest))
    rw [hk] at hd
    simpa [renderAttribute, hk, isMarkupBlank] using hd
  have hb : isMarkupBlank '=' = false := by decide
  have hb' : isMarkupBlank '"' = false := by decide
  have he : isKeyChar '=' = false := by decide
  simp only [readAttribute, hs]
  rw [List.dropWhile_append_of_pos hks, List.takeWhile_append_of_pos hks]
  simp [hb, hb', he, readQuoted_value, rawAttribute, hk]

lemma scanAttributes_render (e : Escapes) {attributes : List Attribute} (seen : List (List Char))
    (hw : ∀ a ∈ attributes, IsTagWord a.1.toList) (hn : (attributes.map Prod.fst).Nodup)
    (hs : ∀ a ∈ attributes, a.1.toList ∉ seen) :
    scanAttributes seen (attributes.flatMap (renderAttribute e)) = ⟨attributes.map (rawAttribute e), true⟩ := by
  induction attributes generalizing seen with
  | nil =>
    rw [scanAttributes]
    rfl
  | cons a attributes ih =>
    rw [List.map_cons, List.nodup_cons] at hn
    have hr := readAttribute_render e (hw a (by simp)) (attributes.flatMap (renderAttribute e))
    have hseen : (rawAttribute e a).key ∉ seen := hs a (by simp)
    have hi := ih (a.1.toList :: seen) (fun b hb => hw b (by simp [hb])) hn.2 (by
      intro b hb hm
      rcases List.mem_cons.mp hm with he | hm
      · rw [String.toList_inj] at he
        exact hn.1 (he ▸ List.mem_map_of_mem hb)
      · exact hs b (by simp [hb]) hm)
    rw [List.flatMap_cons, scanAttributes]
    split
    · rename_i h
      simp [hr] at h
    · rename_i h
      simp [hr] at h
    · rename_i b rest h
      rw [hr] at h
      cases h
      simp only [hseen, if_false]
      simp [rawAttribute, hi]

lemma elementAttributes_cons (a : RawAttribute) (found : List RawAttribute) (wellFormed : Bool) :
    elementAttributes ⟨a :: found, wellFormed⟩ =
      match unescape? a.value with
      | some value =>
        (elementAttributes ⟨found, wellFormed⟩).map ((String.ofList a.key, String.ofList value) :: ·)
      | none => .error .badAttributeValue := by
  simp only [elementAttributes, List.mapM_cons]
  cases unescape? a.value with
  | none => rfl
  | some value =>
    dsimp only
    generalize (List.mapM _ found : Except DocumentError (List Attribute)) = others
    cases others with
    | error f => rfl
    | ok others => cases wellFormed <;> rfl

lemma elementAttributes_render (e : Escapes) {attributes : List Attribute}
    (hw : ∀ a ∈ attributes, IsTagWord a.1.toList) (hn : (attributes.map Prod.fst).Nodup) :
    elementAttributes (readAttributes (attributes.flatMap (renderAttribute e))) = .ok attributes := by
  rw [readAttributes, scanAttributes_render e [] hw hn (by simp)]
  clear hw hn
  induction attributes with
  | nil => rfl
  | cons a attributes ih =>
    rw [List.map_cons, elementAttributes_cons, ih]
    simp [rawAttribute, unescape_flatMap e.value_reads, Except.map]

end IdentityProvider.Xml
