import IdentityProvider.Xml.Character
import IdentityProvider.Text.Blank
import Mathlib.Data.List.Basic
import Mathlib.Data.List.Induction
import Mathlib.Data.List.TakeWhile
/-! Blanks around a text. It is the same to drop them before or after references are replaced. -/

namespace IdentityProvider

namespace Text

variable {p : Char → Bool}

def leading (p : Char → Bool) (cs : List Char) : List Char :=
  cs.takeWhile p

def trailing (p : Char → Bool) (cs : List Char) : List Char :=
  ((cs.dropWhile p).reverse.takeWhile p).reverse

lemma all_leading (p : Char → Bool) (cs : List Char) : (leading p cs).all p = true :=
  List.all_takeWhile

lemma all_trailing (p : Char → Bool) (cs : List Char) : (trailing p cs).all p = true := by
  rw [trailing, List.all_reverse]
  exact List.all_takeWhile

lemma leading_trimBoth_trailing (p : Char → Bool) (cs : List Char) :
    leading p cs ++ trimBoth p cs ++ trailing p cs = cs := by
  rw [leading, trimBoth, trailing, List.append_assoc, ← List.reverse_append, List.takeWhile_append_dropWhile,
    List.reverse_reverse, List.takeWhile_append_dropWhile]

lemma leading_eq_nil {cs : List Char} (h : cs.head?.any p = false) : leading p cs = [] := by
  cases cs with
  | nil => rfl
  | cons c cs => rw [leading, List.takeWhile_cons_of_neg (by simpa using h)]

lemma trailing_eq_nil {cs : List Char} (h : cs.getLast?.any p = false) : trailing p cs = [] := by
  by_contra hne
  have hlast : cs.getLast? = (trailing p cs).getLast? := by
    rw [← leading_trimBoth_trailing p cs, List.getLast?_append_of_ne_nil _ hne, leading_trimBoth_trailing]
  rw [hlast, List.getLast?_eq_some_getLast hne, Option.any_some] at h
  rw [List.all_eq_true.mp (all_trailing p cs) _ (List.getLast_mem hne)] at h
  cases h

lemma dropWhile_all {cs : List Char} (h : cs.all p = true) : cs.dropWhile p = [] :=
  List.dropWhile_eq_nil_iff.mpr (List.all_eq_true.mp h)

lemma all_ne_of_not_mem {c : Char} {cs : List Char} (h : c ∉ cs) : cs.all (· != c) = true := by
  rw [List.all_eq_true]
  intro d hd
  rw [bne_iff_ne]
  rintro rfl
  exact h hd

lemma dropWhile_eq_cons {cs rest : List Char} {c : Char} (h : cs.dropWhile p = c :: rest) :
    cs = cs.takeWhile p ++ c :: rest ∧ p c = false := by
  refine ⟨by rw [← h, List.takeWhile_append_dropWhile], ?_⟩
  have hc := List.head?_dropWhile_not p cs
  rw [h] at hc
  simpa using hc

lemma splitWhile_append {α : Type} {p : α → Bool} {cs rest : List α} (h : cs.all p = true)
    (hr : rest.head?.any p = false) :
    (cs ++ rest).takeWhile p = cs ∧ (cs ++ rest).dropWhile p = rest := by
  rw [List.takeWhile_append_of_pos (List.all_eq_true.mp h), List.dropWhile_append_of_pos (List.all_eq_true.mp h)]
  cases rest with
  | nil => simp
  | cons c rest =>
    have hc : p c = false := by simpa using hr
    simp [hc]

lemma trimBoth_before {before : List Char} (h : before.all p = true) (cs : List Char) :
    trimBoth p (before ++ cs) = trimBoth p cs := by
  rw [trimBoth, List.dropWhile_append_of_pos (List.all_eq_true.mp h), trimBoth]

lemma trimBoth_after (cs : List Char) {after : List Char} (h : after.all p = true) :
    trimBoth p (cs ++ after) = trimBoth p cs := by
  rw [trimBoth, trimBoth, List.dropWhile_append]
  split
  · rename_i hcs
    rw [List.isEmpty_iff] at hcs
    rw [hcs, dropWhile_all h]
  · rw [List.reverse_append, List.dropWhile_append_of_pos]
    simpa using h

lemma trimBoth_between {before after : List Char} (hb : before.all p = true) (cs : List Char)
    (ha : after.all p = true) :
    trimBoth p (before ++ cs ++ after) = trimBoth p cs := by
  rw [trimBoth_after _ ha, trimBoth_before hb]

lemma trimBoth_all {cs : List Char} (h : cs.all p = true) : trimBoth p cs = [] := by
  rw [trimBoth, dropWhile_all h]
  rfl

lemma trimBoth_eq_nil_iff {cs : List Char} : trimBoth p cs = [] ↔ cs.all p = true := by
  constructor
  · intro h
    rw [← leading_trimBoth_trailing p cs, h, List.append_nil, List.all_append, all_leading, all_trailing]
    rfl
  · exact trimBoth_all

lemma filter_not_of_all {cs : List Char} (h : cs.all p = true) : cs.filter (fun c => !p c) = [] := by
  rw [List.filter_eq_nil_iff]
  intro c hc
  simpa using List.all_eq_true.mp h c hc

lemma removeBlanks_trim (s : String) : removeBlanks (trim s) = removeBlanks s := by
  have hs := leading_trimBoth_trailing isBlank s.toList
  rw [removeBlanks, trim, String.toList_ofList, removeBlanks, ← hs, List.filter_append, List.filter_append, hs,
    filter_not_of_all (all_leading _ _), filter_not_of_all (all_trailing _ _), List.append_nil, List.nil_append]

section Joined

variable {α : Type} {before inner after rest : α → List Char} {xs : List α}

lemma trimBoth_joined_before (hb : ∀ x, (before x).all p = true)
    (h : ∀ ys x zs, xs = ys ++ x :: zs → before x = [] ∨ ∀ y ∈ ys, (rest y).all p = true) :
    trimBoth p (xs.flatMap fun x => before x ++ rest x) = trimBoth p (xs.flatMap rest) := by
  induction xs with
  | nil => rfl
  | cons x xs ih =>
    rw [List.flatMap_cons, List.flatMap_cons]
    by_cases hx : (rest x).all p = true
    · have hall : (before x ++ rest x).all p = true := by
        rw [List.all_append, hb, hx]
        rfl
      rw [trimBoth_before hall, trimBoth_before hx]
      apply ih
      intro ys y zs he
      rw [he] at h
      exact (h (x :: ys) y zs rfl).imp_right fun hblank z hz => hblank z (List.mem_cons_of_mem x hz)
    · -- From here on no blank may stand before anything.
      have hrest : xs.flatMap (fun x => before x ++ rest x) = xs.flatMap rest := by
        apply List.flatMap_congr
        intro y hy
        obtain ⟨ys, zs, rfl⟩ := List.append_of_mem hy
        rcases h (x :: ys) y zs rfl with hnone | hblank
        · rw [hnone, List.nil_append]
        · exact absurd (hblank x List.mem_cons_self) hx
      rw [hrest, List.append_assoc, trimBoth_before (hb x)]

lemma trimBoth_joined_after (ha : ∀ x, (after x).all p = true)
    (h : ∀ ys x zs, xs = ys ++ x :: zs → after x = [] ∨ ∀ z ∈ zs, (rest z).all p = true) :
    trimBoth p (xs.flatMap fun x => rest x ++ after x) = trimBoth p (xs.flatMap rest) := by
  induction xs using List.reverseRecOn with
  | nil => rfl
  | append_singleton xs x ih =>
    rw [List.flatMap_append, List.flatMap_append, List.flatMap_singleton, List.flatMap_singleton]
    by_cases hx : (rest x).all p = true
    · have hall : (rest x ++ after x).all p = true := by
        rw [List.all_append, ha, hx]
        rfl
      rw [trimBoth_after _ hall, trimBoth_after _ hx]
      apply ih
      intro ys y zs he
      rw [he] at h
      refine (h ys y (zs ++ [x]) (by simp)).imp_right fun hblank z hz => hblank z (List.mem_append_left _ hz)
    · have hrest : xs.flatMap (fun x => rest x ++ after x) = xs.flatMap rest := by
        apply List.flatMap_congr
        intro y hy
        obtain ⟨ys, zs, rfl⟩ := List.append_of_mem hy
        rcases h ys y (zs ++ [x]) (by simp) with hnone | hblank
        · rw [hnone, List.append_nil]
        · exact absurd (hblank x (by simp)) hx
      rw [hrest, ← List.append_assoc, trimBoth_after _ (ha x)]

/-- Parts may be trimmed before they are joined, if blanks are dropped at the outside alone. -/
lemma trimBoth_joined (hb : ∀ x, (before x).all p = true) (ha : ∀ x, (after x).all p = true)
    (hbefore : ∀ ys x zs, xs = ys ++ x :: zs →
      before x = [] ∨ ∀ y ∈ ys, (before y ++ inner y ++ after y).all p = true)
    (hafter : ∀ ys x zs, xs = ys ++ x :: zs →
      after x = [] ∨ ∀ z ∈ zs, (before z ++ inner z ++ after z).all p = true) :
    trimBoth p (xs.flatMap fun x => before x ++ inner x ++ after x) = trimBoth p (xs.flatMap inner) := by
  simp only [List.append_assoc, List.all_append, Bool.and_eq_true] at hbefore hafter ⊢
  rw [trimBoth_joined_before hb fun ys x zs he => (hbefore ys x zs he).imp_right fun hblank y hy => by
      rw [List.all_append, (hblank y hy).2.1, (hblank y hy).2.2]
      rfl]
  exact trimBoth_joined_after ha fun ys x zs he => (hafter ys x zs he).imp_right fun hblank z hz =>
    (hblank z hz).2.1

end Joined

end Text

namespace Xml

open Text (isMarkupBlank isBlank trimBoth)

lemma isBlank_of_markup {cs : List Char} (h : cs.all isMarkupBlank = true) : cs.all isBlank = true := by
  rw [List.all_eq_true] at h ⊢
  exact fun c hc => Text.isBlank_of_isMarkupBlank (h c hc)

def isOutsideReferences (c : Char) : Bool :=
  c != '&' && c != ';'

lemma markupBlank_isOutsideReferences {cs : List Char} (h : cs.all isMarkupBlank = true) :
    ∀ c ∈ cs, isOutsideReferences c = true := by
  intro c hc
  have hb := List.all_eq_true.mp h c hc
  simp only [isMarkupBlank, Bool.or_eq_true, beq_iff_eq] at hb
  rcases hb with ((rfl | rfl) | rfl) | rfl <;> rfl

lemma unescapeOnto_before {before : List Char} (h : ∀ c ∈ before, isOutsideReferences c = true)
    (done cs : List Char) :
    unescapeOnto done none (before ++ cs) = unescapeOnto (before.reverse ++ done) none cs := by
  induction before generalizing done with
  | nil => rfl
  | cons c before ih =>
    have hc : c ≠ '&' := by
      have := h c (by simp)
      simp only [isOutsideReferences, Bool.and_eq_true, bne_iff_ne, ne_eq] at this
      exact this.1
    simp only [List.cons_append, unescapeOnto, hc, if_false]
    rw [ih fun d hd => h d (List.mem_cons_of_mem c hd)]
    simp

lemma unescapeOnto_done (done : List Char) (reference : Option (List Char)) (cs : List Char) :
    unescapeOnto done reference cs = (unescapeOnto [] reference cs).map (done.reverse ++ ·) := by
  induction cs generalizing done reference with
  | nil => cases reference <;> simp [unescapeOnto]
  | cons c cs ih =>
    cases reference with
    | none =>
      simp only [unescapeOnto]
      split_ifs
      · exact ih done (some [])
      · rw [ih (c :: done), ih [c]]
        cases unescapeOnto [] none cs <;> simp
    | some body =>
      simp only [unescapeOnto]
      split_ifs
      · cases reference? body.reverse with
        | none => rfl
        | some d =>
          dsimp only
          rw [ih (d :: done), ih [d]]
          cases unescapeOnto [] none cs <;> simp
      · rfl
      · exact ih done (some (c :: body))

lemma unescapeOnto_after {after : List Char} (h : ∀ c ∈ after, isOutsideReferences c = true) (done : List Char)
    (reference : Option (List Char)) (cs : List Char) :
    unescapeOnto done reference (cs ++ after) = (unescapeOnto done reference cs).map (· ++ after) := by
  induction cs generalizing done reference with
  | nil =>
    cases reference with
    | none =>
      have hb := unescapeOnto_before h done []
      simp only [List.append_nil] at hb
      simp [hb, unescapeOnto]
    | some body =>
      simp only [List.nil_append]
      induction after generalizing body with
      | nil => rfl
      | cons c after ih =>
        have hc := h c (by simp)
        simp only [isOutsideReferences, Bool.and_eq_true, bne_iff_ne, ne_eq] at hc
        simp only [unescapeOnto, hc.1, hc.2, if_false]
        exact ih (fun d hd => h d (List.mem_cons_of_mem c hd)) (c :: body)
  | cons c cs ih =>
    cases reference with
    | none =>
      simp only [List.cons_append, unescapeOnto]
      split_ifs <;> exact ih _ _
    | some body =>
      simp only [List.cons_append, unescapeOnto]
      split_ifs
      · cases reference? body.reverse with
        | none => rfl
        | some d => exact ih _ _
      · rfl
      · exact ih _ _

lemma unescape_trimBoth (raw : List Char) :
    unescape? raw = (unescape? (trimBoth isMarkupBlank raw)).map fun text =>
    Text.leading isMarkupBlank raw ++ text ++ Text.trailing isMarkupBlank raw := by
  have hb := markupBlank_isOutsideReferences (Text.all_leading isMarkupBlank raw)
  have ha := markupBlank_isOutsideReferences (Text.all_trailing isMarkupBlank raw)
  calc unescape? raw = unescapeOnto [] none (Text.leading isMarkupBlank raw ++
          (trimBoth isMarkupBlank raw ++ Text.trailing isMarkupBlank raw)) := by
        rw [← List.append_assoc, Text.leading_trimBoth_trailing, unescape?]
    _ = (unescapeOnto ((Text.leading isMarkupBlank raw).reverse ++ []) none (trimBoth isMarkupBlank raw)).map
          (· ++ Text.trailing isMarkupBlank raw) := by
        rw [unescapeOnto_before hb, unescapeOnto_after ha]
    _ = (unescape? (trimBoth isMarkupBlank raw)).map fun text =>
          Text.leading isMarkupBlank raw ++ text ++ Text.trailing isMarkupBlank raw := by
        rw [unescapeOnto_done, Option.map_map, unescape?]
        congr 1
        funext text
        simp

lemma unescape_trimmed {raw text : List Char} (h : unescape? raw = some text) :
    ∃ inner, unescape? (trimBoth isMarkupBlank raw) = some inner ∧
      Text.leading isMarkupBlank raw ++ inner ++ Text.trailing isMarkupBlank raw = text := by
  rw [unescape_trimBoth] at h
  exact Option.map_eq_some_iff.mp h

lemma trimBoth_unescape {raw text : List Char} (h : unescape? raw = some text) :
    ∃ inner, unescape? (trimBoth isMarkupBlank raw) = some inner ∧
      trimBoth isBlank inner = trimBoth isBlank text := by
  obtain ⟨inner, hinner, rfl⟩ := unescape_trimmed h
  exact ⟨inner, hinner, (Text.trimBoth_between (isBlank_of_markup (Text.all_leading _ _)) inner
    (isBlank_of_markup (Text.all_trailing _ _))).symm⟩

end Xml

end IdentityProvider
