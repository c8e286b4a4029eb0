import Mathlib.Data.Fin.Basic
import Mathlib.Data.List.Basic
import Mathlib.Data.List.Count
import Mathlib.Data.Nat.Digits.Defs
import IdentityProvider.Net.Address
import IdentityProvider.Proofs.Xml.Trimming
/-! The addresses of the internet as data, each with the text that it stands for. What is read as an address is
the text of one, and each text of one is read. -/

namespace IdentityProvider.Net

open Text

def octet (n : Fin 256) : List Char :=
  Nat.toDigits 10 n

structure Ipv4 where
  first : Fin 256
  second : Fin 256
  third : Fin 256
  fourth : Fin 256
deriving DecidableEq

def Ipv4.text (a : Ipv4) : List Char :=
  octet a.first ++ '.' :: (octet a.second ++ '.' :: (octet a.third ++ '.' :: octet a.fourth))

lemma octet_digits (n : Fin 256) : (octet n).all Char.isDigit = true ∧
    numeral 10 decimalValue (octet n) = some n.val ∧
    (octet n).length ≤ 3 ∧ ((octet n).length = 1 ∨ (octet n).head? ≠ some '0') := by
  revert n
  decide +kernel

lemma exists_digitChar {c : Char} (h : c.isDigit = true) : ∃ d : Fin 10, c = Nat.digitChar d := by
  simp only [Char.isDigit, Bool.and_eq_true, decide_eq_true_eq] at h
  have hlow : 48 ≤ c.toNat := h.1
  have hhigh : c.toNat ≤ 57 := h.2
  refine ⟨⟨c.toNat - 48, by omega⟩, Char.toNat_inj.mp ?_⟩
  rw [Nat.toNat_digitChar_of_lt_ten (by omega : c.toNat - 48 < 10)]
  omega

lemma decimalValue_digitChar (d : Fin 10) : decimalValue (Nat.digitChar d) = some d.val := by
  revert d
  decide

def putDigit (n : Nat) (c : Char) : Option Nat :=
  (decimalValue c).map (10 * n + ·)

lemma foldlM_putDigit (d : Fin 10) (ds : List Char) (n : Nat) :
    (Nat.digitChar d :: ds).foldlM putDigit n = ds.foldlM putDigit (10 * n + d) := by
  rw [List.foldlM_cons, putDigit, decimalValue_digitChar]
  rfl

lemma toDigits_of_foldlM {ds : List Char} (hd : ds.all Char.isDigit = true) {m n : Nat} (hm : 0 < m)
    (h : ds.foldlM putDigit m = some n) :
    Nat.toDigits 10 n = Nat.toDigits 10 m ++ ds := by
  induction ds generalizing m with
  | nil =>
    rw [List.foldlM_nil] at h
    rw [Option.some.inj h, List.append_nil]
  | cons c ds ih =>
    rw [List.all_cons, Bool.and_eq_true] at hd
    obtain ⟨d, rfl⟩ := exists_digitChar hd.1
    have hlt := d.isLt
    have hstep : Nat.toDigits 10 (10 * m + d) = Nat.toDigits 10 m ++ [Nat.digitChar d] := by
      have hdiv : (10 * m + d.val) / 10 = m := by omega
      have hmod : (10 * m + d.val) % 10 = d := by omega
      rw [Nat.toDigits_of_base_le (by decide) (by omega), hdiv, hmod]
    rw [foldlM_putDigit] at h
    rw [ih hd.2 (by omega) h, hstep, List.append_assoc, List.singleton_append]

lemma toDigits_of_numeral {ds : List Char} (hd : ds.all Char.isDigit = true) {n : Nat}
    (h : numeral 10 decimalValue ds = some n) (hz : ds.length = 1 ∨ ds.head? ≠ some '0') :
    Nat.toDigits 10 n = ds := by
  cases ds with
  | nil => cases h
  | cons c ds =>
    rw [List.all_cons, Bool.and_eq_true] at hd
    obtain ⟨d, rfl⟩ := exists_digitChar hd.1
    have hone : Nat.toDigits 10 d = [Nat.digitChar d] := Nat.toDigits_of_lt_base d.isLt
    have hfold : ds.foldlM putDigit (10 * 0 + d) = some n := by
      rw [← foldlM_putDigit]
      exact h
    by_cases hpos : d.val = 0
    · have hnil : ds = [] := by simpa [hpos] using hz
      subst hnil
      rw [← Option.some.inj hfold, Nat.mul_zero, Nat.zero_add, hone]
    · rw [toDigits_of_foldlM hd.2 (by omega) hfold, Nat.mul_zero, Nat.zero_add, hone, List.singleton_append]

lemma readOctet_octet (n : Fin 256) {rest : List Char} (hr : rest.head?.any Char.isDigit = false) :
    readOctet? (octet n ++ rest) = some rest := by
  obtain ⟨hdigits, hvalue, hlength, hzero⟩ := octet_digits n
  obtain ⟨htake, hdrop⟩ := splitWhile_append hdigits hr
  rw [readOctet?, htake, hdrop]
  simp only [hvalue]
  exact if_pos ⟨hlength, n.isLt, hzero⟩

lemma readOctet_eq_some {cs rest : List Char} (h : readOctet? cs = some rest) :
    (∃ n, cs = octet n ++ rest) ∧ rest = cs.dropWhile Char.isDigit := by
  unfold readOctet? at h
  extract_lets ds at h
  split at h
  · rename_i n hn
    split at h
    · rename_i hfits
      cases h
      refine ⟨⟨⟨n, hfits.2.1⟩, ?_⟩, rfl⟩
      rw [octet, toDigits_of_numeral List.all_takeWhile hn hfits.2.2, List.takeWhile_append_dropWhile]
    · cases h
  · cases h

lemma readDot_eq_some_iff {cs rest : List Char} : readDot? cs = some rest ↔ cs = '.' :: rest := by
  unfold readDot?
  split
  · rw [Option.some.injEq, List.cons.injEq, eq_self, true_and]
  · rename_i hne
    exact iff_of_false nofun (hne rest)

lemma readIpv4_text (a : Ipv4) {rest : List Char} (hr : rest.head?.any Char.isDigit = false) :
    readIpv4? (a.text ++ rest) = some rest := by
  have hdot : ∀ n cs, readOctet? (octet n ++ '.' :: cs) = some ('.' :: cs) := fun n cs => readOctet_octet n rfl
  simp only [readIpv4?, Ipv4.text, List.append_assoc, List.cons_append, hdot, readDot?, readOctet_octet _ hr, bind,
    Option.bind]

lemma readIpv4_eq_some {cs rest : List Char} (h : readIpv4? cs = some rest) : ∃ a : Ipv4, cs = a.text ++ rest := by
  simp only [readIpv4?, Option.bind_eq_bind, Option.bind_eq_some_iff, readDot_eq_some_iff] at h
  obtain ⟨_, h1, _, rfl, _, h2, _, rfl, _, h3, _, rfl, h4⟩ := h
  obtain ⟨⟨a, rfl⟩, _⟩ := readOctet_eq_some h1
  obtain ⟨⟨b, rfl⟩, _⟩ := readOctet_eq_some h2
  obtain ⟨⟨c, rfl⟩, _⟩ := readOctet_eq_some h3
  obtain ⟨⟨d, rfl⟩, _⟩ := readOctet_eq_some h4
  exact ⟨⟨a, b, c, d⟩, by simp [Ipv4.text]⟩

lemma readIpv4_eq_none {cs : List Char} (h : (cs.dropWhile Char.isDigit).head? ≠ some '.') :
    readIpv4? cs = none := by
  rw [readIpv4?]
  cases ho : readOctet? cs with
  | none => rfl
  | some rest =>
    have hdot : readDot? rest = none := by
      cases hd : readDot? rest with
      | none => rfl
      | some after =>
        rw [(readOctet_eq_some ho).2, readDot_eq_some_iff] at hd
        exact absurd (congrArg List.head? hd) h
    simp only [hdot, bind, Option.bind]

theorem isIpv4_iff {cs : List Char} : isIpv4 cs = true ↔ ∃ a : Ipv4, cs = a.text := by
  rw [isIpv4, beq_iff_eq]
  constructor
  · intro h
    obtain ⟨a, ha⟩ := readIpv4_eq_some h
    exact ⟨a, by rw [ha, List.append_nil]⟩
  · rintro ⟨a, rfl⟩
    have h : readIpv4? (a.text ++ []) = some [] := readIpv4_text a rfl
    rwa [List.append_nil] at h

structure Group where
  digits : List Char
  nonempty : digits ≠ []
  length_le : digits.length ≤ 4
  all_hex : digits.all isHexDigit = true

structure Run where
  groups : List Group
  tail : Option Ipv4 := none

namespace Run

def count (r : Run) : Nat :=
  r.groups.length + 2 * r.tail.toList.length

def parts (r : Run) : List (List Char) :=
  r.groups.map Group.digits ++ r.tail.toList.map Ipv4.text

def text (r : Run) : List Char :=
  [':'].intercalate r.parts

end Run

/-- Eight groups, or fewer with two colons where groups of zeros are left out. -/
inductive Ipv6 where
  | full (r : Run) (eight : r.count = 8)
  | compressed (front : List Group) (back : Run) (fewer : front.length + back.count < 8)

def Ipv6.text : Ipv6 → List Char
  | full r _ => r.text
  | compressed front back _ => Run.text ⟨front, none⟩ ++ ':' :: ':' :: back.text

def spelled (isFirst : Bool) : List (List Char) → List Char
  | [] => []
  | part :: parts => (if isFirst then part else ':' :: part) ++ spelled false parts

lemma text_eq_spelled (r : Run) : r.text = spelled true r.parts := by
  have hfollowing : ∀ part parts, [':'].intercalate (part :: parts) = part ++ spelled false parts := by
    intro part parts
    induction parts generalizing part with
    | nil => rw [List.intercalate_singleton, spelled, List.append_nil]
    | cons next parts ih =>
      rw [List.intercalate_cons_cons, List.append_assoc, ih]
      rfl
  rw [Run.text]
  cases r.parts with
  | nil => rfl
  | cons part parts => exact hfollowing part parts

def EndsPart (rest : List Char) : Prop :=
  rest = [] ∨ ∃ after, rest = ':' :: after

def EndsRun (rest : List Char) : Prop :=
  rest = [] ∨ ∃ after, rest = ':' :: ':' :: after

lemma EndsRun.endsPart {rest : List Char} (h : EndsRun rest) : EndsPart rest :=
  h.imp_right fun ⟨after, ha⟩ => ⟨':' :: after, ha⟩

lemma EndsPart.head_not {rest : List Char} (h : EndsPart rest) {p : Char → Bool} (hp : p ':' = false) :
    rest.head?.any p = false := by
  obtain rfl | ⟨after, rfl⟩ := h
  · rfl
  · exact hp

lemma EndsPart.spelled {rest : List Char} (h : EndsPart rest) (parts : List (List Char)) :
    EndsPart (spelled false parts ++ rest) := by
  cases parts with
  | nil => exact h
  | cons part parts => exact Or.inr ⟨_, rfl⟩

lemma readGroup_digits (g : Group) {rest : List Char} (h : EndsPart rest) :
    readGroup? (g.digits ++ rest) = some rest := by
  obtain ⟨htake, hdrop⟩ := splitWhile_append g.all_hex (h.head_not (by decide))
  have hpos := List.length_pos_iff.mpr g.nonempty
  rw [readGroup?, htake, hdrop]
  exact if_pos ⟨hpos, g.length_le⟩

lemma readGroup_eq_some {cs rest : List Char} (h : readGroup? cs = some rest) :
    ∃ g : Group, cs = g.digits ++ rest := by
  unfold readGroup? at h
  extract_lets ds at h
  split at h
  · rename_i hfits
    cases h
    exact ⟨⟨ds, List.length_pos_iff.mp hfits.1, hfits.2, List.all_takeWhile⟩, List.takeWhile_append_dropWhile.symm⟩
  · cases h

lemma readIpv4_digits (g : Group) {rest : List Char} (h : EndsPart rest) :
    readIpv4? (g.digits ++ rest) = none := by
  apply readIpv4_eq_none
  rw [List.dropWhile_append]
  cases hd : g.digits.dropWhile Char.isDigit with
  | nil =>
    obtain rfl | ⟨after, rfl⟩ := h
    · exact nofun
    · exact fun hcolon => absurd (Option.some.inj hcolon) (by decide)
  | cons c cs =>
    have hc : isHexDigit c = true := by
      apply List.all_eq_true.mp g.all_hex c
      rw [(dropWhile_eq_cons hd).1]
      exact List.mem_append_right _ List.mem_cons_self
    intro hdot
    rw [Option.some.inj hdot] at hc
    exact absurd hc (by decide)

lemma groupStart_spelled (isFirst : Bool) (part : List Char) (parts : List (List Char)) (rest : List Char) :
    groupStart? isFirst (spelled isFirst (part :: parts) ++ rest) =
      some (part ++ (spelled false parts ++ rest)) := by
  cases isFirst <;> simp [groupStart?, spelled]

lemma groupStart_eq_some {isFirst : Bool} {cs start : List Char} (h : groupStart? isFirst cs = some start) :
    cs = if isFirst then start else ':' :: start := by
  cases isFirst with
  | true => exact Option.some.inj h
  | false =>
    simp only [groupStart?, Bool.false_eq_true, if_false] at h ⊢
    split at h
    · rw [Option.some.inj h]
    · cases h

lemma groupStart_ends {isFirst : Bool} {cs start : List Char} (hr : EndsRun cs)
    (h : groupStart? isFirst cs = some start) :
    EndsPart start := by
  have he := groupStart_eq_some h
  obtain rfl | ⟨after, rfl⟩ := hr <;> cases isFirst <;> simp only [if_true, Bool.false_eq_true, if_false] at he
  · cases he
  · exact Or.inl he.symm
  · exact Or.inr ⟨after, ((List.cons.inj he).2).symm⟩
  · exact Or.inr ⟨':' :: after, he.symm⟩

lemma readGroups_ends (isFirst : Bool) {rest : List Char} (h : EndsRun rest) (room : Nat) :
    readGroups isFirst rest room = ⟨0, false, rest⟩ := by
  cases room with
  | zero => rfl
  | succ room =>
    rw [readGroups]
    cases hs : groupStart? isFirst rest with
    | none => rfl
    | some start =>
      have hstart := groupStart_ends h hs
      have hnone : readIpv4? start = none ∧ readGroup? start = none := by
        obtain rfl | ⟨after, rfl⟩ := hstart <;> exact ⟨rfl, rfl⟩
      simp only [hnone.1, hnone.2, ite_self]

lemma readGroups_run (isFirst : Bool) (r : Run) {rest : List Char} (hr : EndsRun rest) {room : Nat}
    (hc : r.count ≤ room) :
    readGroups isFirst (spelled isFirst r.parts ++ rest) room = ⟨r.count, r.tail.isSome, rest⟩ := by
  obtain ⟨groups, tail⟩ := r
  induction groups generalizing isFirst room with
  | nil =>
    cases tail with
    | none => exact readGroups_ends isFirst hr room
    | some a =>
      obtain ⟨room, rfl⟩ : ∃ k, room = k + 2 := ⟨room - 2, by simp [Run.count] at hc; omega⟩
      have hparts : Run.parts ⟨[], some a⟩ = [a.text] := rfl
      rw [hparts, readGroups, groupStart_spelled]
      simp only [spelled, List.nil_append, Nat.zero_lt_succ, if_true,
        readIpv4_text a (hr.endsPart.head_not (by decide))]
      rfl
  | cons g groups ih =>
    have hcount : Run.count ⟨g :: groups, tail⟩ = Run.count ⟨groups, tail⟩ + 1 := by
      simp only [Run.count, List.length_cons]
      omega
    have hparts : Run.parts ⟨g :: groups, tail⟩ = g.digits :: Run.parts ⟨groups, tail⟩ := rfl
    obtain ⟨room, rfl⟩ : ∃ k, room = k + 1 := ⟨room - 1, by omega⟩
    have hends := hr.endsPart.spelled (Run.parts ⟨groups, tail⟩)
    have hmore := @ih false room (by omega)
    rw [hparts, readGroups, groupStart_spelled, hcount]
    simp only [readIpv4_digits g hends, readGroup_digits g hends, ite_self, hmore]

lemma spelled_start {isFirst : Bool} {cs part rest : List Char} {parts : List (List Char)}
    (h : groupStart? isFirst cs = some (part ++ (spelled false parts ++ rest))) :
    cs = spelled isFirst (part :: parts) ++ rest := by
  rw [groupStart_eq_some h]
  cases isFirst <;> simp [spelled]

lemma readGroups_eq (isFirst : Bool) (cs : List Char) (room : Nat) :
    ∃ (r : Run) (rest : List Char), r.count ≤ room ∧
    cs = spelled isFirst r.parts ++ rest ∧ readGroups isFirst cs room = ⟨r.count, r.tail.isSome, rest⟩ := by
  have hnone : ∀ room, ∃ (r : Run) (rest : List Char), r.count ≤ room ∧ cs = spelled isFirst r.parts ++ rest ∧
      (⟨0, false, cs⟩ : Groups) = ⟨r.count, r.tail.isSome, rest⟩ :=
    fun room => ⟨⟨[], none⟩, cs, Nat.zero_le room, rfl, rfl⟩
  induction room generalizing isFirst cs with
  | zero => exact hnone 0
  | succ room ih =>
    rw [readGroups]
    split
    · exact hnone _
    · rename_i start hs
      split
      · rename_i rest hi
        -- Four decimal numbers are looked for only where two groups have room.
        have hroom : 0 < room := by
          by_contra hz
          rw [if_neg hz] at hi
          cases hi
        rw [if_pos hroom] at hi
        obtain ⟨a, rfl⟩ := readIpv4_eq_some hi
        have hcount : Run.count ⟨[], some a⟩ = 2 := rfl
        have hstart : cs = spelled isFirst [a.text] ++ rest := spelled_start hs
        exact ⟨⟨[], some a⟩, rest, by omega, hstart, rfl⟩
      · split
        · exact hnone _
        · rename_i rest hg
          obtain ⟨g, rfl⟩ := readGroup_eq_some hg
          obtain ⟨⟨groups, tail⟩, after, hc, rfl, hread⟩ :=
            ih false rest fun _ => ⟨⟨[], none⟩, rest, Nat.zero_le _, rfl, rfl⟩
          have hcount : Run.count ⟨g :: groups, tail⟩ = Run.count ⟨groups, tail⟩ + 1 := by
            simp only [Run.count, List.length_cons]
            omega
          refine ⟨⟨g :: groups, tail⟩, after, by omega, spelled_start hs, ?_⟩
          simp only [hread, hcount]

lemma count_front (front : List Group) : Run.count ⟨front, none⟩ = front.length := rfl

lemma readGroups_text (r : Run) {rest : List Char} (hr : EndsRun rest) (room : Nat) (hc : r.count ≤ room) :
    readGroups true (r.text ++ rest) room = ⟨r.count, r.tail.isSome, rest⟩ := by
  rw [text_eq_spelled]
  exact readGroups_run true r hr hc

lemma isIpv6_text (a : Ipv6) : isIpv6 a.text = true := by
  cases a with
  | full r eight =>
    have hread := readGroups_text r (Or.inl rfl) 8 (Nat.le_of_eq eight)
    rw [List.append_nil, eight] at hread
    simp only [isIpv6, Ipv6.text, hread, if_true, BEq.rfl]
  | compressed front back fewer =>
    have hread := readGroups_text ⟨front, none⟩ (Or.inr ⟨back.text, rfl⟩) 8 (by rw [count_front]; omega)
    have hback := readGroups_text back (Or.inl rfl) (7 - front.length) (by omega)
    have hne : front.length ≠ 8 := by omega
    rw [List.append_nil] at hback
    rw [count_front] at hread
    simp only [isIpv6, Ipv6.text, hread, if_neg hne, Option.isSome_none, Bool.false_eq_true, if_false,
      hback, BEq.rfl]

lemma exists_ipv6 {cs : List Char} (h : isIpv6 cs = true) : ∃ a : Ipv6, cs = a.text := by
  obtain ⟨r, rest, hc, rfl, hread⟩ := readGroups_eq true cs 8
  simp only [isIpv6, hread] at h
  split at h
  · rename_i eight
    rw [beq_iff_eq.mp h, List.append_nil]
    exact ⟨.full r eight, (text_eq_spelled r).symm⟩
  · rename_i hne
    split at h
    · cases h
    · rename_i htail
      obtain ⟨front, tail⟩ := r
      obtain rfl : tail = none := by simpa using htail
      rw [count_front] at hc hne h
      split at h
      · rename_i after
        obtain ⟨back, ending, hback, rfl, hread'⟩ := readGroups_eq true after (7 - front.length)
        obtain rfl : ending = [] := by simpa [hread'] using h
        refine ⟨.compressed front back (by omega), ?_⟩
        rw [Ipv6.text, text_eq_spelled, text_eq_spelled, List.append_nil]
      · cases h

theorem isIpv6_iff {cs : List Char} : isIpv6 cs = true ↔ ∃ a : Ipv6, cs = a.text :=
  ⟨exists_ipv6, fun ⟨a, ha⟩ => ha ▸ isIpv6_text a⟩

def isPartChar (c : Char) : Bool :=
  isHexDigit c || c == '.'

lemma isHexDigit_of_isDigit {c : Char} (h : c.isDigit = true) : isHexDigit c = true := by
  obtain ⟨d, rfl⟩ := exists_digitChar h
  revert d
  decide

lemma Ipv4.all_text (a : Ipv4) : a.text.all isPartChar = true := by
  have hoctet : ∀ n, (octet n).all isPartChar = true := by
    intro n
    rw [List.all_eq_true]
    intro c hc
    rw [isPartChar, isHexDigit_of_isDigit (List.all_eq_true.mp (octet_digits n).1 c hc), Bool.true_or]
  have hdot : isPartChar '.' = true := by decide
  simp only [Ipv4.text, List.all_append, List.all_cons, hoctet, hdot, Bool.and_self]

lemma Run.all_parts (r : Run) : ∀ part ∈ r.parts, part.all isPartChar = true := by
  intro part hp
  rw [Run.parts, List.mem_append, List.mem_map, List.mem_map] at hp
  rcases hp with ⟨g, _, rfl⟩ | ⟨a, _, rfl⟩
  · rw [List.all_eq_true]
    intro c hc
    rw [isPartChar, List.all_eq_true.mp g.all_hex c hc, Bool.true_or]
  · exact a.all_text

lemma count_colon {part : List Char} (h : part.all isPartChar = true) : part.count ':' = 0 := by
  rw [List.count_eq_zero]
  intro hm
  exact absurd (List.all_eq_true.mp h ':' hm) (by decide)

lemma spelled_count {parts : List (List Char)} (h : ∀ part ∈ parts, part.all isPartChar = true) :
    (spelled false parts).count ':' = parts.length := by
  induction parts with
  | nil => rfl
  | cons part parts ih =>
    rw [List.forall_mem_cons] at h
    simp [spelled, ih h.2, count_colon h.1]

lemma Run.colons (r : Run) : r.count ≤ r.text.count ':' + 2 := by
  have hlength : r.count ≤ r.parts.length + r.tail.toList.length := by
    simp only [Run.count, Run.parts, List.length_append, List.length_map]
    omega
  have htail : r.tail.toList.length ≤ 1 := by
    cases r.tail <;> simp
  have hall := r.all_parts
  rw [text_eq_spelled]
  cases hp : r.parts with
  | nil =>
    rw [hp, List.length_nil] at hlength
    omega
  | cons part parts =>
    rw [hp] at hall hlength
    rw [List.forall_mem_cons] at hall
    rw [List.length_cons] at hlength
    simp only [spelled, if_true, List.count_append, count_colon hall.1, spelled_count hall.2]
    omega

lemma Ipv6.colons (a : Ipv6) : 2 ≤ a.text.count ':' := by
  cases a with
  | full r eight =>
    have hr := r.colons
    rw [Ipv6.text]
    omega
  | compressed front back fewer =>
    simp only [Ipv6.text, List.count_append, List.count_cons_self]
    omega

lemma spelled_all {parts : List (List Char)} (h : ∀ part ∈ parts, part.all isPartChar = true) (isFirst : Bool) :
    (spelled isFirst parts).all (fun c => isPartChar c || c == ':') = true := by
  induction parts generalizing isFirst with
  | nil => rfl
  | cons part parts ih =>
    rw [List.forall_mem_cons] at h
    have hpart : part.all (fun c => isPartChar c || c == ':') = true := by
      rw [List.all_eq_true]
      intro c hc
      rw [List.all_eq_true.mp h.1 c hc, Bool.true_or]
    cases isFirst <;> simp [spelled, hpart, ih h.2 false]

lemma Ipv6.all_text (a : Ipv6) : a.text.all (fun c => isPartChar c || c == ':') = true := by
  cases a with
  | full r eight =>
    rw [Ipv6.text, text_eq_spelled]
    exact spelled_all r.all_parts true
  | compressed front back fewer =>
    rw [Ipv6.text, text_eq_spelled, text_eq_spelled, List.all_append, List.all_cons, List.all_cons,
      spelled_all (Run.all_parts _) true, spelled_all back.all_parts true]
    rfl

lemma Ipv6.not_mem_text (a : Ipv6) {c : Char} (h : (isPartChar c || c == ':') = false) : c ∉ a.text := by
  intro hm
  have hc := List.all_eq_true.mp a.all_text c hm
  rw [h] at hc
  cases hc

end IdentityProvider.Net
