import IdentityProvider.Text.Blank
import IdentityProvider.Xml.Character
import IdentityProvider.Xml.Node
import Mathlib.Tactic.Common
/-! The names of XML 1.0, and trees in which every element is named by them. -/

namespace IdentityProvider.Xml

def nameStartRanges : List (Nat × Nat) :=
  [(0x41, 0x5A), (0x5F, 0x5F), (0x61, 0x7A), (0xC0, 0xD6), (0xD8, 0xF6), (0xF8, 0x2FF), (0x370, 0x37D),
    (0x37F, 0x1FFF), (0x200C, 0x200D), (0x2070, 0x218F), (0x2C00, 0x2FEF), (0x3001, 0xD7FF),
    (0xF900, 0xFDCF), (0xFDF0, 0xFFFD), (0x10000, 0xEFFFF)]

def nameRanges : List (Nat × Nat) :=
  nameStartRanges ++ [(0x2D, 0x2E), (0x30, 0x39), (0xB7, 0xB7), (0x300, 0x36F), (0x203F, 0x2040)]

def isNameStart (c : Char) : Bool :=
  nameStartRanges.any fun r => r.1 ≤ c.toNat && c.toNat ≤ r.2

def isNameChar (c : Char) : Bool :=
  nameRanges.any fun r => r.1 ≤ c.toNat && c.toNat ≤ r.2

def isNcName : List Char → Bool
  | [] => false
  | c :: cs => isNameStart c && cs.all isNameChar

def isQName (s : String) : Bool :=
  match s.toList.dropWhile (· != ':') with
  | [] => isNcName s.toList
  | _ :: rest => isNcName (s.toList.takeWhile (· != ':')) && isNcName rest

def isTagChar (c : Char) : Bool :=
  !(Text.isMarkupBlank c || ['<', '>', '=', '"', '\'', '/', '!', '?'].contains c)

lemma nameStart_isNameChar {c : Char} (h : isNameStart c = true) : isNameChar c = true := by
  simp only [isNameChar, nameRanges, List.any_append, Bool.or_eq_true]
  exact Or.inl h

lemma nameChar_isTagChar {c : Char} (h : isNameChar c = true) : isTagChar c = true := by
  have hblanks : [' ', '\t', '\n', '\r'].all (fun d => !isNameChar d) = true := by decide
  have hmarks : ['<', '>', '=', '"', '\'', '/', '!', '?'].all (fun d => !isNameChar d) = true := by decide
  have hc : ∀ ds : List Char, ds.all (fun d => !isNameChar d) = true → c ∉ ds := by
    intro ds hds hm
    have hn := List.all_eq_true.mp hds c hm
    rw [h] at hn
    cases hn
  have hb := hc _ hblanks
  have hm := hc _ hmarks
  simp only [List.mem_cons, List.not_mem_nil, or_false, not_or] at hb
  rw [isTagChar, Bool.not_eq_true', Bool.or_eq_false_iff]
  constructor
  · simp [Text.isMarkupBlank, hb]
  · rw [← Bool.not_eq_true, List.contains_iff_mem]
    exact hm

lemma nameChar_isXmlChar {c : Char} (h : isNameChar c = true) : isXmlChar c = true := by
  simp only [isNameChar, nameRanges, nameStartRanges, List.cons_append, List.nil_append, List.any_cons,
    List.any_nil, Bool.or_eq_true, Bool.and_eq_true, decide_eq_true_eq, Bool.or_false] at h
  simp only [isXmlChar, Bool.or_eq_true, Bool.and_eq_true, decide_eq_true_eq, beq_iff_eq]
  omega

lemma ncName_chars {cs : List Char} (h : isNcName cs = true) : ∀ c ∈ cs, isNameChar c = true := by
  cases cs with
  | nil => simp
  | cons c cs =>
    simp only [isNcName, Bool.and_eq_true, List.all_eq_true] at h
    intro d hd
    rcases List.mem_cons.mp hd with rfl | hd
    · exact nameStart_isNameChar h.1
    · exact h.2 d hd

lemma ncName_ne_nil {cs : List Char} (h : isNcName cs = true) : cs ≠ [] := by
  rintro rfl
  cases h

lemma qName_cases {s : String} (h : isQName s = true) :
    isNcName s.toList = true ∨
      ∃ p l, s.toList = p ++ ':' :: l ∧ isNcName p = true ∧ isNcName l = true := by
  rw [isQName] at h
  split at h
  · exact Or.inl h
  · rename_i c rest hd
    rw [Bool.and_eq_true] at h
    have hc : c = ':' := by
      have hh := List.head?_dropWhile_not (· != ':') s.toList
      simpa only [hd, List.head?_cons, bne_eq_false_iff_eq] using hh
    refine Or.inr ⟨s.toList.takeWhile (· != ':'), rest, ?_, h.1, h.2⟩
    subst hc
    rw [← hd, List.takeWhile_append_dropWhile]

lemma qName_ne_nil {s : String} (h : isQName s = true) : s.toList ≠ [] := by
  rcases qName_cases h with hn | ⟨p, l, he, _, _⟩
  · exact ncName_ne_nil hn
  · rw [he]
    simp

lemma qName_chars {s : String} (h : isQName s = true) :
    ∀ c ∈ s.toList, isTagChar c = true ∧ isXmlChar c = true := by
  have hn : ∀ {cs : List Char}, isNcName cs = true → ∀ c ∈ cs, isTagChar c = true ∧ isXmlChar c = true :=
    fun hcs c hc => ⟨nameChar_isTagChar (ncName_chars hcs c hc), nameChar_isXmlChar (ncName_chars hcs c hc)⟩
  rcases qName_cases h with hs | ⟨p, l, he, hp, hl⟩
  · exact hn hs
  · rw [he]
    intro c hc
    rcases List.mem_append.mp hc with hc | hc
    · exact hn hp c hc
    · rcases List.mem_cons.mp hc with rfl | hc
      · decide
      · exact hn hl c hc

end IdentityProvider.Xml
