import Mathlib.Data.List.Basic
import Mathlib.Tactic.SplitIfs
import IdentityProvider.Text.Blank
/-! HTML cut into tags at the angle brackets outside double quotes, and tags cut into what is quoted and what is
not. -/

namespace IdentityProvider.Html

/-- The values in double quotes, each with what stands before it, and what stands after the last one. -/
structure Tag where
  values : List (String × String)
  rest : String
deriving DecidableEq

structure Page where
  tags : List (String × Tag)
  rest : String
deriving DecidableEq

inductive Cutter
  | inText (tags : List (String × Tag)) (run : List Char)
  | inTag (tags : List (String × Tag)) (text : String) (values : List (String × String)) (run : List Char)
  | inValue (tags : List (String × Tag)) (text : String) (values : List (String × String)) (before : String)
      (run : List Char)

def Cutter.step : Cutter → Char → Cutter
  | .inText tags run, c => if c = '<' then .inTag tags (String.ofList run) [] [] else .inText tags (run ++ [c])
  | .inTag tags text values run, c =>
    if c = '"' then .inValue tags text values (String.ofList run) []
    else if c = '>' then .inText (tags ++ [(text, ⟨values, String.ofList run⟩)]) []
    else .inTag tags text values (run ++ [c])
  | .inValue tags text values before run, c =>
    if c = '"' then .inTag tags text (values ++ [(before, String.ofList run)]) []
    else .inValue tags text values before (run ++ [c])

def Cutter.page? : Cutter → Option Page
  | .inText tags run => some ⟨tags, String.ofList run⟩
  | _ => none

def cut? (html : String) : Option Page :=
  (html.toList.foldl Cutter.step (.inText [] [])).page?

def Tag.write (t : Tag) : List Char :=
  t.values.flatMap (fun v => v.1.toList ++ '"' :: v.2.toList ++ ['"']) ++ t.rest.toList

def writeTags (tags : List (String × Tag)) : List Char :=
  tags.flatMap fun t => t.1.toList ++ '<' :: t.2.write ++ ['>']

def Page.write (p : Page) : List Char :=
  writeTags p.tags ++ p.rest.toList

def IsUnquoted (s : String) : Prop :=
  '"' ∉ s.toList ∧ '>' ∉ s.toList

def Tag.IsPlain (t : Tag) : Prop :=
  (∀ v ∈ t.values, IsUnquoted v.1 ∧ '"' ∉ v.2.toList) ∧ IsUnquoted t.rest

def ArePlain (tags : List (String × Tag)) : Prop :=
  ∀ t ∈ tags, '<' ∉ t.1.toList ∧ t.2.IsPlain

instance (s : String) : Decidable (IsUnquoted s) :=
  inferInstanceAs (Decidable (_ ∧ _))

instance (t : Tag) : Decidable t.IsPlain :=
  inferInstanceAs (Decidable (_ ∧ _))

instance (tags : List (String × Tag)) : Decidable (ArePlain tags) :=
  inferInstanceAs (Decidable (∀ t ∈ tags, _))

lemma writeTags_append (ts us : List (String × Tag)) : writeTags (ts ++ us) = writeTags ts ++ writeTags us :=
  List.flatMap_append

lemma arePlain_cons {text : String} {t : Tag} {tags : List (String × Tag)} :
    ArePlain ((text, t) :: tags) ↔ ('<' ∉ text.toList ∧ t.IsPlain) ∧ ArePlain tags :=
  List.forall_mem_cons

lemma arePlain_append {ts us : List (String × Tag)} : ArePlain (ts ++ us) ↔ ArePlain ts ∧ ArePlain us :=
  List.forall_mem_append

section Read

variable {tags : List (String × Tag)} {text before : String} {values : List (String × String)} {run cs : List Char}

lemma foldl_run {grow : List Char → Cutter} (h : ∀ c ∈ cs, ∀ run, (grow run).step c = grow (run ++ [c])) :
    cs.foldl Cutter.step (grow run) = grow (run ++ cs) := by
  induction cs generalizing run with
  | nil => rw [List.foldl_nil, List.append_nil]
  | cons c cs ih =>
    rw [List.forall_mem_cons] at h
    rw [List.foldl_cons, h.1, ih h.2, List.append_assoc]
    rfl

lemma foldl_inText (h : '<' ∉ cs) : cs.foldl Cutter.step (.inText tags run) = .inText tags (run ++ cs) := by
  apply foldl_run
  intro c hc run
  exact if_neg (ne_of_mem_of_not_mem hc h)

lemma foldl_inTag {s : String} (h : IsUnquoted s) : s.toList.foldl Cutter.step (.inTag tags text values []) =
    .inTag tags text values s.toList := by
  apply foldl_run
  intro c hc run
  rw [Cutter.step, if_neg (ne_of_mem_of_not_mem hc h.1), if_neg (ne_of_mem_of_not_mem hc h.2)]

lemma foldl_inValue (h : '"' ∉ cs) : cs.foldl Cutter.step (.inValue tags text values before []) =
    .inValue tags text values before cs := by
  apply foldl_run
  intro c hc run
  exact if_neg (ne_of_mem_of_not_mem hc h)

lemma foldl_values {vs : List (String × String)} (h : ∀ v ∈ vs, IsUnquoted v.1 ∧ '"' ∉ v.2.toList) :
    (vs.flatMap fun v => v.1.toList ++ '"' :: v.2.toList ++ ['"']).foldl Cutter.step (.inTag tags text values []) =
      .inTag tags text (values ++ vs) [] := by
  induction vs generalizing values with
  | nil => rw [List.flatMap_nil, List.foldl_nil, List.append_nil]
  | cons v vs ih =>
    rw [List.forall_mem_cons] at h
    obtain ⟨⟨hbefore, hvalue⟩, hvs⟩ := h
    have hopen : ('"' :: v.2.toList).foldl Cutter.step (.inTag tags text values v.1.toList) =
        v.2.toList.foldl Cutter.step (.inValue tags text values v.1 []) := by simp [Cutter.step]
    have hclose : ['"'].foldl Cutter.step (.inValue tags text values v.1 v.2.toList) =
        .inTag tags text (values ++ [v]) [] := by simp [Cutter.step]
    rw [List.flatMap_cons, List.foldl_append, List.foldl_append, List.foldl_append, foldl_inTag hbefore, hopen,
      foldl_inValue hvalue, hclose, ih hvs, List.append_assoc]
    rfl

lemma foldl_tags {ts : List (String × Tag)} (h : ArePlain ts) :
    (writeTags ts).foldl Cutter.step (.inText tags []) = .inText (tags ++ ts) [] := by
  induction ts generalizing tags with
  | nil => rw [writeTags, List.flatMap_nil, List.foldl_nil, List.append_nil]
  | cons t ts ih =>
    rw [ArePlain, List.forall_mem_cons] at h
    obtain ⟨⟨htext, hvalues, hrest⟩, hts⟩ := h
    have hopen : ('<' :: t.2.write).foldl Cutter.step (.inText tags t.1.toList) =
        t.2.write.foldl Cutter.step (.inTag tags t.1 [] []) := by simp [Cutter.step]
    have hclose : ['>'].foldl Cutter.step (.inTag tags t.1 t.2.values t.2.rest.toList) =
      .inText (tags ++ [t]) [] := by
      simp [Cutter.step]
    rw [writeTags, List.flatMap_cons, List.foldl_append, List.foldl_append, List.foldl_append, foldl_inText htext,
      List.nil_append, hopen, Tag.write, List.foldl_append, foldl_values hvalues, List.nil_append,
      foldl_inTag hrest, hclose, ← writeTags, ih hts, List.append_assoc]
    rfl

theorem cut_write {p : Page} (h : ArePlain p.tags) (hr : '<' ∉ p.rest.toList) :
    cut? (String.ofList p.write) = some p := by
  rw [cut?, String.toList_ofList, Page.write, List.foldl_append, foldl_tags h, foldl_inText hr, Cutter.page?,
    List.nil_append, List.nil_append, String.ofList_toList]

end Read

def firstWord (s : String) : String :=
  String.ofList (s.toList.takeWhile fun c => !Text.isMarkupBlank c)

def lastWord (s : String) : String :=
  String.ofList (s.toList.reverse.takeWhile fun c => !Text.isMarkupBlank c).reverse

def Tag.name (t : Tag) : String :=
  match t.values with
  | [] => firstWord t.rest
  | (before, _) :: _ => firstWord before

def Tag.value? (t : Tag) (key : String) : Option String :=
  (t.values.find? fun v => lastWord v.1 = key ++ "=").map Prod.snd

lemma value?_cons (before value : String) (values : List (String × String)) (rest key : String) :
    Tag.value? ⟨(before, value) :: values, rest⟩ key =
      if lastWord before = key ++ "=" then some value else Tag.value? ⟨values, rest⟩ key := by
  rw [Tag.value?, List.find?_cons]
  split_ifs with h
  · rw [decide_eq_true h]
    rfl
  · rw [decide_eq_false h]
    rfl

def Page.named (p : Page) (name : String) : List Tag :=
  (p.tags.map Prod.snd).filter fun t => t.name = name

def Page.inputs (p : Page) (name : String) : List Tag :=
  (p.named "input").filter fun t => t.value? "name" = some name

def Page.outline (p : Page) : Page :=
  { p with tags := p.tags.map fun (text, t) => (text,
    { t with values := t.values.map fun (before, _) => (before, "") }) }

/-- One pass from left to right. A reference that comes out of another one is not decoded again. -/
def decodeReferences : List Char → List Char
  | '&' :: 'a' :: 'm' :: 'p' :: ';' :: cs => '&' :: decodeReferences cs
  | '&' :: 'l' :: 't' :: ';' :: cs => '<' :: decodeReferences cs
  | '&' :: 'g' :: 't' :: ';' :: cs => '>' :: decodeReferences cs
  | '&' :: 'q' :: 'u' :: 'o' :: 't' :: ';' :: cs => '"' :: decodeReferences cs
  | '&' :: '#' :: 'x' :: '2' :: '7' :: ';' :: cs => '\'' :: decodeReferences cs
  | c :: cs => c :: decodeReferences cs
  | [] => []

lemma decodeReferences_ordinary {c : Char} (h : c ≠ '&') (cs : List Char) :
    decodeReferences (c :: cs) = c :: decodeReferences cs := by
  rw [decodeReferences.eq_def]
  split <;> simp_all

def Tag.decoded? (t : Tag) (key : String) : Option String :=
  (t.value? key).map fun v => String.ofList (decodeReferences v.toList)

end IdentityProvider.Html
