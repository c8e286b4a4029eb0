import IdentityProvider.Proofs.Transport.Html
import IdentityProvider.Transport.Form
/-! The form that carries a message: its tags are the same for all values, and its values are read back. -/

namespace IdentityProvider

def markupChars : List Char :=
  ['&', '<', '>', '"', '\'']

def escapeHtmlChar (c : Char) : List Char :=
  if c = '&' then "&amp;".toList
  else if c = '<' then "&lt;".toList
  else if c = '>' then "&gt;".toList
  else if c = '"' then "&quot;".toList
  else if c = '\'' then "&#x27;".toList
  else [c]

lemma mem_markupChars {c : Char} : c ∈ markupChars ↔ c = '&' ∨ c = '<' ∨ c = '>' ∨ c = '"' ∨ c = '\'' := by
  simp only [markupChars, List.mem_cons, List.not_mem_nil, or_false]

lemma not_mem_markupChars {c : Char} :
    c ∉ markupChars ↔ c ≠ '&' ∧ c ≠ '<' ∧ c ≠ '>' ∧ c ≠ '"' ∧ c ≠ '\'' := by
  simp only [mem_markupChars, not_or, ne_eq]

lemma escapeHtmlChar_ordinary {c : Char} (h : c ∉ markupChars) : escapeHtmlChar c = [c] := by
  obtain ⟨hamp, hlt, hgt, hquot, hapos⟩ := not_mem_markupChars.mp h
  rw [escapeHtmlChar, if_neg hamp, if_neg hlt, if_neg hgt, if_neg hquot, if_neg hapos]

/-- The five replacements make one pass, since none of them touches what an earlier one wrote. -/
lemma toList_escapeHtml (s : String) : (escapeHtml s).toList = s.toList.flatMap escapeHtmlChar := by
  simp only [escapeHtml, referTo, String.toList_ofList, List.flatMap_assoc]
  congr 1
  funext c
  by_cases hc : c ∈ markupChars
  · rcases mem_markupChars.mp hc with rfl | rfl | rfl | rfl | rfl <;> decide
  · rw [escapeHtmlChar_ordinary hc]
    obtain ⟨hamp, hlt, hgt, hquot, hapos⟩ := not_mem_markupChars.mp hc
    simp only [List.flatMap_singleton, hamp, hlt, hgt, hquot, hapos, if_false]

lemma escapeHtml_quotes_nothing (s : String) : '"' ∉ (escapeHtml s).toList := by
  rw [toList_escapeHtml, List.mem_flatMap]
  rintro ⟨c, -, hc⟩
  by_cases hm : c ∈ markupChars
  · rcases mem_markupChars.mp hm with rfl | rfl | rfl | rfl | rfl <;> exact absurd hc (by decide)
  · rw [escapeHtmlChar_ordinary hm, List.mem_singleton] at hc
    subst hc
    exact hm (by decide)

namespace Html

lemma decodeReferences_escape (cs : List Char) : decodeReferences (cs.flatMap escapeHtmlChar) = cs := by
  induction cs with
  | nil => rfl
  | cons c cs ih =>
    have hc : decodeReferences (escapeHtmlChar c ++ cs.flatMap escapeHtmlChar) =
        c :: decodeReferences (cs.flatMap escapeHtmlChar) := by
      by_cases hm : c ∈ markupChars
      · rcases mem_markupChars.mp hm with rfl | rfl | rfl | rfl | rfl <;> rfl
      · rw [escapeHtmlChar_ordinary hm, List.singleton_append, decodeReferences_ordinary]
        rintro rfl
        exact hm (by decide)
    rw [List.flatMap_cons, hc, ih]

example : decodeReferences "&amp;lt;&#x27;&copy;".toList = "&lt;'&copy;".toList := by
  decide

end Html

namespace Form

open Html

def hiddenInput (name value : String) : Tag :=
  ⟨[("input type=", "hidden"), (" name=", name), (" value=", value)], "/"⟩

def opening : List (String × Tag) :=
  [("", ⟨[], "!DOCTYPE html"⟩), ("\n", ⟨[], "html"⟩), ("\n", ⟨[], "head"⟩),
    ("\n    ", ⟨[("meta charset=", "UTF-8")], ""⟩), ("\n    ", ⟨[], "title"⟩),
    ("SAML POST Binding", ⟨[], "/title"⟩),
    ("\n", ⟨[], "/head"⟩), ("\n", ⟨[("body onload=", "document.forms[0].submit()")], ""⟩),
    ("\n    ", ⟨[], "noscript"⟩), ("\n        ", ⟨[], "p"⟩),
    ("JavaScript is disabled. Click the button below to continue.", ⟨[], "/p"⟩), ("\n    ", ⟨[], "/noscript"⟩)]

def form (destination : String) : Tag :=
  ⟨[("form method=", "post"), (" action=", destination)], ""⟩

def submit : Tag :=
  ⟨[("input type=", "submit"), (" value=", "Continue")], "/"⟩

def noscript : Tag :=
  ⟨[], "noscript"⟩

def closing : List (String × Tag) :=
  [("\n            ", submit), ("\n        ", ⟨[], "/noscript"⟩),
    ("\n    ", ⟨[], "/form"⟩), ("\n", ⟨[], "/body"⟩), ("\n", ⟨[], "/html"⟩)]

def relayStateTags : Option String → List (String × Tag)
  | none => [("\n        \n        ", noscript)]
  | some state => [("\n        ", hiddenInput "RelayState" state), ("\n        ", noscript)]

def page (destination : String) (type : MessageType) (payload : String) (relayState : Option String) : Page :=
  ⟨opening ++ ("\n    ", form destination) :: ("\n        ", hiddenInput type.parameter payload) ::
    relayStateTags relayState ++ closing, ""⟩

lemma formOpening_write : formOpening.toList = writeTags opening ++ ['\n'] := by
  unfold formOpening
  simp only [String.toList_append]
  decide +kernel

lemma formClosing_write : formClosing.toList = "        <noscript>".toList ++ writeTags closing := by
  unfold formClosing
  simp only [String.toList_append]
  decide +kernel

lemma hiddenInput_write (text name value : String) : writeTags [(text, hiddenInput name value)] =
    text.toList ++ ("<input type=\"hidden\" name=\"".toList ++ (name.toList ++ ("\" value=\"".toList ++
      (value.toList ++ "\"/>".toList)))) := by
  simp [writeTags, Tag.write, hiddenInput]

lemma relayStateInput_write (state : String) : (relayStateInput state).toList =
    writeTags [("", hiddenInput "RelayState" (escapeHtml state))] := by
  rw [hiddenInput_write]
  unfold relayStateInput
  simp

lemma form_write (destination : String) : writeTags [("\n    ", form destination)] =
    '\n' :: ("    <form method=\"post\" action=\"".toList ++ (destination.toList ++ "\">".toList)) := by
  simp [writeTags, Tag.write, form]

lemma relayStateTags_write (relayState : Option String) :
    writeTags (relayStateTags (relayState.map escapeHtml)) =
      "\n        ".toList ++ (((relayState.map relayStateInput).getD "").toList ++
        "\n        <noscript>".toList) := by
  cases relayState with
  | none => simp [relayStateTags, writeTags, Tag.write, noscript]
  | some state =>
    simp only [relayStateTags, Option.map_some, Option.getD_some, relayStateInput_write]
    simp [writeTags, Tag.write, noscript]

lemma postForm_write (destination : String) (type : MessageType) (payload : String) (relayState : Option String) :
    (postForm destination type payload relayState).toList =
      (page (escapeHtml destination) type (escapeHtml payload) (relayState.map escapeHtml)).write := by
  have htags : (page (escapeHtml destination) type (escapeHtml payload) (relayState.map escapeHtml)).write =
      writeTags opening ++ (writeTags [("\n    ", form (escapeHtml destination))] ++
        (writeTags [("\n        ", hiddenInput type.parameter (escapeHtml payload))] ++
          (writeTags (relayStateTags (relayState.map escapeHtml)) ++ writeTags closing))) := by
    simp only [page, Page.write, ← writeTags_append, String.toList_empty, List.append_nil, List.append_assoc,
      List.cons_append, List.nil_append]
  rw [htags, hiddenInput_write, form_write, relayStateTags_write, postForm]
  simp only [String.toList_append, formOpening_write, formClosing_write]
  simp

section Values

variable {destination payload : String} {relayState : Option String} {type : MessageType}

lemma hiddenInput_isPlain {name value : String} (hn : '"' ∉ name.toList) (hv : '"' ∉ value.toList) :
    (hiddenInput name value).IsPlain := by
  have hrest : IsUnquoted "/" := by decide
  refine ⟨?_, hrest⟩
  simp only [hiddenInput, List.forall_mem_cons]
  exact ⟨by decide, ⟨by decide, hn⟩, ⟨by decide, hv⟩, by simp⟩

lemma form_isPlain (h : '"' ∉ destination.toList) : (form destination).IsPlain := by
  have hrest : IsUnquoted "" := by decide
  refine ⟨?_, hrest⟩
  simp only [form, List.forall_mem_cons]
  exact ⟨by decide, ⟨by decide, h⟩, by simp⟩

lemma relayStateTags_arePlain (h : ∀ state ∈ relayState, '"' ∉ state.toList) :
    ArePlain (relayStateTags relayState) := by
  cases relayState with
  | none => decide
  | some state =>
    rw [relayStateTags, arePlain_cons]
    exact ⟨⟨by decide, hiddenInput_isPlain (by decide) (h state rfl)⟩, by decide⟩

lemma page_arePlain (hd : '"' ∉ destination.toList) (hp : '"' ∉ payload.toList)
    (hr : ∀ state ∈ relayState, '"' ∉ state.toList) :
    ArePlain (page destination type payload relayState).tags := by
  have hopening : ArePlain opening := by decide +kernel
  have hclosing : ArePlain closing := by decide +kernel
  have hname : '"' ∉ type.parameter.toList := by cases type <;> decide
  simp only [page, arePlain_append, arePlain_cons]
  exact ⟨⟨hopening, ⟨by decide, form_isPlain hd⟩, ⟨by decide, hiddenInput_isPlain hname hp⟩,
    relayStateTags_arePlain hr⟩, hclosing⟩

end Values

lemma outline_page (type : MessageType) {destination destination' payload payload' : String}
    {relayState relayState' : Option String} (h : relayState'.isSome = relayState.isSome) :
    (page destination' type payload' relayState').outline =
      (page destination type payload relayState).outline := by
  cases relayState with
  | none =>
    rw [Option.isSome_none, Option.isSome_eq_false_iff, Option.isNone_iff_eq_none] at h
    rw [h]
    simp [page, Page.outline, form, hiddenInput]
  | some state =>
    obtain ⟨state', rfl⟩ := Option.isSome_iff_exists.mp h
    simp [page, Page.outline, form, hiddenInput, relayStateTags]

lemma form_name (destination : String) : (form destination).name = "form" :=
  (by decide : firstWord "form method=" = "form")

lemma form_action (destination : String) : (form destination).value? "action" = some destination := by
  rw [form, value?_cons, if_neg (by decide), value?_cons, if_pos (by decide)]

lemma hiddenInput_name (name value : String) : (hiddenInput name value).name = "input" :=
  (by decide : firstWord "input type=" = "input")

lemma hiddenInput_key (name value : String) : (hiddenInput name value).value? "name" = some name := by
  rw [hiddenInput, value?_cons, if_neg (by decide), value?_cons, if_pos (by decide)]

lemma hiddenInput_value (name value : String) : (hiddenInput name value).value? "value" = some value := by
  rw [hiddenInput, value?_cons, if_neg (by decide), value?_cons, if_neg (by decide), value?_cons,
    if_pos (by decide)]

section Read

variable (destination : String) (type : MessageType) (payload : String) (relayState : Option String)

lemma cut_postForm : cut? (postForm destination type payload relayState) =
    some (page (escapeHtml destination) type (escapeHtml payload) (relayState.map escapeHtml)) := by
  rw [← String.ofList_toList (s := postForm destination type payload relayState), postForm_write]
  apply cut_write
  · apply page_arePlain (escapeHtml_quotes_nothing destination) (escapeHtml_quotes_nothing payload)
    intro state hs
    obtain ⟨s, -, rfl⟩ := Option.map_eq_some_iff.mp hs
    exact escapeHtml_quotes_nothing s
  · exact List.not_mem_nil

lemma page_form : (page destination type payload relayState).named "form" = [form destination] := by
  have hopening : (opening.map Prod.snd).filter (fun t => t.name = "form") = [] := by decide +kernel
  have hclosing : (closing.map Prod.snd).filter (fun t => t.name = "form") = [] := by decide +kernel
  have hnoscript : noscript.name = "noscript" := by decide
  cases relayState <;>
    simp [Page.named, page, relayStateTags, hopening, hclosing, form_name, hiddenInput_name, hnoscript]

lemma page_inputs (name : String) : (page destination type payload relayState).inputs name =
    (hiddenInput type.parameter payload :: (relayState.map (hiddenInput "RelayState")).toList).filter
      fun t => t.value? "name" = some name := by
  have hopening : (opening.map Prod.snd).filter (fun t => t.name = "input") = [] := by decide +kernel
  have hclosing : (closing.map Prod.snd).filter (fun t => t.name = "input") = [submit] := by decide +kernel
  have hsubmit : submit.value? "name" = none := by decide
  have hnoscript : noscript.name = "noscript" := by decide
  cases relayState <;>
    simp [Page.inputs, Page.named, page, relayStateTags, hopening, hclosing, hsubmit, form_name,
      hiddenInput_name, hnoscript, List.filter_cons]

end Read

lemma decoded_escape {t : Tag} {key s : String} (h : t.value? key = some (escapeHtml s)) :
    t.decoded? key = some s := by
  rw [Tag.decoded?, h, Option.map_some, toList_escapeHtml, decodeReferences_escape, String.ofList_toList]

end Form

section Form

open Html Form

/-- A form has the same tags and texts around all values, and the values that come from outside are read back
from it. -/
theorem postForm_reads_back (destination : String) (type : MessageType) (payload : String)
    (relayState : Option String) :
    ∃ page, cut? (postForm destination type payload relayState) = some page ∧
      (∀ destination' payload' relayState', relayState'.isSome = relayState.isSome →
        (cut? (postForm destination' type payload' relayState')).map Page.outline = some page.outline) ∧
      (page.named "form").map (·.decoded? "action") = [some destination] ∧
      (page.inputs type.parameter).map (·.decoded? "value") = [some payload] ∧
      (page.inputs "RelayState").map (·.decoded? "value") = relayState.toList.map some := by
  have hparameter : type.parameter ≠ "RelayState" := by cases type <;> decide
  refine ⟨_, cut_postForm destination type payload relayState, ?_, ?_, ?_, ?_⟩
  · intro destination' payload' relayState' h
    have hsome : (relayState'.map escapeHtml).isSome = (relayState.map escapeHtml).isSome := by
      rw [Option.isSome_map, Option.isSome_map, h]
    rw [cut_postForm, Option.map_some, outline_page type hsome]
  · rw [page_form, List.map_singleton, decoded_escape (form_action _)]
  · have hpayload := decoded_escape (hiddenInput_value type.parameter (escapeHtml payload))
    rw [page_inputs]
    cases relayState <;> simp [hiddenInput_key, hpayload, hparameter.symm]
  · rw [page_inputs]
    cases relayState with
    | none => simp [hiddenInput_key, hparameter]
    | some state =>
      have hstate := decoded_escape (hiddenInput_value "RelayState" (escapeHtml state))
      simp [hiddenInput_key, hstate, hparameter]

theorem postForm_reads_back_script :
    (cut? (postForm "https://sp.example/acs" .response "" (some ""))).map Page.outline =
      (cut? (postForm "https://sp.example/?a=1&b=\"2\"" .response "abc"
        (some "<script>alert('&lt;')</script>"))).map
        Page.outline := by
  obtain ⟨page, hcut, houtline, _⟩ := postForm_reads_back "https://sp.example/?a=1&b=\"2\"" .response "abc"
    (some "<script>alert('&lt;')</script>")
  rw [hcut]
  exact houtline "https://sp.example/acs" "" (some "") rfl

end Form

end IdentityProvider
