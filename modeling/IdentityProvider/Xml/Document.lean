import IdentityProvider.Xml.Character
import IdentityProvider.Xml.Markup
import IdentityProvider.Xml.Node
/-! Reading a document into a tree. Text is kept as it stands between tags, with its references replaced;
comments, instructions and document types are passed over. -/

namespace IdentityProvider.Xml

inductive DocumentError where
  | contentAfterRoot
  | badAttribute
  | badAttributeValue
  | badText
  | illFormedMarkup
  | unclosedElement
  | unbalancedEndTag
  | emptyDocument
deriving Repr, DecidableEq

def DocumentError.message : DocumentError → String
  | contentAfterRoot => "content after root element"
  | badAttribute => "bad attribute: a key, an equals sign and a quoted value expected, each key once"
  | badAttributeValue => "bad attribute value: an unknown or unterminated reference"
  | badText => "bad text: an unknown or unterminated reference"
  | illFormedMarkup => "XML parse error: ill-formed markup"
  | unclosedElement => "unclosed element"
  | unbalancedEndTag => "unbalanced end tag"
  | emptyDocument => "empty document"

def elementAttributes (raw : RawAttributes) : Except DocumentError (List Attribute) := do
  let found ← raw.found.mapM fun a =>
    match unescape? a.value with
    | some value => .ok (String.ofList a.key, String.ofList value)
    | none => .error .badAttributeValue
  if raw.wellFormed then .ok found else .error .badAttribute

/-- A tree in the making: the elements that are open, innermost first, each with its children in reverse, and
the root once it is closed. -/
structure Draft where
  opened : List Element
  root : Option Element

namespace Draft

def empty : Draft :=
  ⟨[], none⟩

/-- Adds a node to the innermost open element; outside the root it is dropped. -/
def push (d : Draft) (node : Node) : Draft :=
  match d.opened with
  | [] => d
  | e :: outer => { d with opened := { e with children := node :: e.children } :: outer }

def complete (d : Draft) (e : Element) : Draft :=
  match d.opened with
  | [] => { d with root := some e }
  | _ :: _ => d.push e.toNode

def step (d : Draft) : Token → Except DocumentError Draft
  | .startTag name attributes =>
    if d.root.isSome then .error .contentAfterRoot
    else do
      let found ← elementAttributes (readAttributes attributes)
      return { d with opened := ⟨String.ofList name, found, []⟩ :: d.opened }
  | .emptyTag name attributes =>
    if d.root.isSome then .error .contentAfterRoot
    else do
      let found ← elementAttributes (readAttributes attributes)
      return d.complete ⟨String.ofList name, found, []⟩
  | .endTag _ =>
    match d.opened with
    | [] => .error .unbalancedEndTag
    | e :: outer => .ok (complete { d with opened := outer } { e with children := e.children.reverse })
  | .text raw =>
    match unescape? raw with
    | some content => .ok (d.push (.text (String.ofList content)))
    | none => .error .badText
  | .cdata content => .ok (d.push (.text (String.ofList content)))
  | .comment | .instruction | .doctype => .ok d
  | .malformed => .error .illFormedMarkup

def finish (d : Draft) : Except DocumentError Element :=
  match d.opened, d.root with
  | _ :: _, _ => .error .unclosedElement
  | [], some e => .ok e
  | [], none => .error .emptyDocument

end Draft

def parse (document : String) : Except DocumentError Element := do
  let d ← (scan document.toList).foldlM Draft.step Draft.empty
  d.finish

end IdentityProvider.Xml
