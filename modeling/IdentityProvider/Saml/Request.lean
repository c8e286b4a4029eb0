import IdentityProvider.Saml.Vocabulary
import IdentityProvider.Xml.Document
/-! Authentication requests. Only the root, its `Issuer` and its `NameIDPolicy` are looked at; what stands
deeper is passed over, and attributes elsewhere are not even checked. -/

namespace IdentityProvider

structure AuthnRequest where
  id : String
  issuer : String
  consumerUrl : Option String := none
  destination : Option String := none
  protocolBinding : Option String := none
  issueInstant : Option String := none
  forceAuthn : Bool := false
  isPassive : Bool := false
  nameIdFormat : Option String := none
deriving Repr, DecidableEq

namespace AuthnRequest

def consumerUrl? (r : AuthnRequest) : Option String :=
  r.consumerUrl.filter (fun url => !url.isEmpty)

def binding? (r : AuthnRequest) : Option Binding :=
  r.protocolBinding.bind Binding.ofUri?

end AuthnRequest

inductive RequestError where
  | document (cause : Xml.DocumentError)
  | multipleRoots
  | unexpectedRoot (name : String)
  | multipleIssuers
  | missingId
  | missingIssuer
  | invalidUtf8
deriving Repr, DecidableEq

def RequestError.message : RequestError → String
  | document cause => cause.message
  | multipleRoots => "multiple root elements"
  | unexpectedRoot name => "expected AuthnRequest root, found " ++ name
  | multipleIssuers => "multiple Issuer elements"
  | missingId => "missing ID attribute"
  | missingIssuer => "missing Issuer element"
  | invalidUtf8 => "invalid UTF-8 in request: no text has these bytes"

namespace AuthnRequest

open Xml

def isSet (value : String) : Bool :=
  value == "true" || value == "1"

def withAttribute (r : AuthnRequest) (key value : String) : AuthnRequest :=
  match key with
  | "ID" => { r with id := value }
  | "AssertionConsumerServiceURL" => { r with consumerUrl := if value.isEmpty then none else some value }
  | "Destination" => { r with destination := some value }
  | "ProtocolBinding" => { r with protocolBinding := some value }
  | "IssueInstant" => { r with issueInstant := some value }
  | "ForceAuthn" => { r with forceAuthn := isSet value }
  | "IsPassive" => { r with isPassive := isSet value }
  | _ => r

def ofRootAttributes (attributes : List Attribute) : AuthnRequest :=
  attributes.foldl (fun r a => r.withAttribute a.1 a.2) ⟨"", "", none, none, none, none, false, false, none⟩

/-- The value of one attribute of a tag. Only what stands before it has to be well formed. -/
def attributeValue? (raw : RawAttributes) (key : String) : Except DocumentError (Option String) :=
  match raw.found.find? (fun a => a.key == key.toList) with
  | some a =>
    match unescape? a.value with
    | some value => .ok (some (String.ofList value))
    | none => .error .badAttributeValue
  | none => if raw.wellFormed then .ok none else .error .badAttribute

/-- A request in the making: how many elements are open, the issuer's text so far, and whether text now belongs
to the issuer. -/
structure Draft where
  request : Option AuthnRequest := none
  issuer : Option (List Char) := none
  depth : Nat := 0
  inIssuer : Bool := false

namespace Draft

def enter (d : Draft) (name attributes : List Char) (hasContent : Bool) : Except RequestError Draft :=
  let tag := localPart (String.ofList name)
  match d.depth with
  | 0 =>
    if d.request.isSome then .error .multipleRoots
    else if tag ≠ "AuthnRequest" then .error (.unexpectedRoot tag)
    else
      match elementAttributes (readAttributes attributes) with
      | .ok attributes => .ok { d with request := some (ofRootAttributes attributes) }
      | .error e => .error (.document e)
  | 1 =>
    if tag = "Issuer" then
      if d.issuer.isSome then .error .multipleIssuers
      else .ok { d with issuer := some [], inIssuer := hasContent }
    else if tag = "NameIDPolicy" then
      match attributeValue? (readAttributes attributes) "Format" with
      | .ok format => .ok { d with request := d.request.map fun r => { r with nameIdFormat := format } }
      | .error e => .error (.document e)
    else .ok d
  | _ => .ok d

def append (d : Draft) (text : List Char) : Draft :=
  { d with issuer := some (d.issuer.getD [] ++ text) }

/-- Reads one token. Blanks around a run of text are dropped, but not in a character data section. -/
def step (d : Draft) : Token → Except RequestError Draft
  | .startTag name attributes => do
    let e ← d.enter name attributes true
    return { e with depth := d.depth + 1 }
  | .emptyTag name attributes => d.enter name attributes false
  | .endTag _ =>
    if d.depth = 0 then .error (.document .unbalancedEndTag)
    else .ok { d with depth := d.depth - 1, inIssuer := false }
  | .text raw =>
    if d.inIssuer then
      match unescape? (Text.trimBoth Text.isMarkupBlank raw) with
      | some text => .ok (d.append text)
      | none => .error (.document .badText)
    else .ok d
  | .cdata content => .ok (if d.inIssuer then d.append content else d)
  | .comment | .instruction | .doctype => .ok d
  | .malformed => .error (.document .illFormedMarkup)

def finish (d : Draft) : Except RequestError AuthnRequest :=
  if d.depth ≠ 0 then .error (.document .unclosedElement)
  else
    match d.request with
    | none => .error (.document .emptyDocument)
    | some r =>
      if r.id.isEmpty then .error .missingId
      else
        match Text.trimBoth Text.isBlank (d.issuer.getD []) with
        | [] => .error .missingIssuer
        | issuer => .ok { r with issuer := String.ofList issuer }

end Draft

def parse (document : String) : Except RequestError AuthnRequest := do
  let d ← (scan document.toList).foldlM Draft.step {}
  d.finish

end AuthnRequest

end IdentityProvider
