import IdentityProvider.Xml.Character
import IdentityProvider.Xml.Node
/-! The exclusive canonical form of a tree. An element declares the prefixes that it visibly uses and that are
not yet declared alike around it, in the order of the prefixes, and then has its attributes in the order of
their namespace and local name. -/

namespace IdentityProvider.Xml

/-- Namespace names by prefix, the binding made last first; the empty prefix stands for the default namespace.
-/
abbrev Scope := List (String × String)

def escapeCanonicalText (c : Char) : List Char :=
  if c = '&' then "&amp;".toList
  else if c = '<' then "&lt;".toList
  else if c = '>' then "&gt;".toList
  else if c = '\r' then "&#xD;".toList
  else [c]

def escapeCanonicalValue (c : Char) : List Char :=
  if c = '&' then "&amp;".toList
  else if c = '<' then "&lt;".toList
  else if c = '"' then "&quot;".toList
  else if c = '\t' then "&#x9;".toList
  else if c = '\n' then "&#xA;".toList
  else if c = '\r' then "&#xD;".toList
  else [c]

def declaredPrefix? (key : String) : Option String :=
  if key = "xmlns" then some ""
  else if "xmlns:".toList.isPrefixOf key.toList then some (String.ofList (key.toList.drop 6))
  else none

def Scope.declare (scope : Scope) (attributes : List Attribute) : Scope :=
  attributes.foldl
    (fun s a =>
      match declaredPrefix? a.1 with
      | some p => (p, a.2) :: s
      | none => s)
    scope

def plainAttributes (attributes : List Attribute) : List Attribute :=
  attributes.filter (fun a => (declaredPrefix? a.1).isNone)

def xmlNamespace : String :=
  "http://www.w3.org/XML/1998/namespace"

/-- What attributes are sorted by: the namespace name of the prefix, or the prefix itself when it is unbound,
and the local name. A key without a prefix is in no namespace. -/
def sortKey (scope : Scope) (key : String) : String × String :=
  match qualifier? key with
  | none => ("", key)
  | some p => (if p = "xml" then xmlNamespace else (scope.lookup p).getD p, localPart key)

def sortKeyLe (a b : String × String) : Bool :=
  decide (a.1 < b.1) || (a.1 == b.1 && !decide (b.2 < a.2))

def sortAttributes (scope : Scope) (attributes : List Attribute) : List Attribute :=
  attributes.mergeSort (fun a b => sortKeyLe (sortKey scope a.1) (sortKey scope b.1))

def usedPrefixes (name : String) (attributes : List Attribute) : List String :=
  let all := (qualifier? name).getD "" :: attributes.filterMap (fun a => qualifier? a.1)
  ((all.filter (· != "xml")).eraseDups).mergeSort (fun a b => !decide (b < a))

/-- The declarations that an element needs: its used prefixes whose binding differs from the one already
rendered around it. A prefix that is not bound needs none, and the default namespace counts as bound to nothing.
-/
def neededDeclarations (scope rendered : Scope) (used : List String) : List (String × String) :=
  used.filterMap fun p =>
    match scope.lookup p with
    | some uri => if (rendered.lookup p).getD "" = uri then none else some (p, uri)
    | none => if p = "" ∧ (rendered.lookup p).getD "" ≠ "" then some (p, "") else none

def canonicalDeclaration (d : String × String) : List Char :=
  (if d.1 = "" then " xmlns=\"".toList else " xmlns:".toList ++ d.1.toList ++ "=\"".toList) ++
    d.2.toList.flatMap escapeCanonicalValue ++ ['"']

def canonicalAttribute (a : Attribute) : List Char :=
  ' ' :: (a.1.toList ++ '=' :: '"' :: (a.2.toList.flatMap escapeCanonicalValue ++ ['"']))

def checkAttributes : List Attribute → Except Forbidden Unit
  | [] => .ok ()
  | (key, value) :: rest => do
    checkChars key.toList
    checkChars value.toList
    checkAttributes rest

mutual

def canonicalNode (scope rendered : Scope) : Node → Except Forbidden (List Char)
  | .element name attributes children => do
    checkChars name.toList
    checkAttributes attributes
    let inScope := scope.declare attributes
    let plain := plainAttributes attributes
    let needed := neededDeclarations inScope rendered (usedPrefixes name plain)
    let inner ← canonicalNodes inScope (needed.reverse ++ rendered) children
    return '<' :: (name.toList ++ needed.flatMap canonicalDeclaration ++
      (sortAttributes inScope plain).flatMap canonicalAttribute ++ '>' ::
      (inner ++ '<' :: '/' :: (name.toList ++ ['>'])))
  | .text content => do
    checkChars content.toList
    return content.toList.flatMap escapeCanonicalText

def canonicalNodes (scope rendered : Scope) : List Node → Except Forbidden (List Char)
  | [] => return []
  | node :: rest => do
    let first ← canonicalNode scope rendered node
    let others ← canonicalNodes scope rendered rest
    return first ++ others

end

namespace Element

def canonicalizeIn (e : Element) (inherited : List Attribute) : Except Forbidden String := do
  return String.ofList (← canonicalNode (Scope.declare [] inherited) [] e.toNode)

def canonicalize (e : Element) : Except Forbidden String :=
  e.canonicalizeIn []

end Element

end IdentityProvider.Xml
