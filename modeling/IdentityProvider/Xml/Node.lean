/-! Trees of elements and text. The local name of an element is what follows the first colon of its name. -/

namespace IdentityProvider.Xml

abbrev Attribute := String × String

inductive Node where
  | element (name : String) (attributes : List Attribute) (children : List Node)
  | text (content : String)
deriving Repr, BEq, Inhabited

structure Element where
  name : String
  attributes : List Attribute := []
  children : List Node := []
deriving Repr, BEq, Inhabited

def localPart (name : String) : String :=
  match name.toList.dropWhile (· != ':') with
  | [] => name
  | _ :: rest => String.ofList rest

def qualifier? (name : String) : Option String :=
  if name.toList.contains ':' then some (String.ofList (name.toList.takeWhile (· != ':'))) else none

namespace Element

def toNode (e : Element) : Node :=
  .element e.name e.attributes e.children

def ofText (name : String) (attributes : List Attribute) (content : String) : Element :=
  ⟨name, attributes, [.text content]⟩

def ofElements (name : String) (attributes : List Attribute) (children : List Element) : Element :=
  ⟨name, attributes, children.map toNode⟩

def localName (e : Element) : String :=
  localPart e.name

def attribute? (e : Element) (key : String) : Option String :=
  e.attributes.lookup key

def addAttribute (e : Element) (key value : String) : Element :=
  { e with attributes := e.attributes ++ [(key, value)] }

def addChild (e child : Element) : Element :=
  { e with children := e.children ++ [child.toNode] }

def addText (e : Element) (content : String) : Element :=
  { e with children := e.children ++ [.text content] }

def insertChild (e : Element) (position : Nat) (child : Element) : Element :=
  { e with children := e.children.take position ++ child.toNode :: e.children.drop position }

end Element

def Node.element? : Node → Option Element
  | .element name attributes children => some ⟨name, attributes, children⟩
  | .text _ => none

def Node.isNamed (name : String) : Node → Bool
  | .element n _ _ => localPart n == name
  | .text _ => false

def Node.directText : Node → String
  | .element _ _ _ => ""
  | .text content => content

namespace Element

def elements (e : Element) : List Element :=
  e.children.filterMap Node.element?

def find? (e : Element) (name : String) : Option Element :=
  e.elements.find? (fun c => c.localName == name)

def position? (e : Element) (name : String) : Option Nat :=
  e.children.findIdx? (Node.isNamed name)

def removeChild (e : Element) (name : String) : Element :=
  { e with children := e.children.eraseP (Node.isNamed name) }

def textContent (e : Element) : String :=
  String.join (e.children.map Node.directText)

end Element

end IdentityProvider.Xml
