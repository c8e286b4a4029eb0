import IdentityProvider.Xml.Character
import IdentityProvider.Xml.Node
/-! Writing a tree as text. Each name, key, value and text is checked where it is written, so the error names
the first forbidden character in the order of the document. -/

namespace IdentityProvider.Xml

def writeEscaped (s : String) : Except Forbidden (List Char) := do
  checkChars s.toList
  return escape s.toList

def writeName (s : String) : Except Forbidden (List Char) := do
  checkChars s.toList
  return s.toList

def writeAttributes : List Attribute → Except Forbidden (List Char)
  | [] => return []
  | (key, value) :: rest => do
    let k ← writeName key
    let v ← writeEscaped value
    let others ← writeAttributes rest
    return ' ' :: (k ++ '=' :: '"' :: (v ++ '"' :: others))

mutual

def writeNode : Node → Except Forbidden (List Char)
  | .element name attributes children => do
    let n ← writeName name
    let a ← writeAttributes attributes
    let inner ← writeNodes children
    return '<' :: (n ++ a ++ '>' :: (inner ++ '<' :: '/' :: (n ++ ['>'])))
  | .text content => writeEscaped content

def writeNodes : List Node → Except Forbidden (List Char)
  | [] => return []
  | node :: rest => do
    let first ← writeNode node
    let others ← writeNodes rest
    return first ++ others

end

def declaration : String :=
  "<?xml version=\"1.0\" encoding=\"UTF-8\"?>"

namespace Element

def toXml (e : Element) : Except Forbidden String := do
  return String.ofList (← writeNode e.toNode)

def toDocument (e : Element) : Except Forbidden String := do
  return declaration ++ (← e.toXml)

end Element

end IdentityProvider.Xml
