import IdentityProvider.Toml.Number
import IdentityProvider.Toml.Text
import IdentityProvider.Toml.Value

namespace IdentityProvider.Toml

open IdentityProvider.Text (Reader)

/-- Arrays, tables in braces and the parts of a key go less deep than this. -/
def depthLimit : Nat := 80

def isBareKeyChar (c : Char) : Bool :=
  c.isAlphanum || c == '_' || c == '-'

def keyPart : Reader String := do
  match ← Reader.peek with
  | some '"' | some '\'' => lineText
  | _ =>
    let cs ← Reader.takeWhile isBareKeyChar
    guard (cs ≠ [])
    return String.ofList cs

def keyOnto (parts : List String) : Nat → Reader (List String)
  | 0 => failure
  | rounds + 1 => do
    Reader.skipWhile isSpace
    let part ← keyPart
    Reader.skipWhile isSpace
    if ← Reader.takes (· == '.') then keyOnto (part :: parts) rounds
    else return (part :: parts).reverse

def key : Reader (List String × String) := do
  let parts ← keyOnto [] (← Reader.left)
  guard (parts.length < depthLimit)
  match parts.getLast? with
  | some name => return (parts.dropLast, name)
  | none => failure

def comment : Reader Unit := do
  Reader.char '#'
  Reader.skipWhile isPlain

def blankLines : Nat → Reader Unit
  | 0 => return
  | rounds + 1 => do
    Reader.skipWhile isSpace
    match ← Reader.peek with
    | some '#' =>
      comment
      newline
      blankLines rounds
    | some '\r' | some '\n' =>
      newline
      blankLines rounds
    | _ => return

def isDelimiter (c : Char) : Bool :=
  [' ', '\t', '\r', '\n', '#', ',', ']', '\x7d'].contains c

def bareValue : Reader TomlValue := do
  let cs ← Reader.takeWhile fun c => !isDelimiter c
  if cs = "true".toList then return .bool true
  else if cs = "false".toList then return .bool false
  else if isInteger cs || isFloat cs then return .number
  else
    guard (isMoment cs)
    match ← get with
    | ' ' :: rest =>
      let time := rest.takeWhile fun c => !isDelimiter c
      if isDate cs && isZonedTime time then set (rest.drop time.length)
    | _ => pure ()
    return .time

def assignment (value : Reader TomlValue) : Reader ((List String × String) × TomlValue) := do
  let k ← key
  Reader.char '='
  Reader.skipWhile isSpace
  return (k, ← value)

def braced? (assignments : List ((List String × String) × TomlValue)) : Option TomlValue :=
  (assignments.foldlM (fun es a => TomlValue.addEntry a.1.1 a.1.2 a.2 .braces es) []).map (.table .braces)

def value : Nat → Reader TomlValue
  | 0 => failure
  | depth + 1 => do
    match ← Reader.peek with
    | some '"' | some '\'' => return .text (← quotedText)
    | some '[' =>
      guard (0 < depth)
      let _ ← Reader.next
      let blanks := do blankLines ((← Reader.left) + 1)
      return .array (← Reader.items true blanks (value depth) ']')
    | some '\x7b' =>
      guard (0 < depth)
      let _ ← Reader.next
      let assignments ← Reader.items false (Reader.skipWhile isSpace) (assignment (value depth)) '\x7d'
      match braced? assignments with
      | some table => return table
      | none => failure
    | _ => bareValue

def lineEnd : Reader Unit := do
  Reader.skipWhile isSpace
  if (← Reader.peek) = some '#' then comment
  match ← Reader.peek with
  | none => return
  | some _ => newline

structure Draft where
  root : TomlValue.Entries
  opened : List String

def header (d : Draft) : Reader Draft := do
  Reader.char '['
  let isElement ← Reader.takes (· == '[')
  let (path, name) ← key
  Reader.char ']'
  if isElement then Reader.char ']'
  lineEnd
  match (if isElement then TomlValue.openElement else TomlValue.openTable) path name d.root with
  | some root => return ⟨root, path ++ [name]⟩
  | none => failure

def entry (d : Draft) : Reader Draft := do
  let ((path, name), v) ← assignment (value depthLimit)
  lineEnd
  match TomlValue.addToOpen d.opened path name v d.root with
  | some root => return { d with root }
  | none => failure

def lines (d : Draft) : Nat → Reader TomlValue.Entries
  | 0 => failure
  | rounds + 1 => do
    Reader.skipWhile isSpace
    match ← Reader.peek with
    | none => return d.root
    | some '#' | some '\r' | some '\n' =>
      lineEnd
      lines d rounds
    | some '[' => lines (← header d) rounds
    | some _ => lines (← entry d) rounds

def document : Reader TomlValue.Entries := do
  let _ ← Reader.takes (· == '\ufeff')
  lines ⟨[], []⟩ ((← Reader.left) + 1)

def parse? (s : String) : Option TomlValue.Entries :=
  Reader.readAll document s

end IdentityProvider.Toml
