import IdentityProvider.Text.Numeral
import IdentityProvider.Text.Reader
/-! The quoted texts of TOML: between double quotes with escapes, between single quotes without; between three
of either they may hold line ends. -/

namespace IdentityProvider.Toml

open IdentityProvider.Text (Reader)

def isPlain (c : Char) : Bool :=
  c == '\t' || (0x20 ≤ c.toNat && c.toNat != 0x7F)

def newline : Reader Unit := do
  let _ ← Reader.takes (· == '\r')
  Reader.char '\n'

def isSpace (c : Char) : Bool :=
  c == ' ' || c == '\t'

def codePoint (width : Nat) : Reader Char := do
  let digits := (← get).take width
  set ((← get).drop width)
  guard (digits.length = width)
  match Text.numeral 16 Text.hexValue digits with
  | some n =>
    guard n.isValidChar
    return Char.ofNat n
  | none => failure

def escape : Reader Char := do
  match ← Reader.next with
  | 'b' => return '\x08'
  | 't' => return '\t'
  | 'n' => return '\n'
  | 'f' => return '\x0c'
  | 'r' => return '\r'
  | '"' => return '"'
  | '\\' => return '\\'
  | 'u' => codePoint 4
  | 'U' => codePoint 8
  | _ => failure

def basicOnto (read : List Char) : Nat → Reader (List Char)
  | 0 => failure
  | rounds + 1 => do
    match ← Reader.next with
    | '"' => return read.reverse
    | '\\' => basicOnto ((← escape) :: read) rounds
    | c =>
      guard (isPlain c)
      basicOnto (c :: read) rounds

def dropBlankLines : List Char → List Char
  | '\r' :: '\n' :: cs => dropBlankLines cs
  | c :: cs => if isSpace c || c == '\n' then dropBlankLines cs else c :: cs
  | [] => []

def joinLines : Reader Unit := do
  Reader.skipWhile isSpace
  newline
  modify dropBlankLines

def quotesAhead (quote : Char) : Reader Nat := do
  return (((← get).take 5).takeWhile (· == quote)).length

/-- Takes a text over several lines up to its three closing quotes. Of five quotes, and of four, the last three
close the text. -/
def multilineOnto (quote : Char) (escapes : Bool) (read : List Char) : Nat → Reader (List Char)
  | 0 => failure
  | rounds + 1 => do
    let quotes ← quotesAhead quote
    if 3 ≤ quotes then
      set ((← get).drop quotes)
      return (List.replicate (quotes - 3) quote ++ read).reverse
    match ← Reader.peek with
    | some '\r' | some '\n' =>
      newline
      multilineOnto quote escapes ('\n' :: read) rounds
    | _ =>
      let c ← Reader.next
      if c = '\\' ∧ escapes then
        match ← Reader.peek with
        | some ' ' | some '\t' | some '\r' | some '\n' =>
          joinLines
          multilineOnto quote escapes read rounds
        | _ => multilineOnto quote escapes ((← escape) :: read) rounds
      else
        guard (isPlain c)
        multilineOnto quote escapes (c :: read) rounds

def lineText : Reader String := do
  match ← Reader.next with
  | '"' => return String.ofList (← basicOnto [] (← Reader.left))
  | '\'' =>
    let cs ← Reader.takeWhile fun c => isPlain c && c != '\''
    Reader.char '\''
    return String.ofList cs
  | _ => failure

def quotedText : Reader String := do
  match ← get with
  | a :: b :: c :: rest =>
    if a = b ∧ b = c then do
      set rest
      match rest with
      | '\n' :: more => set more
      | '\r' :: '\n' :: more => set more
      | _ => pure ()
      return String.ofList (← multilineOnto a (a == '"') [] ((← Reader.left) + 1))
    else lineText
  | _ => lineText

end IdentityProvider.Toml
