import IdentityProvider.Json.Value
import IdentityProvider.Text.Blank
import IdentityProvider.Text.Numeral
import IdentityProvider.Text.Reader

namespace IdentityProvider.JsonValue

open Text (Reader)

inductive Piece where
  | char (c : Char)
  | half (unit : Nat)
deriving Repr, DecidableEq

def Piece.ofUnit (n : Nat) : Piece :=
  if 0xD800 ≤ n ∧ n < 0xE000 then .half n else .char (Char.ofNat n)

def joinHalves : List Piece → Option (List Char)
  | [] => some []
  | .char c :: rest => (joinHalves rest).map (c :: ·)
  | .half high :: .half low :: rest =>
    if high < 0xDC00 ∧ 0xDC00 ≤ low then
      (joinHalves rest).map (Char.ofNat (0x10000 + (high - 0xD800) * 0x400 + (low - 0xDC00)) :: ·)
    else none
  | .half _ :: _ => none

def escaped? (c : Char) : Option Char :=
  if c = '"' ∨ c = '\\' ∨ c = '/' then some c
  else if c = 'b' then some '\x08'
  else if c = 'f' then some '\x0c'
  else if c = 'n' then some '\n'
  else if c = 'r' then some '\r'
  else if c = 't' then some '\t'
  else none

inductive Escape where
  | outside
  | begun
  | unit (digits : List Char)
deriving Repr, DecidableEq

def readPieces (read : List Piece) : Escape → List Char → Option (List Piece × List Char)
  | _, [] => none
  | .outside, c :: cs =>
    if c = '"' then some (read.reverse, cs)
    else if c = '\\' then readPieces read .begun cs
    else if c.toNat < 0x20 then none
    else readPieces (.char c :: read) .outside cs
  | .begun, c :: cs =>
    if c = 'u' then readPieces read (.unit []) cs
    else
      match escaped? c with
      | some d => readPieces (.char d :: read) .outside cs
      | none => none
  | .unit digits, c :: cs =>
    if digits.length < 3 then
      if (Text.hexValue c).isSome then readPieces read (.unit (digits ++ [c])) cs else none
    else
      match Text.numeral 16 Text.hexValue (digits ++ [c]) with
      | some n => readPieces (Piece.ofUnit n :: read) .outside cs
      | none => none

def textReader : Reader (Option String) := do
  Reader.char '"'
  let pieces ← readPieces [] .outside
  return (joinHalves pieces).map String.ofList

def digitsReader : Reader (List Char) := do
  let digits ← Reader.takeWhile Char.isDigit
  guard (digits ≠ [])
  return digits

def numberReader : Reader JsonValue := do
  let before ← get
  let _ ← Reader.takes (· == '-')
  let whole ← digitsReader
  guard (whole.length = 1 ∨ whole.head? ≠ some '0')
  if ← Reader.takes (· == '.') then
    let _ ← digitsReader
  if ← Reader.takes (fun c => c == 'e' || c == 'E') then
    let _ ← Reader.takes (fun c => c == '+' || c == '-')
    let _ ← digitsReader
  return .number (String.ofList (before.take (before.length - (← get).length)))

def blanks : Reader Unit :=
  Reader.skipWhile Text.isMarkupBlank

def memberReader (value : Reader JsonValue) : Reader (Option String × JsonValue) := do
  let key ← textReader
  blanks
  Reader.char ':'
  blanks
  return (key, ← value)

def valueReader : Nat → Reader JsonValue
  | 0 => failure
  | depth + 1 => do
    match ← Reader.peek with
    | some 'n' => do { Reader.word "null".toList; return .null }
    | some 't' => do { Reader.word "true".toList; return .bool true }
    | some 'f' => do { Reader.word "false".toList; return .bool false }
    | some '"' =>
      match ← textReader with
      | some s => return .text s
      | none => return .brokenText
    | some '[' =>
      let _ ← Reader.next
      return .array (← Reader.items false blanks (valueReader depth) ']')
    | some '\x7b' =>
      let _ ← Reader.next
      return .object (← Reader.items false blanks (memberReader (valueReader depth)) '\x7d')
    | _ => numberReader

def parse? (s : String) : Option JsonValue :=
  Reader.readAll (do blanks; let v ← valueReader s.length; blanks; return v) s

end IdentityProvider.JsonValue
