import IdentityProvider.Text.Numeral
import IdentityProvider.Text.Width

namespace IdentityProvider.CommandLine

inductive FieldValue where
  | text (s : String)
  | flag (b : Bool)
deriving Repr, DecidableEq

abbrev Fields := List (String × FieldValue)

def optionalField (name : String) (value : Option String) : Fields :=
  (value.map fun s => (name, FieldValue.text s)).toList

namespace Json

def escapeChar (c : Char) : List Char :=
  if c = '"' then "\\\"".toList
  else if c = '\\' then "\\\\".toList
  else if c = '\x08' then "\\b".toList
  else if c = '\t' then "\\t".toList
  else if c = '\n' then "\\n".toList
  else if c = '\x0c' then "\\f".toList
  else if c = '\r' then "\\r".toList
  else if c.toNat < 0x20 then "\\u".toList ++ Text.paddedHex false 4 c.toNat
  else [c]

def quote (s : String) : String :=
  "\"" ++ String.ofList (s.toList.flatMap escapeChar) ++ "\""

end Json

namespace FieldValue

def json : FieldValue → String
  | text s => Json.quote s
  | flag b => if b then "true" else "false"

def shown? : FieldValue → Option String
  | text s => if s = "" then none else some s
  | flag b => some (if b then "true" else "false")

end FieldValue

namespace Fields

def json (fields : Fields) : String :=
  "\x7b\n" ++
    ",\n".intercalate (fields.map fun f => "  " ++ Json.quote f.1 ++ ": " ++ f.2.json) ++ "\n\x7d"

def rows (fields : Fields) : List (String × String) :=
  (fields.filterMap fun f => f.2.shown?.map fun s => (f.1, s)).mergeSort fun a b => a.1 ≤ b.1

end Fields

namespace Table

def cellLines : List Char → List (List Char)
  | [] => [[]]
  | c :: cs =>
    match cellLines cs with
    | [] => [[c]]
    | line :: lines => if c = '\n' then [] :: line :: lines else (c :: line) :: lines

def columnWidth (cells : List String) : Nat :=
  (cells.flatMap fun s => (cellLines s.toList).map Text.width).foldl max 0

def padded (width : Nat) (line : List Char) : List Char :=
  ' ' :: (line ++ List.replicate (width - Text.width line + 1) ' ')

def rowLines (left right : Nat) (row : String × String) : List (List Char) :=
  let ls := cellLines row.1.toList
  let rs := cellLines row.2.toList
  let height := max ls.length rs.length
  let fill (lines : List (List Char)) := lines ++ List.replicate (height - lines.length) []
  ((fill ls).zip (fill rs)).map fun (l, r) => '│' :: (padded left l ++ '│' :: (padded right r ++ ['│']))

def border (start cross stop : Char) (left right : Nat) : List Char :=
  start :: (List.replicate (left + 2) '─' ++ cross :: (List.replicate (right + 2) '─' ++ [stop]))

def render (rows : List (String × String)) : String :=
  let all := ("Field", "Value") :: rows
  let left := columnWidth (all.map Prod.fst)
  let right := columnWidth (all.map Prod.snd)
  let lines := border '╭' '┬' '╮' left right :: (rowLines left right ("Field", "Value") ++
    border '├' '┼' '┤' left right ::
      (rows.flatMap (rowLines left right) ++ [border '╰' '┴' '╯' left right]))
  "\n".intercalate (lines.map String.ofList)

end Table

end IdentityProvider.CommandLine
