import IdentityProvider.Text.Numeral
/-! The written form of texts in TOML. The plainest quotes are chosen that leave the text as it is; only when
there are none is the text escaped. -/

namespace IdentityProvider.Toml

def needsEscape (c : Char) : Bool :=
  (c.toNat < 0x20 && c != '\t' && c != '\n') || c.toNat == 0x7F

def longestRunAfter (c : Char) (current : Nat) : List Char → Nat
  | [] => current
  | d :: ds => if d = c then longestRunAfter c (current + 1) ds else max current (longestRunAfter c 0 ds)

def longestRun (c : Char) (cs : List Char) : Nat :=
  longestRunAfter c 0 cs

def escapedChar (multiline : Bool) (c : Char) : List Char :=
  if c = '\x08' then "\\b".toList
  else if c = '\t' then "\\t".toList
  else if c = '\n' then if multiline then ['\n'] else "\\n".toList
  else if c = '\x0c' then "\\f".toList
  else if c = '\r' then "\\r".toList
  else if c = '\\' then "\\\\".toList
  else if c.toNat < 0x20 ∨ c.toNat = 0x7F then "\\u".toList ++ Text.paddedHex true 4 c.toNat
  else [c]

/-- The written form of a text between double quotes. Of a run of double quotes, as many as allowed stand as
they are, and the next is escaped. -/
def escapedOnto (multiline : Bool) (allowed run : Nat) : List Char → List Char
  | [] => []
  | c :: cs =>
    if c = '"' then
      if run < allowed then '"' :: escapedOnto multiline allowed (run + 1) cs
      else '\\' :: '"' :: escapedOnto multiline allowed 0 cs
    else escapedChar multiline c ++ escapedOnto multiline allowed 0 cs

inductive QuoteStyle where
  | basic
  | literal
  | multilineBasic
  | multilineLiteral
deriving Repr, DecidableEq

def quoteStyle (cs : List Char) : QuoteStyle :=
  let controls := cs.any needsEscape
  let backslash := cs.contains '\\'
  let newline := cs.contains '\n'
  let doubles := longestRun '"' cs
  let singles := longestRun '\'' cs
  if !controls && !backslash && doubles == 0 && !newline then .basic
  else if !controls && singles == 0 && !newline then .literal
  else if !controls && !backslash && doubles ≤ 2 then .multilineBasic
  else if !controls && singles ≤ 2 then .multilineLiteral
  else if newline then .multilineBasic
  else .basic

def quote (s : String) : String :=
  let cs := s.toList
  let lineEnd := if cs.contains '\n' then ['\n'] else []
  let double := "\"\"\"".toList
  let single := "'''".toList
  String.ofList <|
    match quoteStyle cs with
    | .basic => '"' :: (escapedOnto false 0 0 cs ++ ['"'])
    | .literal => '\'' :: (cs ++ ['\''])
    | .multilineBasic => double ++ lineEnd ++ escapedOnto true 2 0 cs ++ double
    | .multilineLiteral => single ++ lineEnd ++ cs ++ single

end IdentityProvider.Toml
