import IdentityProvider.Text.Numeral
/-! The spellings of internet addresses: four decimal numbers, or eight hexadecimal groups of which one run may
be left out and the last two may be spelled as four decimal numbers. -/

namespace IdentityProvider.Net

def readOctet? (cs : List Char) : Option (List Char) :=
  let digits := cs.takeWhile Char.isDigit
  match Text.numeral 10 Text.decimalValue digits with
  | some n =>
    if digits.length ≤ 3 ∧ n < 256 ∧ (digits.length = 1 ∨ digits.head? ≠ some '0') then
      some (cs.dropWhile Char.isDigit)
    else none
  | none => none

def readDot? : List Char → Option (List Char)
  | '.' :: rest => some rest
  | _ => none

def readIpv4? (cs : List Char) : Option (List Char) := do
  let cs ← readOctet? cs
  let cs ← readOctet? (← readDot? cs)
  let cs ← readOctet? (← readDot? cs)
  readOctet? (← readDot? cs)

def isHexDigit (c : Char) : Bool :=
  (Text.hexValue c).isSome

def readGroup? (cs : List Char) : Option (List Char) :=
  let digits := cs.takeWhile isHexDigit
  if 1 ≤ digits.length ∧ digits.length ≤ 4 then some (cs.dropWhile isHexDigit) else none

structure Groups where
  count : Nat
  endsDecimal : Bool
  rest : List Char
deriving Repr, DecidableEq

def groupStart? (isFirst : Bool) (cs : List Char) : Option (List Char) :=
  if isFirst then some cs
  else
    match cs with
    | ':' :: rest => some rest
    | _ => none

def readGroups (isFirst : Bool) (cs : List Char) : Nat → Groups
  | 0 => ⟨0, false, cs⟩
  | room + 1 =>
    match groupStart? isFirst cs with
    | none => ⟨0, false, cs⟩
    | some start =>
      match if 0 < room then readIpv4? start else none with
      | some rest => ⟨2, true, rest⟩
      | none =>
        match readGroup? start with
        | none => ⟨0, false, cs⟩
        | some rest =>
          let more := readGroups false rest room
          { more with count := more.count + 1 }

def isIpv4 (cs : List Char) : Bool :=
  readIpv4? cs == some []

def isIpv6 (cs : List Char) : Bool :=
  let front := readGroups true cs 8
  if front.count = 8 then front.rest == []
  else if front.endsDecimal then false
  else
    match front.rest with
    | ':' :: ':' :: rest => (readGroups true rest (7 - front.count)).rest == []
    | _ => false

def isAddress (cs : List Char) : Bool :=
  isIpv4 cs || isIpv6 cs

end IdentityProvider.Net
