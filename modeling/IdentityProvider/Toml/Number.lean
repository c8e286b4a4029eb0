import IdentityProvider.Text.Numeral

namespace IdentityProvider.Toml

def isRunAfter (digit : Char → Bool) (afterDigit : Bool) : List Char → Bool
  | [] => afterDigit
  | c :: cs =>
    if digit c then isRunAfter digit true cs
    else c == '_' && afterDigit && isRunAfter digit false cs

def isRun (digit : Char → Bool) (cs : List Char) : Bool :=
  isRunAfter digit false cs

def isHexDigit (c : Char) : Bool :=
  (Text.hexValue c).isSome

def isOctalDigit (c : Char) : Bool :=
  '0' ≤ c && c ≤ '7'

def isBinaryDigit (c : Char) : Bool :=
  c == '0' || c == '1'

def runValue (base : Nat) (cs : List Char) : Nat :=
  (Text.numeral base Text.hexValue (cs.filter (· != '_'))).getD 0

def dropSign : List Char → List Char
  | '+' :: cs => cs
  | '-' :: cs => cs
  | cs => cs

def isDecimal (cs : List Char) : Bool :=
  isRun Char.isDigit cs && (cs.length == 1 || cs.head? != some '0')

def integerLimit : Nat := 0x8000000000000000

def isInteger : List Char → Bool
  | '0' :: 'x' :: cs => isRun isHexDigit cs && runValue 16 cs < integerLimit
  | '0' :: 'o' :: cs => isRun isOctalDigit cs && runValue 8 cs < integerLimit
  | '0' :: 'b' :: cs => isRun isBinaryDigit cs && runValue 2 cs < integerLimit
  | cs =>
    let digits := dropSign cs
    isDecimal digits &&
      (runValue 10 digits < integerLimit ||
        (cs.head? == some '-' && runValue 10 digits == integerLimit))

/-- Whether the number that digits, some of them behind the point, and a power of ten spell is too large for a
binary number of 64 bits: it rounds to 2¹⁰²⁴ or more. -/
def overflows (digits : List Char) (fractionDigits : Nat) (exponent : Int) : Bool :=
  let digits := (digits.filter (· != '_')).dropWhile (· == '0')
  let magnitude := (digits.length : Int) - fractionDigits + exponent
  if digits == [] || magnitude < 300 then false
  else if 320 < magnitude then true
  else
    let shift := exponent - fractionDigits
    let limit := (1 <<< 1024) - (1 <<< 970)
    if 0 ≤ shift then limit ≤ runValue 10 digits * Nat.pow 10 shift.toNat
    else limit * Nat.pow 10 (-shift).toNat ≤ runValue 10 digits

def exponent? : List Char → Option Int
  | [] => some 0
  | _ :: cs =>
    let digits := dropSign cs
    if isRun Char.isDigit digits then
      some (if cs.head? = some '-' then -(runValue 10 digits : Int) else runValue 10 digits)
    else none

def isExponentMark (c : Char) : Bool :=
  c == 'e' || c == 'E'

def isFloat (cs : List Char) : Bool :=
  let unsigned := dropSign cs
  if unsigned == "inf".toList || unsigned == "nan".toList then true
  else
    let whole := unsigned.takeWhile fun c => c != '.' && !isExponentMark c
    let rest := unsigned.drop whole.length
    let fraction := match rest with
      | '.' :: more => some (more.takeWhile fun c => !isExponentMark c)
      | _ => none
    let power := match fraction with
      | some f => rest.drop (f.length + 1)
      | none => rest
    match exponent? power with
    | none => false
    | some exponent =>
      isDecimal whole && rest != [] && ((fraction.map (isRun Char.isDigit)).getD true) &&
        (cs.head? == some '-' ||
          !overflows (whole ++ fraction.getD []) ((fraction.getD []).filter (· != '_')).length exponent)

def fixed? (width : Nat) (cs : List Char) : Option Nat :=
  if cs.length = width then Text.numeral 10 Text.decimalValue cs else none

def daysInMonth (year month : Nat) : Nat :=
  if month = 2 then if year % 4 = 0 ∧ (year % 100 ≠ 0 ∨ year % 400 = 0) then 29 else 28
  else if month = 4 ∨ month = 6 ∨ month = 9 ∨ month = 11 then 30 else 31

def isDate (cs : List Char) : Bool :=
  match fixed? 4 (cs.take 4), fixed? 2 ((cs.drop 5).take 2), fixed? 2 (cs.drop 8) with
  | some year, some month, some day =>
    (cs.drop 4).head? == some '-' && (cs.drop 7).head? == some '-' &&
      1 ≤ month && month ≤ 12 && 1 ≤ day && day ≤ daysInMonth year month
  | _, _, _ => false

def isClock (cs : List Char) : Bool :=
  match fixed? 2 (cs.take 2), fixed? 2 (cs.drop 3) with
  | some hour, some minute => (cs.drop 2).head? == some ':' && hour < 24 && minute < 60
  | _, _ => false

def isTime (cs : List Char) : Bool :=
  isClock (cs.take 5) && (cs.drop 5).head? == some ':' &&
    match fixed? 2 ((cs.drop 6).take 2) with
    | some second =>
      second ≤ 60 &&
        match cs.drop 8 with
        | [] => true
        | c :: fraction => c == '.' && fraction != [] && fraction.all Char.isDigit
    | none => false

def isZonedTime (cs : List Char) : Bool :=
  let time := cs.takeWhile fun c => c.isDigit || c == ':' || c == '.'
  isTime time &&
    match cs.drop time.length with
    | [] => true
    | sign :: offset =>
      if sign == 'Z' || sign == 'z' then offset == [] else (sign == '+' || sign == '-') && isClock offset

def isMoment (cs : List Char) : Bool :=
  isDate cs || isTime cs ||
    (isDate (cs.take 10) && ((cs.drop 10).head? == some 'T' || (cs.drop 10).head? == some 't') &&
      isZonedTime (cs.drop 11))

end IdentityProvider.Toml
