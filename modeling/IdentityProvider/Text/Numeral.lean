/-! Numerals: hexadecimal digits of both cases, padded fields, and the value of a digit string. -/

namespace IdentityProvider.Text

def hexDigit (upper : Bool) (n : Nat) : Char :=
  if n < 10 then Char.ofNat (48 + n) else Char.ofNat ((if upper then 55 else 87) + n)

def hexValue (c : Char) : Option Nat :=
  if '0' ≤ c && c ≤ '9' then some (c.toNat - 48)
  else if 'a' ≤ c && c ≤ 'f' then some (c.toNat - 87)
  else if 'A' ≤ c && c ≤ 'F' then some (c.toNat - 55)
  else none

def decimalValue (c : Char) : Option Nat :=
  if '0' ≤ c && c ≤ '9' then some (c.toNat - 48) else none

def numeral (base : Nat) (digit : Char → Option Nat) : List Char → Option Nat
  | [] => none
  | c :: cs => (c :: cs).foldlM (fun n d => (digit d).map (base * n + ·)) 0

def decimal (n : Nat) : List Char :=
  (toString n).toList

def paddedDecimal (width n : Nat) : List Char :=
  let ds := decimal n
  List.replicate (width - ds.length) '0' ++ ds

def hexDigits (upper : Bool) (n : Nat) : List Char :=
  if n < 16 then [hexDigit upper n] else hexDigits upper (n / 16) ++ [hexDigit upper (n % 16)]
termination_by n

def paddedHex (upper : Bool) (width n : Nat) : List Char :=
  let ds := hexDigits upper n
  List.replicate (width - ds.length) '0' ++ ds

end IdentityProvider.Text
