import IdentityProvider.Bytes.Basic
/-! Base64 with the standard alphabet. Padding is required, and the unused bits of the last digit are zero, so
each byte string has one written form. -/

namespace IdentityProvider.Base64

def digit (n : Nat) : Char :=
  if n < 26 then Char.ofNat (65 + n)
  else if n < 52 then Char.ofNat (71 + n)
  else if n < 62 then Char.ofNat (n - 4)
  else if n = 62 then '+' else '/'

def value? (c : Char) : Option Nat :=
  if 'A' ≤ c && c ≤ 'Z' then some (c.toNat - 65)
  else if 'a' ≤ c && c ≤ 'z' then some (c.toNat - 71)
  else if '0' ≤ c && c ≤ '9' then some (c.toNat + 4)
  else if c == '+' then some 62
  else if c == '/' then some 63
  else none

def encodeOnto (written : List Char) : Bytes → List Char
  | [] => written.reverse
  | [a] => ('=' :: '=' :: digit (a.toNat % 4 * 16) :: digit (a.toNat / 4) :: written).reverse
  | [a, b] =>
    ('=' :: digit (b.toNat % 16 * 4) :: digit (a.toNat % 4 * 16 + b.toNat / 16) ::
      digit (a.toNat / 4) :: written).reverse
  | a :: b :: c :: rest =>
    encodeOnto (digit (c.toNat % 64) :: digit (b.toNat % 16 * 4 + c.toNat / 64) ::
      digit (a.toNat % 4 * 16 + b.toNat / 16) :: digit (a.toNat / 4) :: written) rest

def encode (bs : Bytes) : String :=
  String.ofList (encodeOnto [] bs)

def decodeOnto (read : Bytes) : List Char → Option Bytes
  | [] => some read.reverse
  | [a, b, '=', '='] => do
    let x ← value? a
    let y ← value? b
    guard (y % 16 = 0)
    return (UInt8.ofNat (x * 4 + y / 16) :: read).reverse
  | [a, b, c, '='] => do
    let x ← value? a
    let y ← value? b
    let z ← value? c
    guard (z % 4 = 0)
    return (UInt8.ofNat (y % 16 * 16 + z / 4) :: UInt8.ofNat (x * 4 + y / 16) :: read).reverse
  | a :: b :: c :: d :: rest => do
    let x ← value? a
    let y ← value? b
    let z ← value? c
    let w ← value? d
    decodeOnto (UInt8.ofNat (z % 4 * 64 + w) :: UInt8.ofNat (y % 16 * 16 + z / 4) ::
      UInt8.ofNat (x * 4 + y / 16) :: read) rest
  | _ => none

def decode (cs : List Char) : Option Bytes :=
  decodeOnto [] cs

end IdentityProvider.Base64
