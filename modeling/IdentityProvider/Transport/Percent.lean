import IdentityProvider.Bytes.Basic
/-! Percent encoding of text as UTF-8 bytes. All but letters, digits and `-_.~` is encoded. A percent sign that
two hexadecimal digits do not follow stands for itself. -/

namespace IdentityProvider.Percent

def isUnreserved (b : UInt8) : Bool :=
  (48 ≤ b && b ≤ 57) || (65 ≤ b && b ≤ 90) || (97 ≤ b && b ≤ 122) ||
    b == 45 || b == 46 || b == 95 || b == 126

def encodeByte (b : UInt8) : List Char :=
  if isUnreserved b then [Char.ofNat b.toNat]
  else ['%', Text.hexDigit true (b.toNat / 16), Text.hexDigit true (b.toNat % 16)]

def encode (s : String) : String :=
  String.ofList ((Bytes.ofText s).flatMap encodeByte)

def triplet? (a b : UInt8) : Option UInt8 := do
  let x ← Text.hexValue (Char.ofNat a.toNat)
  let y ← Text.hexValue (Char.ofNat b.toNat)
  return UInt8.ofNat (16 * x + y)

def decodeOnto (read : Bytes) : Bytes → Bytes
  | [] => read.reverse
  | [a] => (a :: read).reverse
  | [a, b] => (b :: a :: read).reverse
  | p :: a :: b :: rest =>
    match if p = 37 then triplet? a b else none with
    | some c => decodeOnto (c :: read) rest
    | none => decodeOnto (p :: read) (a :: b :: rest)

def decode? (s : String) : Option String :=
  Bytes.toText? (decodeOnto [] (Bytes.ofText s))

end IdentityProvider.Percent
