import IdentityProvider.Bytes.Basic
/-! The distinguished encoding of data: elements with a tag, a length in its shortest form, and content. -/

namespace IdentityProvider.Der

structure Element where
  tag : UInt8
  content : Bytes
deriving Repr, DecidableEq

def integerTag : UInt8 := 0x02

def bitStringTag : UInt8 := 0x03

def octetStringTag : UInt8 := 0x04

def nullTag : UInt8 := 0x05

def objectTag : UInt8 := 0x06

def sequenceTag : UInt8 := 0x30

def readLength? : Bytes → Option (Nat × Bytes)
  | [] => none
  | b :: rest =>
    if b < 0x80 then some (b.toNat, rest)
    else
      let width := b.toNat - 0x80
      let length := Bytes.toNat (rest.take width)
      if 0 < width ∧ width ≤ 4 ∧ width ≤ rest.length ∧ 0x80 ≤ length ∧ rest.head? ≠ some 0 then
        some (length, rest.drop width)
      else none

def read? : Bytes → Option (Element × Bytes)
  | [] => none
  | tag :: rest => do
    guard (tag &&& 0x1F ≠ 0x1F)
    let (length, rest) ← readLength? rest
    guard (length ≤ rest.length)
    return (⟨tag, rest.take length⟩, rest.drop length)

def expect? (tag : UInt8) (bs : Bytes) : Option (Bytes × Bytes) := do
  let (e, rest) ← read? bs
  guard (e.tag = tag)
  return (e.content, rest)

def unsigned? : Bytes → Option Nat
  | [] => none
  | [b] => if b < 0x80 then some b.toNat else none
  | a :: b :: rest =>
    if 0x80 ≤ a ∨ (a = 0 ∧ b < 0x80) then none else some (Bytes.toNat (a :: b :: rest))

def readUnsigned? (bs : Bytes) : Option (Nat × Bytes) := do
  let (content, rest) ← expect? integerTag bs
  return (← unsigned? content, rest)

def length (n : Nat) : Bytes :=
  if n < 0x80 then [UInt8.ofNat n]
  else
    let ds := Bytes.ofNat n
    UInt8.ofNat (0x80 + ds.length) :: ds

def write (tag : UInt8) (content : Bytes) : Bytes :=
  tag :: (length content.length ++ content)

def writeUnsigned (n : Nat) : Bytes :=
  let ds := Bytes.ofNat n
  write integerTag <|
    match ds with
    | [] => [0]
    | d :: _ => if d < 0x80 then ds else 0 :: ds

end IdentityProvider.Der
