import IdentityProvider.Text.Numeral

namespace IdentityProvider

abbrev Bytes := List UInt8

namespace Bytes

def ofText (s : String) : Bytes :=
  s.toUTF8.data.toList

def toText? (bs : Bytes) : Option String :=
  String.fromUTF8? ⟨bs.toArray⟩

def toHex (bs : Bytes) : String :=
  String.ofList <|
    bs.flatMap fun b => [Text.hexDigit false (b.toNat / 16), Text.hexDigit false (b.toNat % 16)]

def toNat (bs : Bytes) : Nat :=
  bs.foldl (fun n b => 256 * n + b.toNat) 0

def ofNatOnto (written : Bytes) (n : Nat) : Bytes :=
  if n = 0 then written else ofNatOnto (UInt8.ofNat (n % 256) :: written) (n / 256)
termination_by n

def ofNat (n : Nat) : Bytes :=
  ofNatOnto [] n

def ofNatPadded (width n : Nat) : Bytes :=
  let ds := ofNat n
  List.replicate (width - ds.length) 0 ++ ds

end Bytes

end IdentityProvider
