import IdentityProvider.Text.Numeral
/-! Identifiers of documents: an unending sequence, and how many were drawn from it. -/

namespace IdentityProvider

structure Identifiers where
  nth : Nat → String
  drawn : Nat := 0

namespace Identifiers

def current (ids : Identifiers) : String :=
  ids.nth ids.drawn

def advance (ids : Identifiers) : Identifiers :=
  { ids with drawn := ids.drawn + 1 }

/-- A stem followed by 1, 2, 3 and so on. The count has 64 bits. -/
def sequential (stem : String) : Identifiers :=
  ⟨fun n => stem ++ toString ((n + 1) % UInt64.size), 0⟩

def defaultStem : String := "_id"

/-- The text of a random UUID, given 128 random bits. Four of them say that it is random, and two of which
variant it is. -/
def randomUuid (bits : Nat) : List Char :=
  let hex := Text.paddedHex false 32 (bits % (1 <<< 128))
  let variant := Text.hexDigit false (8 + (bits >>> 62) % 4)
  hex.take 8 ++ '-' :: (hex.drop 8).take 4 ++ '-' :: '4' :: (hex.drop 13).take 3 ++
    '-' :: variant :: (hex.drop 17).take 3 ++ '-' :: hex.drop 20

def random (bits : Nat → Nat) : Identifiers :=
  ⟨fun n => String.ofList ('_' :: randomUuid (bits n)), 0⟩

end Identifiers

end IdentityProvider
