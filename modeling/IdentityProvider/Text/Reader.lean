/-! Readers take a value from the front of a text and leave the rest, or fail. -/

namespace IdentityProvider.Text

abbrev Reader := StateT (List Char) Option

namespace Reader

def peek : Reader (Option Char) := do
  return (← get).head?

def next : Reader Char := fun cs =>
  match cs with
  | [] => none
  | c :: rest => some (c, rest)

def char (expected : Char) : Reader Unit := do
  guard ((← next) = expected)

def word : List Char → Reader Unit
  | [] => return
  | c :: rest => do
    char c
    word rest

def takeWhile (p : Char → Bool) : Reader (List Char) := fun cs =>
  some (cs.takeWhile p, cs.dropWhile p)

def skipWhile (p : Char → Bool) : Reader Unit := do
  let _ ← takeWhile p

def takes (p : Char → Bool) : Reader Bool := do
  match ← peek with
  | some c => if p c then do { let _ ← next; return true } else return false
  | none => return false

def atEnd : Reader Unit := do
  guard ((← get).isEmpty)

/-- How many characters are left. It bounds the rounds of every loop that takes a character in each. -/
def left : Reader Nat := do
  return (← get).length

/-- Reads items with commas between them up to a closing character, which is taken too. At least one item is
read unless the closing character comes first; before it a comma may follow the last item where that is allowed.
-/
def itemsOnto {α : Type} (trailingComma : Bool) (blanks : Reader Unit) (item : Reader α) (close : Char)
    (done : List α) : Nat → Reader (List α)
  | 0 => failure
  | rounds + 1 => do
    blanks
    if (done = [] ∨ trailingComma) ∧ (← peek) = some close then
      let _ ← next
      return done.reverse
    let x ← item
    blanks
    match ← next with
    | ',' => itemsOnto trailingComma blanks item close (x :: done) rounds
    | c =>
      guard (c = close)
      return (x :: done).reverse

def items {α : Type} (trailingComma : Bool) (blanks : Reader Unit) (item : Reader α) (close : Char) :
    Reader (List α) := do
  itemsOnto trailingComma blanks item close [] ((← left) + 1)

def readAll {α : Type} (r : Reader α) (s : String) : Option α :=
  (do let x ← r; atEnd; return x : Reader α).run' s.toList

end Reader

end IdentityProvider.Text
