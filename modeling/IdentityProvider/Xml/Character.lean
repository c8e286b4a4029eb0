import IdentityProvider.Text.Numeral
/-! The characters of XML 1.0, and the references that stand for characters in text and attribute values. -/

namespace IdentityProvider.Xml

def isXmlChar (c : Char) : Bool :=
  let n := c.toNat
  n == 9 || n == 10 || n == 13 || (0x20 ≤ n && n ≤ 0xD7FF) || (0xE000 ≤ n && n ≤ 0xFFFD) ||
    (0x10000 ≤ n && n ≤ 0x10FFFF)

structure Forbidden where
  char : Char
deriving Repr, DecidableEq

def Forbidden.message (e : Forbidden) : String :=
  "character U+" ++ String.ofList (Text.paddedHex true 4 e.char.toNat) ++ " is not allowed in XML 1.0"

def checkChars : List Char → Except Forbidden Unit
  | [] => .ok ()
  | c :: cs => if isXmlChar c then checkChars cs else .error ⟨c⟩

theorem checkChars_eq_ok_iff {cs : List Char} : checkChars cs = .ok () ↔ ∀ c ∈ cs, isXmlChar c = true := by
  induction cs with
  | nil => simp [checkChars]
  | cons c cs ih => by_cases h : isXmlChar c = true <;> simp [checkChars, h, ih]

def escapeChar (c : Char) : List Char :=
  if c = '&' then "&amp;".toList
  else if c = '<' then "&lt;".toList
  else if c = '>' then "&gt;".toList
  else if c = '\'' then "&apos;".toList
  else if c = '"' then "&quot;".toList
  else [c]

def escape (cs : List Char) : List Char :=
  cs.flatMap escapeChar

def namedReference? (name : List Char) : Option Char :=
  if name = "lt".toList then some '<'
  else if name = "gt".toList then some '>'
  else if name = "amp".toList then some '&'
  else if name = "apos".toList then some '\''
  else if name = "quot".toList then some '"'
  else none

def charOfCode? (n : Nat) : Option Char :=
  if h : n.isValidChar ∧ n ≠ 0 then some (Char.ofNatAux n h.1) else none

/-- The character that a reference stands for, given what is between the ampersand and the semicolon. -/
def reference? : List Char → Option Char
  | '#' :: 'x' :: digits => (Text.numeral 16 Text.hexValue digits).bind charOfCode?
  | '#' :: digits => (Text.numeral 10 Text.decimalValue digits).bind charOfCode?
  | name => namedReference? name

/-- Replaces references by their characters. What is done is held in reverse, and so is the reference that is
open, if there is one. -/
def unescapeOnto (done : List Char) : Option (List Char) → List Char → Option (List Char)
  | none, [] => some done.reverse
  | none, c :: cs => if c = '&' then unescapeOnto done (some []) cs else unescapeOnto (c :: done) none cs
  | some _, [] => none
  | some body, c :: cs =>
    if c = ';' then
      match reference? body.reverse with
      | some d => unescapeOnto (d :: done) none cs
      | none => none
    else if c = '&' then none
    else unescapeOnto done (some (c :: body)) cs

def unescape? (cs : List Char) : Option (List Char) :=
  unescapeOnto [] none cs

end IdentityProvider.Xml
