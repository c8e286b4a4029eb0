import IdentityProvider.Text.Blank
/-! Files that set environment variables, one assignment a line. Values may be quoted, and then go over several
lines; variables in them are replaced, except between single quotes. Reading stops at the first line that is
ill-formed, and what was read before it counts. -/

namespace IdentityProvider.VariableFile

inductive Place where
  | plain
  | blank
  | escaped
  | single
  | singleEscaped
  | double
  | doubleEscaped
  | comment
deriving Repr, DecidableEq

def Place.after (place : Place) (c : Char) : Place :=
  let opened :=
    if c = '\\' then .escaped
    else if c = '"' then .double
    else if c = '\'' then .single
    else .plain
  match place with
  | .blank => if c = '#' then .comment else opened
  | .plain => if Text.isBlank c && c != '\n' && c != '\r' then .blank else opened
  | .escaped => .plain
  | .single => if c = '\\' then .singleEscaped else if c = '\'' then .plain else .single
  | .singleEscaped => .single
  | .double => if c = '\\' then .doubleEscaped else if c = '"' then .plain else .double
  | .doubleEscaped => .double
  | .comment => .comment

def chomp (reversed : List Char) : List Char :=
  match reversed with
  | '\n' :: '\r' :: cs => cs
  | '\n' :: cs => cs
  | cs => cs

def isComment (reversed : List Char) : Bool :=
  (reversed.reverse.dropWhile Text.isBlank).head? == some '#'

/-- The texts of assignments, each with the quotes that go over several lines, and none in place of one that
does not end. `current` is the text of the one that is read, in reverse; behind a comment the line is passed
over. -/
def statementsFrom (place : Place) (current : List Char) : List Char → List (Option (List Char))
  | [] =>
    if current = [] ∧ place = .plain then []
    else if isComment current then [some []]
    else if place = .comment then [some current.reverse]
    else if place = .plain then [some current.reverse]
    else [none]
  | c :: cs =>
    let here := place.after c
    let read := if here = .comment then current else c :: current
    if c ≠ '\n' then statementsFrom here read cs
    else if isComment read then some [] :: statementsFrom .plain [] cs
    else if place = .comment then some current.reverse :: statementsFrom .plain [] cs
    else if here = .plain then some (chomp read).reverse :: statementsFrom .plain [] cs
    else statementsFrom here read cs

inductive Piece where
  | text (c : Char)
  | reference (name : String)
deriving Repr, DecidableEq

inductive Mode where
  | plain
  | escaped (inDouble : Bool)
  | single
  | double
  | name (inDouble : Bool) (letters : List Char)
  | bracedName (inDouble : Bool) (letters : List Char)
  | ended
deriving Repr, DecidableEq

def Mode.within (inDouble : Bool) : Mode :=
  if inDouble then .double else .plain

def nameOf (letters : List Char) : Piece :=
  .reference (String.ofList letters.reverse)

def valueFrom (read : List Piece) : Mode → List Char → Option (List Piece)
  | .plain, [] | .ended, [] | .escaped false, [] => some read.reverse
  | .name false letters, [] => some (nameOf letters :: read).reverse
  | _, [] => none
  | .ended, c :: cs =>
    if c = ' ' ∨ c = '\t' then valueFrom read .ended cs
    else if c = '#' then some read.reverse
    else none
  | .escaped inDouble, c :: cs =>
    if "\\'\"$ ".toList.contains c then valueFrom (.text c :: read) (.within inDouble) cs
    else if c = 'n' then valueFrom (.text '\n' :: read) (.within inDouble) cs
    else none
  | .single, c :: cs =>
    if c = '\'' then valueFrom read .plain cs
    else valueFrom (.text c :: read) .single cs
  | .name inDouble letters, c :: cs =>
    if c.isAlphanum then valueFrom read (.name inDouble (c :: letters)) cs
    else if c = '\x7b' ∧ letters = [] then valueFrom read (.bracedName inDouble []) cs
    else if c = '$' then valueFrom (nameOf letters :: read) (.name inDouble []) cs
    else valueFrom (.text c :: nameOf letters :: read) (.within inDouble) cs
  | .bracedName inDouble letters, c :: cs =>
    if c = '\x7d' then valueFrom (nameOf letters :: read) (.within inDouble) cs
    else valueFrom read (.bracedName inDouble (c :: letters)) cs
  | .double, c :: cs =>
    if c = '$' then valueFrom read (.name true []) cs
    else if c = '"' then valueFrom read .plain cs
    else if c = '\\' then valueFrom read (.escaped true) cs
    else valueFrom (.text c :: read) .double cs
  | .plain, c :: cs =>
    if c = '$' then valueFrom read (.name false []) cs
    else if c = '\'' then valueFrom read .single cs
    else if c = '"' then valueFrom read .double cs
    else if c = '\\' then valueFrom read (.escaped false) cs
    else if c = ' ' ∨ c = '\t' then valueFrom read .ended cs
    else valueFrom (.text c :: read) .plain cs

structure Assignment where
  name : String
  value : List Piece
deriving Repr, DecidableEq

def isNameStart (c : Char) : Bool :=
  c.isAlpha || c == '_'

def isNameChar (c : Char) : Bool :=
  c.isAlphanum || c == '_' || c == '.'

def name? (cs : List Char) : Option (String × List Char) :=
  if (cs.head?.map isNameStart).getD false then
    some (String.ofList (cs.takeWhile isNameChar), (cs.dropWhile isNameChar).dropWhile Text.isBlank)
  else none

def afterEquals? : List Char → Option (List Char)
  | '=' :: cs => some cs
  | _ => none

def target? (line : List Char) : Option (String × List Char) := do
  let (name, rest) ← name? line
  match afterEquals? rest with
  | some value => some (name, value)
  | none =>
    guard (name = "export")
    let (name, rest) ← name? rest
    (afterEquals? rest).map fun value => (name, value)

/-- The assignment that a text makes: `none` if the text is ill-formed, and no assignment if it is empty or a
comment. -/
def assignment? (statement : List Char) : Option (Option Assignment) := do
  let line := Text.trimBoth Text.isBlank statement
  if line = [] ∨ line.head? = some '#' then return none
  let (name, value) ← target? line
  let value := value.dropWhile Text.isBlank
  if value = [] ∨ value.head? = some '#' then return some ⟨name, []⟩
  return some ⟨name, ← valueFrom [] .plain value⟩

def takeAssignments : List (Option (List Char)) → List Assignment
  | [] => []
  | none :: _ => []
  | some statement :: rest =>
    match assignment? statement with
    | none => []
    | some none => takeAssignments rest
    | some (some a) => a :: takeAssignments rest

def parse (content : String) : List Assignment :=
  takeAssignments <| statementsFrom .plain [] <|
    match content.toList with
    | '\ufeff' :: cs => cs
    | cs => cs

end IdentityProvider.VariableFile
