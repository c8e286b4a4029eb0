/-! Values of TOML, and how tables grow. A table that was closed by its own braces does not grow; one that
dotted keys made grows by dotted keys; one that a header implied may still get a header of its own. -/

namespace IdentityProvider

inductive TableOrigin where
  | header
  | implied
  | dottedKey
  | braces
deriving Repr, DecidableEq

/-- Numbers and times are read but not kept, since nothing is configured by one. -/
inductive TomlValue where
  | text (s : String)
  | bool (b : Bool)
  | number
  | time
  | array (items : List TomlValue)
  | table (origin : TableOrigin) (entries : List (String × TomlValue))
  | tables (elements : List (List (String × TomlValue)))
deriving Repr, Inhabited

namespace TomlValue

abbrev Entries := List (String × TomlValue)

def replace (key : String) (value : TomlValue) (entries : Entries) : Entries :=
  entries.map fun e => if e.1 = key then (key, value) else e

def admitsDotted : TableOrigin → Bool
  | .implied | .dottedKey => true
  | .header | .braces => false

/-- Alters the table at the end of a path. Tables that are missing on the way are made; of an array of tables
the path goes through the last. -/
def alterAt (dotted : Bool) (alter : TableOrigin → Entries → Option Entries) :
    List String → TableOrigin → Entries → Option Entries
  | [], origin, entries => alter origin entries
  | key :: path, _, entries =>
    match entries.lookup key with
    | none => do
      let origin := if dotted then .dottedKey else .implied
      let child ← alterAt dotted alter path origin []
      return entries ++ [(key, .table origin child)]
    | some (.table origin child) => do
      guard (origin ≠ .braces ∧ (dotted = true → admitsDotted origin = true))
      let child ← alterAt dotted alter path origin child
      return replace key (.table origin child) entries
    | some (.tables elements) => do
      let child ← alterAt dotted alter path .header (← elements.getLast?)
      return replace key (.tables (elements.dropLast ++ [child])) entries
    | some _ => none

/-- Adds a value under a key that is new. A key without dots does not reach into a table that dotted keys made,
and a dotted key reaches into no other. -/
def addEntry (path : List String) (key : String) (value : TomlValue) (origin : TableOrigin)
    (entries : Entries) : Option Entries :=
  alterAt true (fun target es => do
    guard (target = .dottedKey ↔ path ≠ [])
    guard (es.lookup key).isNone
    return es ++ [(key, value)]) path origin entries

def openTable (path : List String) (key : String) (root : Entries) : Option Entries :=
  alterAt false (fun _ es =>
    match es.lookup key with
    | none => some (es ++ [(key, .table .header [])])
    | some (.table .implied child) => some (replace key (.table .header child) es)
    | some _ => none) path .header root

def openElement (path : List String) (key : String) (root : Entries) : Option Entries :=
  alterAt false (fun _ es =>
    match es.lookup key with
    | none => some (es ++ [(key, .tables [[]])])
    | some (.tables elements) => some (replace key (.tables (elements ++ [[]])) es)
    | some _ => none) path .header root

def addToOpen (opened path : List String) (key : String) (value : TomlValue) (root : Entries) :
    Option Entries :=
  alterAt false (addEntry path key value) opened .header root

end TomlValue

end IdentityProvider
