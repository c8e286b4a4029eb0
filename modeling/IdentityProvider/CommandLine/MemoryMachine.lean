import IdentityProvider.CommandLine.Machine

namespace IdentityProvider.CommandLine

abbrev Path := List String

abbrev Files := List (Path × String)

namespace Path

def split : List Char → List (List Char)
  | [] => [[]]
  | c :: cs =>
    match split cs with
    | [] => [[c]]
    | name :: names => if c = '/' then [] :: name :: names else (c :: name) :: names

def names (s : String) : List String :=
  (split s.toList).map String.ofList

end Path

namespace Files

def isDirectory (files : Files) (path : Path) : Bool :=
  path.all (· == "..") || files.any fun f => path.isPrefixOf f.1 && path != f.1

def enter (path : Path) (name : String) : Path :=
  if name = "" ∨ name = "." then path
  else if name = ".." ∧ !path.all (· == "..") then path.dropLast
  else path ++ [name]

def follow (files : Files) (path : Path) : List String → Except FileError Path
  | [] => .ok path
  | name :: rest =>
    if files.isDirectory path then files.follow (enter path name) rest
    else if (files.lookup path).isSome then .error .notDirectory
    else .error .notFound

def departure (home name : String) : Path × List String :=
  match Path.names name with
  | "" :: rest => (["/"], rest)
  | first :: rest => ([], if first = home then rest else first :: rest)
  | [] => ([], [])

def locate (files : Files) (home name : String) : Except FileError Path :=
  let (path, names) := departure home name
  files.follow path names

def read (files : Files) (path : Path) : Except FileError String :=
  if files.isDirectory path then .error .isDirectory
  else
    match files.lookup path with
    | some content => .ok content
    | none => .error .notFound

def obstacle? (files : Files) (path : Path) : Option Path :=
  ((List.range path.length).map path.take).find? fun p => (files.lookup p).isSome

def write (files : Files) (path : Path) (content : String) : Except FileError Files :=
  match files.obstacle? path with
  | some p => .error (if p = path.dropLast then .alreadyExists else .notDirectory)
  | none =>
    if files.isDirectory path then .error .isDirectory
    else .ok ((path, content) :: files.filter fun f => f.1 ≠ path)

end Files

def memoryMachine (home : String) (environment : String → Option String) (now : Instant)
    (bits : Nat → Nat) : Machine (StateM Files) where
  environment name := return environment name
  variableFile := return ((← get).read [".env"]).toOption
  readText name := do
    let files ← get
    return (files.locate home name).bind files.read
  isThere name := do
    let files ← get
    match files.locate home name with
    | .ok path => return files.isDirectory path || (files.lookup path).isSome
    | .error _ => return false
  writeText name content := do
    let files ← get
    let (path, names) := Files.departure home name
    match files.write (names.foldl Files.enter path) content with
    | .ok changed => do
      set changed
      return .ok ()
    | .error e => return .error e
  now := return now
  randomBits := return bits
  isTerminal := return false

end IdentityProvider.CommandLine
