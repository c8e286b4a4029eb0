import IdentityProvider.Instant
/-! What the program needs from the machine that it runs on, as a record of operations. -/

namespace IdentityProvider.CommandLine

inductive FileError where
  | notFound
  | permissionDenied
  | alreadyExists
  | notDirectory
  | isDirectory
  | notText
  | other (detail : String)
deriving Repr, DecidableEq

def FileError.message : FileError → String
  | notFound => "No such file or directory (os error 2)"
  | permissionDenied => "Permission denied (os error 13)"
  | alreadyExists => "File exists (os error 17)"
  | notDirectory => "Not a directory (os error 20)"
  | isDirectory => "Is a directory (os error 21)"
  | notText => "stream did not contain valid UTF-8"
  | other detail => detail

/-- The operations of a machine. Writing a file makes the directories that are missing on its path. The variable
file is the one that applies to the directory in which the program runs, if there is one. -/
structure Machine (m : Type → Type) where
  environment : String → m (Option String)
  variableFile : m (Option String)
  readText : String → m (Except FileError String)
  isThere : String → m Bool
  writeText : String → String → m (Except FileError Unit)
  now : m Instant
  randomBits : m (Nat → Nat)
  isTerminal : m Bool

end IdentityProvider.CommandLine
