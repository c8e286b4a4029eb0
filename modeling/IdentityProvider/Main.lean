import IdentityProvider.CommandLine.Run
import Std.Time.DateTime.Timestamp

open IdentityProvider IdentityProvider.CommandLine

def fileErrorOf : IO.Error → FileError
  | .noFileOrDirectory .. => .notFound
  | .permissionDenied .. => .permissionDenied
  | .alreadyExists .. => .alreadyExists
  | .inappropriateType _ code _ => if code = 21 then .isDirectory else .notDirectory
  | e => .other (toString e)

def attempt {α : Type} (action : IO α) : IO (Except FileError α) := do
  try
    return .ok (← action)
  catch e =>
    return .error (fileErrorOf e)

def readText (path : String) : IO (Except FileError String) := do
  match ← attempt (IO.FS.readBinFile path) with
  | .error e => return .error e
  | .ok bytes =>
    match Bytes.toText? bytes.toList with
    | some content => return .ok content
    | none => return .error .notText

def parentOf (path : String) : String :=
  String.ofList ((path.toList.reverse.dropWhile (· != '/')).drop 1).reverse

def writeText (path content : String) : IO (Except FileError Unit) :=
  attempt do
    if parentOf path != "" then IO.FS.createDirAll (parentOf path)
    IO.FS.writeFile path content

def findVariableFile (up : String) : Nat → IO (Option String)
  | 0 => return none
  | levels + 1 => do
    match ← readText (up ++ ".env") with
    | .ok content => return some content
    | .error _ => findVariableFile (up ++ "../") levels

def machine : Machine IO where
  environment name := IO.getEnv name
  variableFile := do findVariableFile "" (((← IO.currentDir).toString.toList.count '/') + 1)
  readText := readText
  isThere path := do return (← attempt (IO.FS.realPath path)).isOk
  writeText := writeText
  now := do
    let t ← Std.Time.Timestamp.now
    return ⟨t.val.second.val, t.val.nano.val.toNat⟩
  randomBits := do
    let bytes := (← IO.getRandomBytes 64).toList
    return fun n => Bytes.toNat ((bytes.drop (n % 4 * 16)).take 16)
  isTerminal := do (← IO.getStdout).isTty

def main (arguments : List String) : IO UInt32 := do
  match ← run machine arguments with
  | .error stop => do
    IO.print stop.output
    IO.eprint stop.notices
    return stop.exitCode.toUInt32
  | .ok report => do
    IO.print report.transcript.output
    IO.eprint report.transcript.notices
    return report.exitCode.toUInt32
