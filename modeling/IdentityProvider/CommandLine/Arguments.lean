/-! Reading the arguments of a program: flags, parameters with a value, and subcommands. Arguments are read from
left to right. A value that stands in an argument of its own is checked when the next flag or parameter comes,
or at the end; by then a request for help may have been answered. -/

namespace IdentityProvider.CommandLine

inductive ValueKind where
  | text
  | path
  | choice (names : List String)
deriving Repr, DecidableEq

def ValueKind.admits : ValueKind → String → Bool
  | text, _ => true
  | path, s => s != ""
  | choice names, s => names.contains s

structure Parameter where
  long : String
  short : Option Char := none
  value : Option ValueKind := none
  isRequired : Bool := false
deriving Repr, DecidableEq

inductive Command where
  | mk (program : String) (parameters : List Parameter) (subcommands : List (String × Command))

namespace Command

def program : Command → String
  | mk p _ _ => p

def common : List Parameter :=
  [{ long := "help", short := some 'h' }, { long := "version", short := some 'V' }]

def parameters : Command → List Parameter
  | mk _ ps _ => ps ++ common

def subcommands : Command → List (String × Command)
  | mk _ _ subs => subs

def findLong? (c : Command) (name : String) : Option Parameter :=
  c.parameters.find? (fun p => p.long == name)

def findShort? (c : Command) (letter : Char) : Option Parameter :=
  c.parameters.find? (fun p => p.short == some letter)

def summaryLine (p : Parameter) : String :=
  "  " ++ ((p.short.map fun c => "-" ++ String.singleton c ++ ", ").getD "") ++ "--" ++ p.long ++
    (if p.value.isSome then " <VALUE>" else "") ++ "\n"

def summary (c : Command) : String :=
  "Usage: " ++ c.program ++ "\n" ++
    (if c.subcommands.isEmpty then ""
      else "\nCommands:\n" ++ String.join (c.subcommands.map fun s => "  " ++ s.1 ++ "\n")) ++
    "\nOptions:\n" ++ String.join (c.parameters.map summaryLine)

end Command

inductive Stop where
  | usage (reason : String)
  | help (summary : String)
  | version (program : String)
deriving Repr, DecidableEq

namespace Stop

def programVersion : String := "0.1.0"

def output : Stop → String
  | usage _ => ""
  | help summary => summary
  | version program => program ++ " " ++ programVersion ++ "\n"

def notices : Stop → String
  | usage reason => "error: " ++ reason ++ "\n"
  | _ => ""

def exitCode : Stop → Nat
  | usage _ => 2
  | _ => 0

end Stop

structure Given where
  values : List (String × String) := []
  flags : List String := []
deriving Repr, DecidableEq, Inhabited

structure Progress where
  given : Given := {}
  awaiting : Option Parameter := none
  unsettled : Option (Parameter × String) := none
  isOver : Bool := false

namespace Progress

def accept (p : Progress) (parameter : Parameter) (value : String) : Except Stop Progress :=
  if (p.given.values.lookup parameter.long).isSome then
    .error (.usage ("--" ++ parameter.long ++ " is given more than once"))
  else if (parameter.value.map (·.admits value)).getD false then
    .ok { p with given := { p.given with values := p.given.values ++ [(parameter.long, value)] } }
  else .error (.usage ("--" ++ parameter.long ++ " does not take the value '" ++ value ++ "'"))

def settle (p : Progress) : Except Stop Progress :=
  match p.awaiting, p.unsettled with
  | some parameter, _ => .error (.usage ("--" ++ parameter.long ++ " needs a value"))
  | none, some (parameter, value) => accept { p with unsettled := none } parameter value
  | none, none => .ok p

def takeFlag (c : Command) (p : Progress) (parameter : Parameter) : Except Stop Progress := do
  let p ← p.settle
  if parameter.long = "help" then throw (.help c.summary)
  if parameter.long = "version" then throw (.version c.program)
  if p.given.flags.contains parameter.long then
    throw (.usage ("--" ++ parameter.long ++ " is given more than once"))
  return { p with given := { p.given with flags := p.given.flags ++ [parameter.long] } }

def takeParameter (p : Progress) (parameter : Parameter) (value : Option String) :
    Except Stop Progress := do
  let p ← p.settle
  match value with
  | some v => p.accept parameter v
  | none => return { p with awaiting := some parameter }

def takeLong (c : Command) (p : Progress) (body : List Char) : Except Stop Progress :=
  let name := String.ofList (body.takeWhile (· != '='))
  let value := match body.dropWhile (· != '=') with
    | [] => none
    | _ :: v => some (String.ofList v)
  match c.findLong? name with
  | none => .error (.usage ("--" ++ name ++ " is unknown"))
  | some parameter =>
    if parameter.value.isSome then p.takeParameter parameter value
    else if value.isSome then .error (.usage ("--" ++ name ++ " takes no value"))
    else p.takeFlag c parameter

def takeShort (c : Command) (p : Progress) : List Char → Except Stop Progress
  | [] => .ok p
  | letter :: rest =>
    match c.findShort? letter with
    | none => .error (.usage ("-" ++ String.singleton letter ++ " is unknown"))
    | some parameter =>
      if parameter.value.isSome then
        p.takeParameter parameter <|
          match rest with
          | [] => none
          | '=' :: v => some (String.ofList v)
          | v => some (String.ofList v)
      else do
        let p ← p.takeFlag c parameter
        takeShort c p rest

def take (c : Command) (p : Progress) (argument : String) : Except Stop Progress :=
  if p.isOver then .error (.usage ("'" ++ argument ++ "' is not expected"))
  else
    match argument.toList with
    | ['-', '-'] => .ok { p with isOver := true }
    | '-' :: '-' :: body => p.takeLong c body
    | '-' :: letter :: letters => p.takeShort c (letter :: letters)
    | _ =>
      match p.awaiting with
      | some parameter => .ok { p with awaiting := none, unsettled := some (parameter, argument) }
      | none => .error (.usage ("'" ++ argument ++ "' is not expected"))

def finish (c : Command) (p : Progress) : Except Stop Given := do
  let p ← p.settle
  if !c.subcommands.isEmpty then throw (.usage "a command is missing")
  match c.parameters.find? fun q => q.isRequired && (p.given.values.lookup q.long).isNone with
  | some parameter => throw (.usage ("--" ++ parameter.long ++ " is missing"))
  | none => return p.given

end Progress

def helpOn (c : Command) : List String → Stop
  | [] => .help c.summary
  | name :: path =>
    match c.subcommands.lookup name with
    | some sub => helpOn sub path
    | none =>
      if name = "help" ∧ !c.subcommands.isEmpty ∧ path = [] then .help c.summary
      else .usage ("'" ++ name ++ "' is no command")

def readArguments (c : Command) (p : Progress) : List String → Except Stop (Given × List (String × Given))
  | [] => do return (← p.finish c, [])
  | argument :: rest =>
    let mayChoose := p.awaiting.isNone && !p.isOver
    match if mayChoose then c.subcommands.lookup argument else none with
    | some sub => do
      let (given, chosen) ← readArguments sub {} rest
      return ((← p.settle).given, (argument, given) :: chosen)
    | none =>
      if mayChoose ∧ !c.subcommands.isEmpty ∧ argument = "help" then .error (helpOn c rest)
      else do
        readArguments c (← p.take c argument) rest

end IdentityProvider.CommandLine
