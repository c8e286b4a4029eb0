import IdentityProvider.CommandLine.Fields
import IdentityProvider.CommandLine.Invocation
import IdentityProvider.CommandLine.Machine
import IdentityProvider.CommandLine.VariableFile
import IdentityProvider.Json.Principal
import IdentityProvider.Provider

namespace IdentityProvider.CommandLine

inductive RunError where
  | settings (detail : String)
  | input (kind path : String)
  | failure (cause : Failure)
  | file (cause : FileError)
  | argument (detail : String)
deriving Repr, DecidableEq

namespace RunError

def inputReason : String := "the text is ill-formed or a field has the wrong type"

/-- An error about a file tells its cause twice: as the error and as what brought it about. -/
def message : RunError → String
  | settings detail => "configuration error: " ++ detail
  | input kind path => "invalid " ++ kind ++ " in " ++ path ++ ": " ++ inputReason
  | failure cause => cause.message
  | file cause => "IO error: " ++ cause.message ++ ": " ++ cause.message
  | argument detail => "invalid argument: " ++ detail

end RunError

inductive Notice where
  | success
  | error
  | warning
  | info
deriving Repr, DecidableEq

namespace Notice

def mark : Notice → String
  | success => "✓"
  | error => "✗"
  | warning => "⚠"
  | info => "ℹ"

def colour : Notice → String
  | success => "32"
  | error => "31"
  | warning => "33"
  | info => "34"

def line (coloured : Bool) (n : Notice) (message : String) : String :=
  let mark := if coloured then "\x1b[1;" ++ n.colour ++ "m" ++ n.mark ++ "\x1b[0m" else n.mark
  mark ++ " " ++ message ++ "\n"

end Notice

structure Transcript where
  output : String := ""
  notices : String := ""

structure Report where
  succeeded : Bool
  transcript : Transcript

def Report.exitCode (r : Report) : Nat :=
  if r.succeeded then 0 else 1

abbrev Steps (m : Type → Type) := ExceptT RunError (StateT Transcript m)

variable {m : Type → Type} [Monad m]

namespace Steps

def print (line : String) : Steps m Unit :=
  modify fun t => { t with output := t.output ++ line ++ "\n" }

def ask {α : Type} (question : m α) : Steps m α :=
  ExceptT.lift (StateT.lift question)

def check {ε α : Type} (toError : ε → RunError) : Except ε α → Steps m α
  | .ok a => return a
  | .error e => throw (toError e)

def need {α : Type} (e : RunError) : Option α → Steps m α
  | some a => return a
  | none => throw e

end Steps

structure Session (m : Type → Type) where
  machine : Machine m
  assigned : List (String × String)
  coloured : Bool

def lookUp (machine : Machine m) (assigned : List (String × String)) (name : String) :
    m (Option String) := do
  match ← machine.environment name with
  | some value => return some value
  | none => return assigned.lookup name

def expand (machine : Machine m) (assigned : List (String × String)) : List VariableFile.Piece → m String
  | [] => return ""
  | .text c :: rest => do return String.singleton c ++ (← expand machine assigned rest)
  | .reference name :: rest => do
    let value := (← lookUp machine assigned name).getD ""
    return value ++ (← expand machine assigned rest)

def assign (machine : Machine m) (assigned : List (String × String)) :
    List VariableFile.Assignment → m (List (String × String))
  | [] => return assigned
  | a :: rest => do
    let value ← expand machine assigned a.value
    assign machine (assigned ++ [(a.name, value)]) rest

def wantsColour (forced refused wanted : Option String) (isTerminal : Bool) : Bool :=
  if (forced.map (· != "0")).getD false then true
  else if refused.isSome then false
  else (wanted.map (· != "0")).getD true && isTerminal

def Session.start (machine : Machine m) : m (Session m) := do
  let assigned ← assign machine [] (((← machine.variableFile).map VariableFile.parse).getD [])
  let forced ← lookUp machine assigned "CLICOLOR_FORCE"
  let refused ← lookUp machine assigned "NO_COLOR"
  let wanted ← lookUp machine assigned "CLICOLOR"
  let coloured := wantsColour forced refused wanted (← machine.isTerminal)
  return ⟨machine, assigned, coloured⟩

namespace Session

def valueOf (s : Session m) (name : String) : m (Option String) :=
  lookUp s.machine s.assigned name

def tell (s : Session m) (notice : Notice) (message : String) : Steps m Unit :=
  modify fun t => { t with notices := t.notices ++ notice.line s.coloured message }

def defaultPath (s : Session m) : Steps m String := do
  match (← Steps.ask (s.valueOf "HOME")).filter (· ≠ "") with
  | some home => return (if home.endsWith "/" then home else home ++ "/") ++ ".sso-idp/idp.toml"
  | none => throw (.settings "could not determine home directory")

def readSettings (s : Session m) (path : String) : Steps m Settings := do
  match ← Steps.ask (s.machine.readText path) with
  | .error e => throw (.settings ("cannot read " ++ path ++ ": " ++ e.message))
  | .ok content =>
    Steps.need (.settings "failed to parse config: the text is ill-formed or a value is refused")
      (Settings.parse? content)

/-- The settings in the file that applies, with the variables that override them. A file that is not named may
be missing. -/
def loadSettings (s : Session m) (path : Option String) : Steps m Settings := do
  let settings ← match path with
    | some path => s.readSettings path
    | none => do
      let path ← s.defaultPath
      if ← Steps.ask (s.machine.isThere path) then s.readSettings path else pure {}
  let values ← Steps.ask (Config.variableNames.mapM fun name => do return (name, ← s.valueOf name))
  let provider ← Steps.check .failure (settings.provider.withOverrides fun name => (values.lookup name).join)
  return { settings with provider }

def readInput (s : Session m) (path : String) : Steps m String := do
  match ← Steps.ask (s.machine.readText path) with
  | .ok content => return content
  | .error e => throw (.argument ("cannot read " ++ path ++ ": " ++ e.message))

def display (s : Session m) (format : OutputFormat) (fields : Fields) : Steps m Unit :=
  match format with
  | .quiet => return
  | .json => Steps.print fields.json
  | .table =>
    if fields.rows = [] then s.tell .info "Nothing to show."
    else Steps.print (Table.render fields.rows)

def provide {α : Type} (s : Session m) (steps : Recorded α) : Steps m α := do
  let bits ← Steps.ask s.machine.randomBits
  Steps.check .failure (steps.run ⟨.random bits, []⟩).1

end Session

def requestFields (r : AuthnRequest) : Fields :=
  [("id", .text r.id), ("issuer", .text r.issuer)] ++
    optionalField "assertion_consumer_service_url" r.consumerUrl ++
    optionalField "destination" r.destination ++
    optionalField "protocol_binding" r.protocolBinding ++
    optionalField "issue_instant" r.issueInstant ++
    [("force_authn", .flag r.forceAuthn), ("is_passive", .flag r.isPassive)] ++
    optionalField "name_id_format" r.nameIdFormat

def responseFields (r : EncodedResponse) (relayState : Option String) : Fields :=
  let url := if r.delivery.method = .get then some (r.redirectUrl relayState) else none
  [("destination", .text r.delivery.destination), ("method", .text r.delivery.method.name),
      ("compressed", .flag r.compressed)] ++
    optionalField "redirect_url" url ++ [("payload", .text r.payload)]

namespace Session

def runMetadata (s : Session m) (settings : Settings) (owner name certificatePath host : String) :
    Steps m Unit := do
  let certificate ← s.readInput certificatePath
  let provider := Provider.ofConfig settings.provider
  Steps.print (← Steps.check .failure (provider.metadata { owner, name } certificate host))

def runRespond (s : Session m) (settings : Settings) (format : OutputFormat)
    (task : RespondTask) : Steps m Unit := do
  let application ← Steps.need (.input "application" task.applicationPath)
    (Application.parse? (← s.readInput task.applicationPath))
  let principal ← Steps.need (.input "principal" task.principalPath)
    (Principal.parse? (← s.readInput task.principalPath))
  let certificate ← s.readInput task.certificatePath
  let key ← s.readInput task.keyPath
  if settings.provider.digest.isLegacy then
    s.tell .warning "signing with SHA-1; relying parties should move to SHA-256"
  let version := if task.isLegacy then ProtocolVersion.saml11 else .saml20
  let now ← Steps.ask s.machine.now
  let signOn : SignOn := ⟨application, principal, ⟨certificate, key⟩, task.host⟩
  let response ← s.provide <|
    (Provider.ofConfig settings.provider).respond signOn version now task.request
  if task.asForm then Steps.print (response.postForm task.relayState)
  else s.display format (responseFields response task.relayState)

def runInit (s : Session m) (path : String) (overwrite : Bool) : Steps m Unit := do
  if !overwrite && (← Steps.ask (s.machine.isThere path)) then
    throw (.settings (path ++ " already exists (use --force to overwrite)"))
  Steps.check .file (← Steps.ask (s.machine.writeText path (Settings.toToml {})))
  s.tell .success ("Configuration written to " ++ path)

def runTask (s : Session m) (invocation : Invocation) : Steps m Unit := do
  let settings ← s.loadSettings invocation.settingsPath
  let format := invocation.outputFormat.getD settings.outputFormat
  let path := do match invocation.settingsPath with
    | some path => return path
    | none => s.defaultPath
  match invocation.task with
  | .metadata owner name certificatePath host => s.runMetadata settings owner name certificatePath host
  | .respond task => s.runRespond settings format task
  | .decode request => s.display format (requestFields (← s.provide (decodeRequest request)))
  | .showSettings =>
    s.tell .info ("Configuration file: " ++ (← path))
    Steps.print settings.toToml
  | .initSettings overwrite => s.runInit (← path) overwrite

def report (s : Session m) (invocation : Invocation) : m Report := do
  let (result, transcript) ← (s.runTask invocation).run.run {}
  match result with
  | .ok () => return ⟨true, transcript⟩
  | .error e =>
    let notices := transcript.notices ++ Notice.error.line s.coloured e.message
    return ⟨false, { transcript with notices }⟩

end Session

def run (machine : Machine m) (arguments : List String) : m (Except Stop Report) := do
  let session ← Session.start machine
  match Invocation.read (← session.valueOf "SSO_CONFIG") arguments with
  | .error stop => return .error stop
  | .ok invocation => return .ok (← session.report invocation)

end IdentityProvider.CommandLine
