import IdentityProvider.CommandLine.Arguments
import IdentityProvider.Saml.Request
import IdentityProvider.Settings

namespace IdentityProvider.CommandLine

structure RespondTask where
  request : String
  applicationPath : String
  principalPath : String
  certificatePath : String
  keyPath : String
  host : String
  isLegacy : Bool
  relayState : Option String
  asForm : Bool
deriving Repr, DecidableEq

inductive Task where
  | metadata (owner name certificatePath host : String)
  | respond (task : RespondTask)
  | decode (request : String)
  | showSettings
  | initSettings (overwrite : Bool)
deriving Repr, DecidableEq

structure Invocation where
  settingsPath : Option String
  outputFormat : Option OutputFormat
  task : Task
deriving Repr, DecidableEq

def defaultHost : String := "localhost:8000"

def requiredText (name : String) : Parameter :=
  { long := name, value := some .text, isRequired := true }

def requiredPath (name : String) : Parameter :=
  { long := name, value := some .path, isRequired := true }

def hostParameter : Parameter :=
  { long := "host", value := some .text }

def metadataCommand : Command :=
  .mk "sso-idp-metadata" [requiredText "owner", requiredText "name", requiredPath "cert", hostParameter] []

def respondCommand : Command :=
  .mk "sso-idp-respond"
    [requiredText "request", requiredPath "application", requiredPath "principal", requiredPath "cert",
      requiredPath "key", hostParameter, { long := "legacy" },
      { long := "relay-state", value := some .text },
      { long := "form" }] []

def decodeCommand : Command :=
  .mk "sso-idp-decode" [requiredText "request"] []

def configCommand : Command :=
  .mk "sso-idp-config" []
    [("show", .mk "sso-idp-config-show" [] []),
      ("init", .mk "sso-idp-config-init" [{ long := "force" }] [])]

def mainCommand : Command :=
  .mk "sso-idp"
    [{ long := "config", short := some 'c', value := some .path },
      { long := "output", short := some 'o', value := some (.choice ["table", "json", "quiet"]) },
      { long := "verbose", short := some 'v' }]
    [("metadata", metadataCommand), ("respond", respondCommand), ("decode", decodeCommand),
      ("config", configCommand)]

namespace Given

def text (g : Given) (name : String) : String :=
  (g.values.lookup name).getD ""

def hasFlag (g : Given) (name : String) : Bool :=
  g.flags.contains name

def host (g : Given) : String :=
  (g.values.lookup "host").getD defaultHost

end Given

def Task.ofChosen? : List (String × Given) → Option Task
  | [("metadata", g)] => some (.metadata (g.text "owner") (g.text "name") (g.text "cert") g.host)
  | [("respond", g)] =>
    some <| .respond
      { request := g.text "request", applicationPath := g.text "application",
        principalPath := g.text "principal", certificatePath := g.text "cert", keyPath := g.text "key",
        host := g.host, isLegacy := g.hasFlag "legacy", relayState := g.values.lookup "relay-state",
        asForm := g.hasFlag "form" }
  | [("decode", g)] => some (.decode (g.text "request"))
  | [("config", _), ("show", _)] => some .showSettings
  | [("config", _), ("init", g)] => some (.initSettings (g.hasFlag "force"))
  | _ => none

def Invocation.read (settingsVariable : Option String) (arguments : List String) :
    Except Stop Invocation := do
  let (given, chosen) ← readArguments mainCommand {} arguments
  let settingsPath ← match given.values.lookup "config", settingsVariable with
    | some path, _ => pure (some path)
    | none, some "" => throw (.usage "the settings path is empty")
    | none, path => pure path
  let outputFormat := (given.values.lookup "output").bind OutputFormat.ofName?
  match Task.ofChosen? chosen with
  | some task => return { settingsPath, outputFormat, task }
  | none => throw (.usage "a command is missing")

end IdentityProvider.CommandLine
