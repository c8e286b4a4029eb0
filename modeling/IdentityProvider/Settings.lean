import IdentityProvider.Config
import IdentityProvider.Toml.Application
import IdentityProvider.Toml.Written
/-! The settings of the command line: how results are shown, and the configuration of the provider. They are
kept in a TOML document. -/

namespace IdentityProvider

inductive OutputFormat where
  | table
  | json
  | quiet
deriving Repr, DecidableEq

namespace OutputFormat

def name : OutputFormat → String
  | table => "table"
  | json => "json"
  | quiet => "quiet"

def ofName? (s : String) : Option OutputFormat :=
  [table, json, quiet].find? (fun f => f.name == s)

end OutputFormat

def TomlValue.choice? : TomlValue → Option String
  | .text s => some s
  | .table _ [(name, .array [])] => some name
  | .table _ [(name, .table _ [])] => some name
  | _ => none

namespace Config

def keys : List String :=
  ["origin", "dev_mode", "digest_algorithm", "include_certificate", "roles_separator"]

def ofEntries? (entries : TomlValue.Entries) : Option Config := do
  return {
    origin := ← TomlValue.field? entries "origin" none fun v => v.text?.map some,
    devMode := ← TomlValue.field? entries "dev_mode" false TomlValue.bool?,
    digest := ← TomlValue.field? entries "digest_algorithm" .sha256 fun v =>
      v.choice?.bind DigestAlgorithm.ofName?,
    includeCertificate := ← TomlValue.field? entries "include_certificate" true TomlValue.bool?,
    rolesSeparator := ← TomlValue.field? entries "roles_separator" "," TomlValue.text? }

def ofToml? : TomlValue → Option Config
  | .table _ entries => ofEntries? entries
  | .array items => ofEntries? (keys.zip items)
  | _ => none

def toToml (c : Config) : String :=
  ((c.origin.map fun o => "origin = " ++ Toml.quote o ++ "\n").getD "") ++
    "dev_mode = " ++ boolText c.devMode ++ "\n" ++
    "digest_algorithm = " ++ Toml.quote c.digest.name ++ "\n" ++
    "include_certificate = " ++ boolText c.includeCertificate ++ "\n" ++
    "roles_separator = " ++ Toml.quote c.rolesSeparator ++ "\n"

end Config

structure Settings where
  outputFormat : OutputFormat := .table
  provider : Config := {}
deriving Repr, DecidableEq

namespace Settings

def ofToml? (entries : TomlValue.Entries) : Option Settings := do
  return {
    outputFormat := ← TomlValue.field? entries "output_format" .table fun v =>
      v.choice?.bind OutputFormat.ofName?,
    provider := ← TomlValue.field? entries "idp" {} Config.ofToml? }

def parse? (s : String) : Option Settings := do
  ofToml? (← Toml.parse? s)

def toToml (s : Settings) : String :=
  "output_format = " ++ Toml.quote s.outputFormat.name ++ "\n\n[idp]\n" ++ s.provider.toToml

end Settings

end IdentityProvider
