import IdentityProvider.Application
import IdentityProvider.Toml.Document

namespace IdentityProvider

namespace TomlValue

def text? : TomlValue → Option String
  | .text s => some s
  | _ => none

def bool? : TomlValue → Option Bool
  | .bool b => some b
  | _ => none

def texts? : TomlValue → Option (List String)
  | .array items => items.mapM text?
  | _ => none

def field? {α : Type} (entries : Entries) (key : String) (default : α) (read : TomlValue → Option α) :
    Option α :=
  match entries.lookup key with
  | none => some default
  | some v => read v

end TomlValue

namespace Application

def ofToml? (entries : TomlValue.Entries) : Option Application := do
  return {
    owner := ← TomlValue.field? entries "owner" "" TomlValue.text?,
    name := ← TomlValue.field? entries "name" "" TomlValue.text?,
    redirectUris := ← TomlValue.field? entries "redirect_uris" [] TomlValue.texts?,
    replyUrlField := ← TomlValue.field? entries "reply_url" none fun v => v.text?.map some,
    compressionEnabled := ← TomlValue.field? entries "compression_enabled" false TomlValue.bool? }

def parse? (s : String) : Option Application := do
  ofToml? (← Toml.parse? s)

end Application

end IdentityProvider
