namespace IdentityProvider

structure Application where
  owner : String := ""
  name : String := ""
  redirectUris : List String := []
  replyUrlField : Option String := none
  compressionEnabled : Bool := false
deriving Repr, DecidableEq, Inhabited

namespace Application

def replyUrl? (app : Application) : Option String :=
  app.replyUrlField.filter (· ≠ "")

def allows (app : Application) (issuer : String) : Bool :=
  app.redirectUris.contains issuer

def addRedirectUri (app : Application) (uri : String) : Application :=
  { app with redirectUris := app.redirectUris ++ [uri] }

end Application

end IdentityProvider
