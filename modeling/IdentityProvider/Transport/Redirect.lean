import IdentityProvider.Transport.Percent

namespace IdentityProvider

inductive MessageType where
  | request
  | response
deriving Repr, DecidableEq

def MessageType.parameter : MessageType → String
  | request => "SAMLRequest"
  | response => "SAMLResponse"

def redirectUrl (destination : String) (type : MessageType) (payload : String)
    (relayState : Option String) : String :=
  destination ++ (if destination.toList.contains '?' then "&" else "?") ++ type.parameter ++ "=" ++
    Percent.encode payload ++
    match relayState with
    | some state => "&RelayState=" ++ Percent.encode state
    | none => ""

end IdentityProvider
