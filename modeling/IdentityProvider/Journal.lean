import IdentityProvider.Identifier
import IdentityProvider.Saml.Failure
/-! What answering a request leaves behind besides the answer: the identifiers that it drew, and the events that
it logged. Both stay when the answer fails. -/

namespace IdentityProvider

inductive Level where
  | error
  | warn
  | info
  | debug
  | trace
deriving Repr, DecidableEq

def Level.name : Level → String
  | error => "ERROR"
  | warn => "WARN"
  | info => "INFO"
  | debug => "DEBUG"
  | trace => "TRACE"

def boolText (b : Bool) : String :=
  if b then "true" else "false"

structure Event where
  level : Level
  message : String
  fields : List (String × String)
deriving Repr, DecidableEq

structure Journal where
  identifiers : Identifiers
  events : List Event := []

abbrev Recorded := ExceptT Failure (StateM Journal)

namespace Recorded

def log (level : Level) (message : String) (fields : List (String × String)) : Recorded Unit :=
  modify fun j => { j with events := j.events ++ [⟨level, message, fields⟩] }

def drawId : Recorded String := do
  let j ← get
  set { j with identifiers := j.identifiers.advance }
  return j.identifiers.current

def liftError {ε α : Type} (toFailure : ε → Failure) : Except ε α → Recorded α
  | .ok a => return a
  | .error e => throw (toFailure e)

def onFailure {α : Type} (steps : Recorded α) (report : Failure → Recorded Unit) : Recorded α :=
  tryCatch steps fun f => do
    report f
    throw f

end Recorded

end IdentityProvider
