import IdentityProvider.Saml.Vocabulary
/-! The ways in which answering a request fails. The first four are the requester's fault, the others the
provider's. -/

namespace IdentityProvider

inductive Failure where
  | decode (detail : String)
  | malformedRequest (detail : String)
  | unauthorizedIssuer (issuer : String)
  | missingDestination (detail : String)
  | signature (detail : String)
  | serialization (detail : String)
  | compression (detail : String)
  | invalidCertificate (detail : String)
  | config (detail : String)
deriving Repr, DecidableEq

namespace Failure

def message : Failure → String
  | decode detail => "cannot decode request: " ++ detail
  | malformedRequest detail => "malformed request: " ++ detail
  | unauthorizedIssuer issuer => "issuer is not allowed: " ++ issuer
  | missingDestination detail => "no destination: " ++ detail
  | signature detail => "signature failed: " ++ detail
  | serialization detail => "serialization failed: " ++ detail
  | compression detail => "compression failed: " ++ detail
  | invalidCertificate detail => "invalid certificate: " ++ detail
  | config detail => "invalid configuration: " ++ detail

def isRequesterFault : Failure → Bool
  | decode _ | malformedRequest _ | unauthorizedIssuer _ | missingDestination _ => true
  | _ => false

def statusCode (f : Failure) : String :=
  if f.isRequesterFault then Vocabulary.statusRequester else Vocabulary.statusResponder

def httpStatus : Failure → Nat
  | decode _ | malformedRequest _ | missingDestination _ => 400
  | unauthorizedIssuer _ => 403
  | signature _ | serialization _ | compression _ | invalidCertificate _ | config _ => 500

end Failure

end IdentityProvider
