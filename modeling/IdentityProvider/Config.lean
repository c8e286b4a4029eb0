import IdentityProvider.Saml.Failure
import IdentityProvider.Signature.Sign
import IdentityProvider.Text.Blank
import IdentityProvider.Text.Quoted
/-! The configuration of a provider, and the environment variables that override it. -/

namespace IdentityProvider

structure Config where
  origin : Option String := none
  devMode : Bool := false
  digest : DigestAlgorithm := .sha256
  includeCertificate : Bool := true
  rolesSeparator : String := ","
deriving Repr, DecidableEq

namespace Config

def signatureSettings (c : Config) : SignatureSettings :=
  ⟨c.digest, c.includeCertificate⟩

def variableNames : List String :=
  ["SSO_ORIGIN", "SSO_DEV_MODE", "SSO_DIGEST_ALGORITHM", "SSO_INCLUDE_CERTIFICATE"]

def normalizeOrigin (s : String) : String :=
  String.ofList (((Text.trimBoth Text.isBlank s.toList).reverse.dropWhile (· == '/')).reverse)

def readBool (key value : String) : Except Failure Bool :=
  let word := String.ofList ((Text.trimBoth Text.isBlank value.toList).map Char.toLower)
  if ["1", "true", "yes", "on"].contains word then .ok true
  else if ["0", "false", "no", "off"].contains word then .ok false
  else .error (.config (key ++ ": expected a boolean, got " ++ Text.quote word))

def readDigest (key value : String) : Except Failure DigestAlgorithm :=
  match DigestAlgorithm.parse? value with
  | some algorithm => .ok algorithm
  | none => .error (.config (key ++ ": " ++ (KeyError.unknownAlgorithm value).message))

def override {α : Type} (lookUp : String → Option String) (key : String) (default : α)
    (read : String → String → Except Failure α) : Except Failure α :=
  match lookUp key with
  | some value => read key value
  | none => .ok default

def withOverrides (c : Config) (lookUp : String → Option String) : Except Failure Config := do
  let origin ← override lookUp "SSO_ORIGIN" c.origin fun _ value =>
    .ok ((some (normalizeOrigin value)).filter (· ≠ ""))
  let devMode ← override lookUp "SSO_DEV_MODE" c.devMode readBool
  let digest ← override lookUp "SSO_DIGEST_ALGORITHM" c.digest readDigest
  let includeCertificate ← override lookUp "SSO_INCLUDE_CERTIFICATE" c.includeCertificate readBool
  return { c with origin, devMode, digest, includeCertificate }

end Config

end IdentityProvider
