import IdentityProvider.Metadata
import IdentityProvider.Principal
import IdentityProvider.Saml.Gate
import IdentityProvider.Saml.LegacyResponse
import IdentityProvider.Transport.Delivery
/-! The provider answers an encoded request with a signed and encoded response. The first step that fails ends
the answer, and says so in the log. -/

namespace IdentityProvider

open Xml (Element)

inductive ProtocolVersion where
  | saml20
  | saml11
deriving Repr, DecidableEq

def ProtocolVersion.name : ProtocolVersion → String
  | saml20 => "2.0"
  | saml11 => "1.1"

structure SignOn where
  application : Application
  principal : Principal
  keys : KeyMaterial
  host : String

structure Provider where
  config : Config
  roles : Principal → List String
  signer : Element → KeyMaterial → Recorded Element
  deflate : Bytes → Bytes

namespace Provider

def ofConfig (config : Config) (deflate : Bytes → Bytes := Deflate.compress) : Provider :=
  ⟨config, Principal.effectiveRoles, Signature.sign config.signatureSettings, deflate⟩

def debugText (p : Provider) : String :=
  let origin := match p.config.origin with
    | some s => "Some(" ++ Text.quote s ++ ")"
    | none => "None"
  let digest := match p.config.digest with
    | .sha1 => "Sha1"
    | .sha256 => "Sha256"
    | .sha384 => "Sha384"
    | .sha512 => "Sha512"
  "SamlIdp \x7b config: IdpConfig \x7b origin: " ++ origin ++ ", dev_mode: " ++ boolText p.config.devMode ++
    ", digest_algorithm: " ++ digest ++ ", include_certificate: " ++ boolText p.config.includeCertificate ++
    ", roles_separator: " ++ Text.quote p.config.rolesSeparator ++ " \x7d, .. \x7d"

def issue (p : Provider) (signOn : SignOn) (version : ProtocolVersion) (now : Instant)
    (request : AuthnRequest)
    (destination : String) : Recorded Element :=
  let issuer := (Origins.ofHost signOn.host p.config).backend
  match version with
  | .saml20 =>
    Response.issue
      { requestId := request.id, destination, issuer, audiences := audiences signOn.application request,
        name := signOn.principal.name, email := signOn.principal.email,
        displayName := signOn.principal.displayName,
        roles := p.config.rolesSeparator.intercalate (p.roles signOn.principal) } now
  | .saml11 =>
    LegacyResponse.issue
      { requestId := request.id, issuer, name := signOn.principal.name,
        attributes := signOn.principal.legacyAttributes } now

def respond (p : Provider) (signOn : SignOn) (version : ProtocolVersion) (now : Instant)
    (encoded : String) : Recorded EncodedResponse := do
  let request ← decodeRequest encoded
  let about := [("request_id", request.id)]
  let parties := about ++ [("issuer", request.issuer)]
  (Recorded.liftError id (checkIssuer signOn.application request)).onFailure fun _ =>
    Recorded.log .warn "issuer rejected" parties
  Recorded.log .debug "issuer validated" parties
  let delivery ← (Recorded.liftError id (resolveDelivery signOn.application request)).onFailure fun _ =>
    Recorded.log .warn "no destination for response" about
  Recorded.log .debug "destination resolved"
    (about ++ [("destination", delivery.destination), ("method", delivery.method.name)])
  let document ← (p.issue signOn version now request delivery.destination).onFailure fun e =>
    Recorded.log .error "failed to build response"
      (about ++ [("version", version.name), ("error", e.message)])
  Recorded.log .debug "response built" (about ++ [("version", version.name)])
  let signed ← (p.signer document signOn.keys).onFailure fun e =>
    Recorded.log .error "failed to sign response" (about ++ [("error", e.message)])
  Recorded.log .debug "response signed" about
  (encodeResponse signed delivery signOn.application.compressionEnabled p.deflate).onFailure fun e =>
    Recorded.log .error "failed to encode response" (about ++ [("error", e.message)])

def metadata (p : Provider) (app : Application) (certificatePem host : String) : Except Failure String :=
  Metadata.write app certificatePem (Origins.ofHost host p.config)

end Provider

end IdentityProvider
