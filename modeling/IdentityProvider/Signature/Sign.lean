import IdentityProvider.Bytes.Base64
import IdentityProvider.Journal
import IdentityProvider.Key.Material
import IdentityProvider.Key.Rsa
import IdentityProvider.Xml.Canonical
/-! Enveloped signatures: the signature of a document stands inside it, and covers its canonical form without
it. -/

namespace IdentityProvider

open Xml (Element)

/-- The digest serves both the reference and the signature. -/
structure SignatureSettings where
  digest : DigestAlgorithm := .sha256
  includeCertificate : Bool := true
deriving Repr, DecidableEq

namespace Signature

def referenceId (document : Element) : Except Failure String :=
  match ((document.attribute? "ID").or (document.attribute? "ResponseID")).filter (· ≠ "") with
  | some id => .ok id
  | none => .error (.signature ("root element " ++ document.name ++ " carries no ID to reference"))

def algorithmElement (name uri : String) : Element :=
  ⟨name, [("Algorithm", uri)], []⟩

def signedInfo (id digest : String) (algorithm : DigestAlgorithm) : Element :=
  .ofElements "ds:SignedInfo" []
    [algorithmElement "ds:CanonicalizationMethod" Vocabulary.exclusiveCanonicalization,
      algorithmElement "ds:SignatureMethod" algorithm.signatureUri,
      .ofElements "ds:Reference" [("URI", "#" ++ id)]
        [.ofElements "ds:Transforms" []
          [algorithmElement "ds:Transform" Vocabulary.envelopedSignatureTransform,
            algorithmElement "ds:Transform" Vocabulary.exclusiveCanonicalization],
          algorithmElement "ds:DigestMethod" algorithm.digestUri,
          .ofText "ds:DigestValue" [] digest]]

def keyInfo (certificate : String) : Element :=
  .ofElements "ds:KeyInfo" [] [.ofElements "ds:X509Data" [] [.ofText "ds:X509Certificate" [] certificate]]

def declarations : List Xml.Attribute :=
  [("xmlns:ds", Vocabulary.signatureNamespace)]

def envelop (document signature : Element) : Element :=
  document.insertChild (((document.position? "Issuer").map (· + 1)).getD 0) signature

def keyFailure (e : KeyError) : Failure :=
  .signature e.message

def characterFailure (e : Xml.Forbidden) : Failure :=
  .serialization e.message

def create (settings : SignatureSettings) (id : String) (document : Element) (keys : KeyMaterial) :
    Except Failure Element := do
  let key ← (privateKeyDer keys.privateKeyPem).mapError keyFailure
  let unsigned ← document.canonicalize.mapError characterFailure
  let digest := settings.digest.hash (Bytes.ofText unsigned)
  let info := signedInfo id (Base64.encode digest) settings.digest
  let signed ← (info.canonicalizeIn declarations).mapError characterFailure
  let value ← (Rsa.sign key (Bytes.ofText signed) settings.digest).mapError keyFailure
  let parts := [info, .ofText "ds:SignatureValue" [] (Base64.encode value)]
  if settings.includeCertificate then do
    let certificate ← (certificateBase64 keys.certificatePem).mapError keyFailure
    return .ofElements "ds:Signature" declarations (parts ++ [keyInfo certificate])
  else return .ofElements "ds:Signature" declarations parts

def signed (settings : SignatureSettings) (document : Element) (keys : KeyMaterial) :
    Except Failure (Element × String) := do
  let id ← referenceId document
  let signature ← create settings id document keys
  return (envelop document signature, id)

def sign (settings : SignatureSettings) (document : Element) (keys : KeyMaterial) : Recorded Element := do
  match signed settings document keys with
  | .ok (result, id) =>
    Recorded.log .debug "document signed" [("reference", id), ("digest", settings.digest.name)]
    return result
  | .error e =>
    Recorded.log .error "failed to sign document" [("error", e.message)]
    throw e

end Signature

end IdentityProvider
