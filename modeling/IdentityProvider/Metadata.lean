import IdentityProvider.Application
import IdentityProvider.Key.Pem
import IdentityProvider.Origins
import IdentityProvider.Xml.Writer

namespace IdentityProvider.Metadata

open Xml (Element)

def attributes : List (String × String) :=
  [("Email", "E-Mail"), ("DisplayName", "displayName"), ("Name", "Name")]

def nameIdFormats : List String :=
  [Vocabulary.emailNameId, Vocabulary.persistentNameId, Vocabulary.transientNameId]

def location (app : Application) (origins : Origins) : String :=
  origins.frontend ++ "/login/saml/authorize/" ++ app.owner ++ "/" ++ app.name

def keyDescriptor (certificate : String) : Element :=
  .ofElements "md:KeyDescriptor" [("use", "signing")] [Signature.keyInfo certificate]

def attributeElement (names : String × String) : Element :=
  ⟨"saml:Attribute",
    [("xmlns:saml", Vocabulary.assertionNamespace), ("Name", names.1),
      ("NameFormat", Vocabulary.basicAttributeNames), ("FriendlyName", names.2)], []⟩

def descriptor (certificate location : String) : Element :=
  .ofElements "md:IDPSSODescriptor" [("protocolSupportEnumeration", Vocabulary.protocolNamespace)] <|
    [keyDescriptor certificate] ++ nameIdFormats.map (.ofText "md:NameIDFormat" []) ++
      [⟨"md:SingleSignOnService", [("Binding", Binding.httpRedirect.uri), ("Location", location)], []⟩] ++
      attributes.map attributeElement

def document (certificate : String) (app : Application) (origins : Origins) : Element :=
  .ofElements "md:EntityDescriptor"
    [("xmlns:md", Vocabulary.metadataNamespace), ("xmlns:ds", Vocabulary.signatureNamespace),
      ("entityID", origins.backend)]
    [descriptor certificate (location app origins)]

def write (app : Application) (certificatePem : String) (origins : Origins) : Except Failure String := do
  let certificate ← (certificateBase64 certificatePem).mapError fun e => .invalidCertificate e.message
  (document certificate app origins).toDocument.mapError fun e => .serialization e.message

end IdentityProvider.Metadata
