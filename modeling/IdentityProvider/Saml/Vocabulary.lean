namespace IdentityProvider.Vocabulary

def assertionNamespace : String := "urn:oasis:names:tc:SAML:2.0:assertion"

def protocolNamespace : String := "urn:oasis:names:tc:SAML:2.0:protocol"

def metadataNamespace : String := "urn:oasis:names:tc:SAML:2.0:metadata"

def legacyAssertionNamespace : String := "urn:oasis:names:tc:SAML:1.0:assertion"

def legacyProtocolNamespace : String := "urn:oasis:names:tc:SAML:1.0:protocol"

def signatureNamespace : String := "http://www.w3.org/2000/09/xmldsig#"

def schemaInstanceNamespace : String := "http://www.w3.org/2001/XMLSchema-instance"

def schemaNamespace : String := "http://www.w3.org/2001/XMLSchema"

def passwordProtectedTransport : String :=
  "urn:oasis:names:tc:SAML:2.0:ac:classes:PasswordProtectedTransport"

def statusSuccess : String := "urn:oasis:names:tc:SAML:2.0:status:Success"

def statusRequester : String := "urn:oasis:names:tc:SAML:2.0:status:Requester"

def statusResponder : String := "urn:oasis:names:tc:SAML:2.0:status:Responder"

def bearerConfirmation : String := "urn:oasis:names:tc:SAML:2.0:cm:bearer"

def basicAttributeNames : String := "urn:oasis:names:tc:SAML:2.0:attrname-format:basic"

def legacyStatusSuccess : String := "samlp:Success"

def legacyPasswordMethod : String := "urn:oasis:names:tc:SAML:1.0:am:password"

def legacyArtifactConfirmation : String := "urn:oasis:names:tc:SAML:1.0:cm:artifact"

def legacyAttributeNamespace : String := "http://www.ja-sig.org/products/cas/"

def emailNameId : String := "urn:oasis:names:tc:SAML:1.1:nameid-format:emailAddress"

def persistentNameId : String := "urn:oasis:names:tc:SAML:2.0:nameid-format:persistent"

def transientNameId : String := "urn:oasis:names:tc:SAML:2.0:nameid-format:transient"

def envelopedSignatureTransform : String := "http://www.w3.org/2000/09/xmldsig#enveloped-signature"

def exclusiveCanonicalization : String := "http://www.w3.org/2001/10/xml-exc-c14n#"

end IdentityProvider.Vocabulary

namespace IdentityProvider

inductive Binding where
  | httpPost
  | httpRedirect
deriving Repr, DecidableEq

namespace Binding

def uri : Binding → String
  | httpPost => "urn:oasis:names:tc:SAML:2.0:bindings:HTTP-POST"
  | httpRedirect => "urn:oasis:names:tc:SAML:2.0:bindings:HTTP-Redirect"

def ofUri? (uri : String) : Option Binding :=
  [httpPost, httpRedirect].find? (fun b => b.uri == uri)

end Binding

end IdentityProvider
