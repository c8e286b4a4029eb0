import IdentityProvider.Saml.Response
/-! Responses in the 1.1 layout. Their attributes are the fields of the principal that are set. -/

namespace IdentityProvider

open Xml (Element)

structure LegacyResponse where
  requestId : String
  issuer : String
  name : String
  attributes : List (String × String)
deriving Repr, DecidableEq

namespace LegacyResponse

/-- The texts of a response that are not fixed, in the order in which they are checked. The subject is written
twice. -/
def texts (r : LegacyResponse) : List String :=
  [r.name, r.name] ++ r.attributes.map Prod.snd ++ [r.issuer, r.requestId]

def subject (r : LegacyResponse) : Element :=
  .ofElements "saml:Subject" []
    [.ofText "saml:NameIdentifier" [] r.name,
      .ofElements "saml:SubjectConfirmation" []
        [.ofText "saml:ConfirmationMethod" [] Vocabulary.legacyArtifactConfirmation]]

def authenticationStatement (r : LegacyResponse) (v : Validity) : Element :=
  .ofElements "saml:AuthenticationStatement"
    [("AuthenticationMethod", Vocabulary.legacyPasswordMethod),
      ("AuthenticationInstant", v.issued)] [r.subject]

def attributeElement (field : String × String) : Element :=
  .ofElements "saml:Attribute"
    [("AttributeName", field.1), ("AttributeNamespace", Vocabulary.legacyAttributeNamespace)]
    [.ofText "saml:AttributeValue" [] field.2]

def attributeStatement (r : LegacyResponse) : Element :=
  .ofElements "saml:AttributeStatement" [] (r.subject :: r.attributes.map attributeElement)

def assertion (r : LegacyResponse) (id : String) (v : Validity) : Element :=
  .ofElements "saml:Assertion"
    [("xmlns:saml", Vocabulary.legacyAssertionNamespace), ("MajorVersion", "1"), ("MinorVersion", "1"),
      ("AssertionID", id), ("Issuer", r.issuer), ("IssueInstant", v.issued)]
    [⟨"saml:Conditions", [("NotBefore", v.issued), ("NotOnOrAfter", v.expires)], []⟩,
      r.authenticationStatement v, r.attributeStatement]

def document (r : LegacyResponse) (id assertionId : String) (v : Validity) : Element :=
  .ofElements "samlp:Response"
    [("xmlns:samlp", Vocabulary.legacyProtocolNamespace), ("MajorVersion", "1"), ("MinorVersion", "1"),
      ("ResponseID", id), ("InResponseTo", r.requestId), ("IssueInstant", v.issued)]
    [.ofElements "samlp:Status" [] [⟨"samlp:StatusCode", [("Value", Vocabulary.legacyStatusSuccess)], []⟩],
      r.assertion assertionId v]

/-- Issues a response at an instant. It draws two identifiers, once it has a validity. -/
def issue (r : LegacyResponse) (instant : Instant) : Recorded Element := do
  let validity ← validityFrom instant
  let id ← Recorded.drawId
  let assertionId ← Recorded.drawId
  checkTexts r.texts
  return r.document id assertionId validity

end LegacyResponse

end IdentityProvider
