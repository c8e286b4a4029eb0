import IdentityProvider.Instant
import IdentityProvider.Journal
import IdentityProvider.Xml.Character
import IdentityProvider.Xml.Node

namespace IdentityProvider

open Xml (Element)

def checkTexts (texts : List String) : Recorded Unit :=
  texts.forM fun t => Recorded.liftError (fun e => .serialization e.message) (Xml.checkChars t.toList)

def validityFrom (instant : Instant) : Recorded Validity :=
  match Validity.starting? instant with
  | some validity => return validity
  | none => throw (.serialization "issue instant out of range")

structure Response where
  requestId : String
  destination : String
  issuer : String
  audiences : List String
  name : String
  email : String
  displayName : String
  roles : String
deriving Repr, DecidableEq

namespace Response

def texts (r : Response) : List String :=
  [r.requestId, r.destination, r.name] ++ r.audiences ++ [r.email, r.name, r.displayName, r.roles, r.issuer]

def subject (r : Response) (v : Validity) : Element :=
  .ofElements "saml:Subject" []
    [.ofText "saml:NameID" [] r.name,
      .ofElements "saml:SubjectConfirmation" [("Method", Vocabulary.bearerConfirmation)]
        [⟨"saml:SubjectConfirmationData",
          [("InResponseTo", r.requestId), ("Recipient", r.destination), ("NotOnOrAfter", v.expires)], []⟩]]

def conditions (r : Response) (v : Validity) : Element :=
  .ofElements "saml:Conditions" [("NotBefore", v.issued), ("NotOnOrAfter", v.expires)]
    [.ofElements "saml:AudienceRestriction" [] (r.audiences.map (.ofText "saml:Audience" []))]

def authnStatement (sessionIndex : String) (v : Validity) : Element :=
  .ofElements "saml:AuthnStatement"
    [("AuthnInstant", v.issued), ("SessionIndex", sessionIndex), ("SessionNotOnOrAfter", v.expires)]
    [.ofElements "saml:AuthnContext" []
      [.ofText "saml:AuthnContextClassRef" [] Vocabulary.passwordProtectedTransport]]

def attributeElement (name value : String) : Element :=
  .ofElements "saml:Attribute" [("Name", name), ("NameFormat", Vocabulary.basicAttributeNames)]
    [.ofText "saml:AttributeValue" [("xsi:type", "xs:string")] value]

def attributeStatement (r : Response) : Element :=
  .ofElements "saml:AttributeStatement" []
    [attributeElement "Email" r.email, attributeElement "Name" r.name,
      attributeElement "DisplayName" r.displayName, attributeElement "Roles" r.roles]

def assertion (r : Response) (id sessionIndex : String) (v : Validity) : Element :=
  .ofElements "saml:Assertion"
    [("xmlns:xsi", Vocabulary.schemaInstanceNamespace),
      ("xmlns:xs", Vocabulary.schemaNamespace), ("ID", id),
      ("Version", "2.0"), ("IssueInstant", v.issued)]
    [.ofText "saml:Issuer" [] r.issuer, r.subject v, r.conditions v, authnStatement sessionIndex v,
      r.attributeStatement]

def document (r : Response) (id assertionId sessionIndex : String) (v : Validity) : Element :=
  .ofElements "samlp:Response"
    [("xmlns:samlp", Vocabulary.protocolNamespace),
      ("xmlns:saml", Vocabulary.assertionNamespace), ("ID", id),
      ("Version", "2.0"), ("IssueInstant", v.issued), ("Destination", r.destination),
      ("InResponseTo", r.requestId)]
    [.ofText "saml:Issuer" [] r.issuer,
      .ofElements "samlp:Status" [] [⟨"samlp:StatusCode", [("Value", Vocabulary.statusSuccess)], []⟩],
      r.assertion assertionId sessionIndex v]

/-- Issues a response at an instant. It draws three identifiers, once it has a destination and a validity. -/
def issue (r : Response) (instant : Instant) : Recorded Element := do
  if r.destination = "" then throw (.missingDestination ("no destination for response to " ++ r.requestId))
  let validity ← validityFrom instant
  let id ← Recorded.drawId
  let assertionId ← Recorded.drawId
  let sessionIndex ← Recorded.drawId
  checkTexts r.texts
  return r.document id assertionId sessionIndex validity

end Response

end IdentityProvider
