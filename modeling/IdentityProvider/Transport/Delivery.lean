import IdentityProvider.Application
import IdentityProvider.Transport.Form
import IdentityProvider.Transport.Payload
import IdentityProvider.Xml.Writer

namespace IdentityProvider

inductive DeliveryMethod where
  | get
  | post
deriving Repr, DecidableEq

def DeliveryMethod.name : DeliveryMethod → String
  | get => "GET"
  | post => "POST"

structure Delivery where
  destination : String
  method : DeliveryMethod
deriving Repr, DecidableEq

def resolveDelivery (app : Application) (request : AuthnRequest) : Except Failure Delivery :=
  match app.replyUrl?, request.consumerUrl? with
  | some url, _ => .ok ⟨url, .post⟩
  | none, some url => .ok ⟨url, .get⟩
  | none, none =>
    .error <| .missingDestination <|
      "application " ++ app.owner ++ "/" ++ app.name ++ " has no reply URL and request " ++ request.id ++
        " has no AssertionConsumerServiceURL"

structure EncodedResponse where
  payload : String
  delivery : Delivery
  compressed : Bool
deriving Repr, DecidableEq

namespace EncodedResponse

def redirectUrl (r : EncodedResponse) (relayState : Option String) : String :=
  IdentityProvider.redirectUrl r.delivery.destination .response r.payload relayState

def postForm (r : EncodedResponse) (relayState : Option String) : String :=
  IdentityProvider.postForm r.delivery.destination .response r.payload relayState

end EncodedResponse

def encodeResponse (document : Xml.Element) (delivery : Delivery) (compressed : Bool)
    (deflate : Bytes → Bytes := Deflate.compress) : Recorded EncodedResponse := do
  let written ← Recorded.liftError (fun e => .serialization e.message) document.toXml
  let payload := encodePayload (Bytes.ofText written) compressed deflate
  Recorded.log .debug "encoded response"
    [("destination", delivery.destination), ("method", delivery.method.name),
      ("compressed", boolText compressed),
      ("size", toString payload.utf8ByteSize)]
  return ⟨payload, delivery, compressed⟩

end IdentityProvider
