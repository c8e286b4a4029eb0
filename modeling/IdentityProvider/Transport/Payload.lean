import IdentityProvider.Bytes.Base64
import IdentityProvider.Journal
import IdentityProvider.Saml.Request
import IdentityProvider.Text.Blank
import IdentityProvider.Transport.Deflate
import IdentityProvider.Transport.Percent
/-! The payload of a message: its bytes, deflated or not, as base64. Requests always come deflated. Which stream
stands for some bytes is up to the compressor. -/

namespace IdentityProvider

def encodedRequestLimit : Nat := 131072

def requestLimit : Nat := 65536

def responseLimit : Nat := 16777216

inductive PayloadError where
  | tooLong (size : Nat)
  | badPercent
  | badBase64
  | inflate (cause : Deflate.InflateError)
deriving Repr, DecidableEq

def PayloadError.message : PayloadError → String
  | tooLong size =>
    "encoded request exceeds maximum size (" ++ toString size ++ " > " ++
      toString encodedRequestLimit ++ " bytes)"
  | badPercent => "URL decode error: the bytes are not UTF-8"
  | badBase64 => "Invalid base64"
  | inflate cause => cause.message

def encodePayload (bs : Bytes) (compressed : Bool) (deflate : Bytes → Bytes := Deflate.compress) : String :=
  Base64.encode (if compressed then deflate bs else bs)

def decodeBytes (limit : Nat) (payload : String) (compressed : Bool) : Except PayloadError Bytes :=
  match Base64.decode (Text.removeBlanks payload) with
  | none => .error .badBase64
  | some bs =>
    if compressed then
      match Deflate.inflate limit bs with
      | .ok inflated => .ok inflated
      | .error e => .error (.inflate e)
    else .ok bs

def decodePayload (payload : String) (compressed : Bool) : Except Failure Bytes :=
  match decodeBytes responseLimit payload compressed with
  | .ok bs => .ok bs
  | .error e => .error (.decode e.message)

def encodeRequest (document : String) (deflate : Bytes → Bytes := Deflate.compress) : String :=
  encodePayload (Bytes.ofText document) true deflate

def decodeRequestDocument (encoded : String) : Except Failure String :=
  if encodedRequestLimit < encoded.utf8ByteSize then
    .error (.decode (PayloadError.tooLong encoded.utf8ByteSize).message)
  else
    match Percent.decode? encoded with
    | none => .error (.decode PayloadError.badPercent.message)
    | some plain =>
      match decodeBytes requestLimit plain true with
      | .error e => .error (.decode e.message)
      | .ok bs =>
        match Bytes.toText? bs with
        | some document => .ok document
        | none => .error (.malformedRequest RequestError.invalidUtf8.message)

def decodeRequest (encoded : String) : Recorded AuthnRequest := do
  let document ← Recorded.liftError id (decodeRequestDocument encoded)
  let request ← Recorded.liftError (fun e => .malformedRequest e.message) (AuthnRequest.parse document)
  Recorded.log .debug "decoded AuthnRequest" [("request_id", request.id), ("issuer", request.issuer)]
  return request

end IdentityProvider
