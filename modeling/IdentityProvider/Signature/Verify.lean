import IdentityProvider.Signature.Sign
import IdentityProvider.Text.Blank
import IdentityProvider.Xml.Document

namespace IdentityProvider.Signature

open Xml (Element)

def require (parent : Element) (name : String) : Except Failure Element :=
  match parent.find? name with
  | some child => .ok child
  | none => .error (.signature (parent.name ++ " has no " ++ name))

def bytesIn (e : Element) : Except Failure Bytes :=
  match Base64.decode (Text.removeBlanks e.textContent) with
  | some bytes => .ok bytes
  | none =>
    .error (.signature "invalid base64 in signature: a character, the length or the padding is wrong")

def algorithmOf (info : Element) : Except Failure DigestAlgorithm := do
  let method := ((← require info "SignatureMethod").attribute? "Algorithm").getD ""
  match DigestAlgorithm.ofSignatureUri? method with
  | some algorithm => return algorithm
  | none => throw (.signature ("unsupported signature method: " ++ method))

def referencedDigest (document info : Element) (algorithm : DigestAlgorithm) : Except Failure Bytes := do
  let reference ← require info "Reference"
  let expected := "#" ++ (← referenceId document)
  if reference.attribute? "URI" ≠ some expected then
    throw (.signature ("reference does not point at the root element " ++ expected))
  if (← require reference "DigestMethod").attribute? "Algorithm" ≠ some algorithm.digestUri then
    throw (.signature "digest method does not match signature method")
  bytesIn (← require reference "DigestValue")

def verifyDetached (document signature : Element) (publicKey : Bytes) : Except Failure Bool := do
  let info ← require signature "SignedInfo"
  let algorithm ← algorithmOf info
  let digest ← referencedDigest document info algorithm
  let unsigned ← document.canonicalize.mapError characterFailure
  if algorithm.hash (Bytes.ofText unsigned) ≠ digest then return false
  let value ← bytesIn (← require signature "SignatureValue")
  let signed ← (info.canonicalizeIn (document.attributes ++ signature.attributes)).mapError characterFailure
  return Rsa.verify publicKey (Bytes.ofText signed) value algorithm

def verify (written : String) (publicKey : Bytes) : Except Failure Bool := do
  let document ← (Xml.parse written).mapError fun e => .serialization e.message
  match document.find? "Signature" with
  | some signature => verifyDetached (document.removeChild "Signature") signature publicKey
  | none => throw (.signature "document is not signed")

end IdentityProvider.Signature
