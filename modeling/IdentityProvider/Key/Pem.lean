import IdentityProvider.Bytes.Base64
import IdentityProvider.Key.Error
import IdentityProvider.Text.Blank
/-! PEM: a labelled block of base64 between two lines of dashes. What stands around the block is ignored, and so
are blanks in it; lines of headers may come first, up to an empty line. -/

namespace IdentityProvider.Pem

structure Block where
  label : String
  contents : Bytes
deriving Repr, DecidableEq

inductive Error where
  | framing
  | missingLabel
  | labelMismatch
  | header
  | data
deriving Repr, DecidableEq

def Error.message : Error → String
  | framing => "malformed framing"
  | missingLabel => "missing label"
  | labelMismatch => "the labels differ"
  | header => "a header lacks a colon"
  | data => "the data is not base64"

/-- Splits a text at a marker. The characters are matched one by one: after one that does not continue the
marker, matching starts afresh with the next. The rest of the marker that is still to match comes second. -/
def splitAtMarker (marker left read : List Char) : List Char → Option (List Char × List Char)
  | [] => none
  | c :: cs =>
    match left with
    | m :: left =>
      if c = m then
        if left = [] then some (((c :: read).drop marker.length).reverse, cs)
        else splitAtMarker marker left (c :: read) cs
      else splitAtMarker marker marker (c :: read) cs
    | [] => none

def splitAt? (marker : String) (cs : List Char) : Option (List Char × List Char) :=
  splitAtMarker marker.toList marker.toList [] cs

def splitHeaders (body : List Char) : List Char × List Char :=
  match splitAt? "\n\n" body with
  | some parts => parts
  | none => (splitAt? "\r\n\r\n" body).getD ([], body)

def linesOnto (current : List Char) : List Char → List (List Char)
  | [] => if current = [] then [] else [current.reverse]
  | c :: cs =>
    if c = '\n' then
      (if current.head? = some '\r' then current.tail else current).reverse :: linesOnto [] cs
    else linesOnto (c :: current) cs

def parse (input : String) : Except Error Block := do
  let framed : Option (List Char × List Char × List Char) := do
    let (_, afterDashes) ← splitAt? "-----BEGIN " input.toList
    let (label, afterLabel) ← splitAt? "-----" afterDashes
    let (body, afterBody) ← splitAt? "-----END " (afterLabel.dropWhile Text.isMarkupBlank)
    let (closing, _) ← splitAt? "-----" afterBody
    return (label, body, closing)
  match framed with
  | none => throw .framing
  | some (label, body, closing) =>
    if label = [] ∨ closing = [] then throw .missingLabel
    if label ≠ closing then throw .labelMismatch
    let (headers, data) := splitHeaders body
    match Base64.decode (data.filter (fun c => !Text.isBlank c)) with
    | none => throw .data
    | some contents =>
      if (linesOnto [] headers).any (fun line => !line.contains ':') then throw .header
      return ⟨String.ofList label, contents⟩

end IdentityProvider.Pem

namespace IdentityProvider

inductive PrivateKeyDer where
  | pkcs1 (der : Bytes)
  | pkcs8 (der : Bytes)
deriving DecidableEq

namespace PrivateKeyDer

def bytes : PrivateKeyDer → Bytes
  | pkcs1 der | pkcs8 der => der

def redacted : PrivateKeyDer → String
  | pkcs1 _ => "PrivateKeyDer::Pkcs1(<redacted>)"
  | pkcs8 _ => "PrivateKeyDer::Pkcs8(<redacted>)"

end PrivateKeyDer

def readPem (input : String) : Except KeyError Pem.Block :=
  match Pem.parse input with
  | .ok block => .ok block
  | .error e => .error (.pem e.message)

def certificateDer (input : String) : Except KeyError Bytes := do
  let block ← readPem input
  if block.label = "CERTIFICATE" then return block.contents
  else throw (.pem ("expected CERTIFICATE, found " ++ block.label))

def certificateBase64 (input : String) : Except KeyError String := do
  return Base64.encode (← certificateDer input)

def privateKeyDer (input : String) : Except KeyError PrivateKeyDer := do
  let block ← readPem input
  if block.label = "PRIVATE KEY" then return .pkcs8 block.contents
  else if block.label = "RSA PRIVATE KEY" then return .pkcs1 block.contents
  else throw (.pem ("unsupported key label: " ++ block.label))

end IdentityProvider
