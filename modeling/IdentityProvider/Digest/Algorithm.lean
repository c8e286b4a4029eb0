namespace IdentityProvider

inductive DigestAlgorithm where
  | sha1
  | sha256
  | sha384
  | sha512
deriving Repr, DecidableEq, Inhabited

namespace DigestAlgorithm

def all : List DigestAlgorithm := [sha1, sha256, sha384, sha512]

def name : DigestAlgorithm → String
  | sha1 => "sha1"
  | sha256 => "sha256"
  | sha384 => "sha384"
  | sha512 => "sha512"

def outputLength : DigestAlgorithm → Nat
  | sha1 => 20
  | sha256 => 32
  | sha384 => 48
  | sha512 => 64

def digestUri : DigestAlgorithm → String
  | sha1 => "http://www.w3.org/2000/09/xmldsig#sha1"
  | sha256 => "http://www.w3.org/2001/04/xmlenc#sha256"
  | sha384 => "http://www.w3.org/2001/04/xmldsig-more#sha384"
  | sha512 => "http://www.w3.org/2001/04/xmlenc#sha512"

def signatureUri : DigestAlgorithm → String
  | sha1 => "http://www.w3.org/2000/09/xmldsig#rsa-sha1"
  | sha256 => "http://www.w3.org/2001/04/xmldsig-more#rsa-sha256"
  | sha384 => "http://www.w3.org/2001/04/xmldsig-more#rsa-sha384"
  | sha512 => "http://www.w3.org/2001/04/xmldsig-more#rsa-sha512"

def isLegacy : DigestAlgorithm → Bool
  | sha1 => true
  | _ => false

def ofSignatureUri? (uri : String) : Option DigestAlgorithm :=
  all.find? (fun a => a.signatureUri == uri)

theorem ofSignatureUri?_signatureUri (a : DigestAlgorithm) : ofSignatureUri? a.signatureUri = some a := by
  cases a <;> decide

def ofName? (name : String) : Option DigestAlgorithm :=
  all.find? (fun a => a.name == name)

def parse? (text : String) : Option DigestAlgorithm :=
  ofName? (String.ofList ((text.toList.filter (· != '-')).map Char.toLower))

end DigestAlgorithm

end IdentityProvider
