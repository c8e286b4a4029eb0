import IdentityProvider.Digest.Hash
import IdentityProvider.Key.Der
import IdentityProvider.Key.Pem
/-! RSA signatures with PKCS#1 v1.5 padding. Signatures with SHA-1 take any key that fits together, whatever its
size; all else, verification included, takes keys of 2048 to 8192 bits. -/

namespace IdentityProvider

def powMod (base exponent modulus : Nat) : Nat :=
  if exponent = 0 then 1 % modulus
  else
    let half := powMod base (exponent / 2) modulus
    let square := half * half % modulus
    if exponent % 2 = 0 then square else square * base % modulus
termination_by exponent

def bitLength (n : Nat) : Nat :=
  if n = 0 then 0 else Nat.log2 n + 1

structure RsaPublicKey where
  modulus : Nat
  exponent : Nat
deriving DecidableEq

structure RsaPrivateKey where
  modulus : Nat
  publicExponent : Nat
  privateExponent : Nat
  prime1 : Nat
  prime2 : Nat
  exponent1 : Nat
  exponent2 : Nat
  coefficient : Nat
deriving DecidableEq

namespace RsaPublicKey

def size (key : RsaPublicKey) : Nat :=
  (bitLength key.modulus + 7) / 8

def toDer (key : RsaPublicKey) : Bytes :=
  Der.write Der.sequenceTag (Der.writeUnsigned key.modulus ++ Der.writeUnsigned key.exponent)

def ofPkcs1? (bs : Bytes) : Option RsaPublicKey := do
  let (content, rest) ← Der.expect? Der.sequenceTag bs
  guard (rest = [])
  let (modulus, content) ← Der.readUnsigned? content
  let (exponent, content) ← Der.readUnsigned? content
  guard (content = [])
  return ⟨modulus, exponent⟩

end RsaPublicKey

def rsaObject : Bytes := [0x2A, 0x86, 0x48, 0x86, 0xF7, 0x0D, 0x01, 0x01, 0x01]

def isRsaAlgorithm (content : Bytes) : Bool :=
  content == Der.write Der.objectTag rsaObject ++ Der.write Der.nullTag []

namespace RsaPublicKey

def ofSubjectPublicKeyInfo? (bs : Bytes) : Option RsaPublicKey := do
  let (content, _) ← Der.expect? Der.sequenceTag bs
  let (algorithm, content) ← Der.expect? Der.sequenceTag content
  guard (isRsaAlgorithm algorithm)
  let (bits, content) ← Der.expect? Der.bitStringTag content
  guard (content = [])
  match bits with
  | 0 :: key => ofPkcs1? key
  | _ => none

def ofDer? (bs : Bytes) : Option RsaPublicKey :=
  (ofPkcs1? bs).or (ofSubjectPublicKeyInfo? bs)

def isUsable (key : RsaPublicKey) : Bool :=
  2048 ≤ bitLength key.modulus && bitLength key.modulus ≤ 8192 && key.modulus % 2 == 1 &&
    key.exponent % 2 == 1 && 3 ≤ key.exponent && bitLength key.exponent ≤ 33

end RsaPublicKey

namespace RsaPrivateKey

def publicKey (key : RsaPrivateKey) : RsaPublicKey :=
  ⟨key.modulus, key.publicExponent⟩

def readPkcs1? (bs : Bytes) : Option (RsaPrivateKey × Bytes) := do
  let (content, rest) ← Der.expect? Der.sequenceTag bs
  let (version, content) ← Der.readUnsigned? content
  guard (version = 0)
  let (modulus, content) ← Der.readUnsigned? content
  let (publicExponent, content) ← Der.readUnsigned? content
  let (privateExponent, content) ← Der.readUnsigned? content
  let (prime1, content) ← Der.readUnsigned? content
  let (prime2, content) ← Der.readUnsigned? content
  let (exponent1, content) ← Der.readUnsigned? content
  let (exponent2, content) ← Der.readUnsigned? content
  let (coefficient, content) ← Der.readUnsigned? content
  guard (content = [])
  return (⟨modulus, publicExponent, privateExponent, prime1, prime2, exponent1, exponent2,
    coefficient⟩, rest)

def isWrapperEnd (version : Nat) (content : Bytes) : Bool :=
  let afterAttributes := match Der.expect? 0xA0 content with
    | some (_, rest) => rest
    | none => content
  if version = 0 then afterAttributes == []
  else
    match Der.expect? 0x81 afterAttributes with
    | some (_, rest) => rest == []
    | none => false

/-- Reads a key from the wrapper that tells the algorithm first. Read strictly, nothing may follow the wrapper,
and nothing unknown may follow the key in it. -/
def ofPkcs8? (strict : Bool) (bs : Bytes) : Option RsaPrivateKey := do
  let (content, rest) ← Der.expect? Der.sequenceTag bs
  let (version, content) ← Der.readUnsigned? content
  guard (version ≤ 1)
  let (algorithm, content) ← Der.expect? Der.sequenceTag content
  guard (isRsaAlgorithm algorithm)
  let (inner, content) ← Der.expect? Der.octetStringTag content
  guard (!strict || (rest == [] && isWrapperEnd version content))
  let (key, afterKey) ← readPkcs1? inner
  guard (afterKey = [])
  return key

def ofDer? (strict : Bool) : PrivateKeyDer → Option RsaPrivateKey
  | .pkcs1 der => do
    let (key, rest) ← readPkcs1? der
    guard (!strict || rest == [])
    return key
  | .pkcs8 der => ofPkcs8? strict der

/-- Whether the primes make up the modulus, and the exponents undo each other modulo either prime. -/
def fitsTogether (key : RsaPrivateKey) : Bool :=
  let product := key.privateExponent * key.publicExponent
  2 ≤ key.prime1 && 2 ≤ key.prime2 && key.prime1 * key.prime2 == key.modulus &&
    0 < product && (product - 1) % (key.prime1 - 1) == 0 && (product - 1) % (key.prime2 - 1) == 0

def isUsableWithSha1 (key : RsaPrivateKey) : Bool :=
  key.fitsTogether && key.modulus % 2 == 1 && key.publicExponent % 2 == 1 && 2 ≤ key.publicExponent &&
    key.publicExponent < 0x200000000 && key.publicExponent < key.modulus

def isPrecomputed (key : RsaPrivateKey) : Bool :=
  key.exponent1 * key.publicExponent % (key.prime1 - 1) == 1 && key.exponent1 < key.prime1 - 1 &&
    key.exponent2 * key.publicExponent % (key.prime2 - 1) == 1 && key.exponent2 < key.prime2 - 1 &&
    key.coefficient * key.prime2 % key.prime1 == 1 && key.coefficient < key.prime1

def isUsable (key : RsaPrivateKey) : Bool :=
  key.publicKey.isUsable && key.fitsTogether && key.privateExponent < key.modulus && key.isPrecomputed

def apply (key : RsaPrivateKey) (n : Nat) : Nat :=
  powMod n key.privateExponent key.modulus

end RsaPrivateKey

namespace Rsa

def digestHeader : DigestAlgorithm → Bytes
  | .sha1 => [0x30, 0x21, 0x30, 0x09, 0x06, 0x05, 0x2B, 0x0E, 0x03, 0x02, 0x1A, 0x05, 0x00, 0x04, 0x14]
  | .sha256 =>
    [0x30, 0x31, 0x30, 0x0D, 0x06, 0x09, 0x60, 0x86, 0x48, 0x01, 0x65, 0x03,
      0x04, 0x02, 0x01, 0x05, 0x00, 0x04, 0x20]
  | .sha384 =>
    [0x30, 0x41, 0x30, 0x0D, 0x06, 0x09, 0x60, 0x86, 0x48, 0x01, 0x65, 0x03,
      0x04, 0x02, 0x02, 0x05, 0x00, 0x04, 0x30]
  | .sha512 =>
    [0x30, 0x51, 0x30, 0x0D, 0x06, 0x09, 0x60, 0x86, 0x48, 0x01, 0x65, 0x03,
      0x04, 0x02, 0x03, 0x05, 0x00, 0x04, 0x40]

def padded? (size : Nat) (algorithm : DigestAlgorithm) (message : Bytes) : Option Bytes :=
  let digest := digestHeader algorithm ++ algorithm.hash message
  if digest.length + 11 ≤ size then
    some (0 :: 1 :: (List.replicate (size - digest.length - 3) 0xFF ++ 0 :: digest))
  else none

/-- Signs a padded message. The signature is checked before it is given out. -/
def signPadded? (key : RsaPrivateKey) (padded : Bytes) : Option Bytes :=
  let m := Bytes.toNat padded
  let s := key.apply m
  if powMod s key.publicExponent key.modulus = m then
    some (Bytes.ofNatPadded key.publicKey.size s)
  else none

def loadKey (der : PrivateKeyDer) : Except KeyError RsaPrivateKey :=
  match (RsaPrivateKey.ofDer? false der).filter RsaPrivateKey.isUsable with
  | some key => .ok key
  | none => .error (.invalidKey "invalid RSA key: malformed, inconsistent or of a refused size")

def loadKeyForSha1 (der : PrivateKeyDer) : Except KeyError RsaPrivateKey :=
  match (RsaPrivateKey.ofDer? true der).filter RsaPrivateKey.isUsableWithSha1 with
  | some key => .ok key
  | none => .error (.invalidKey "invalid RSA key: malformed, inconsistent or of a refused size")

def sign (der : PrivateKeyDer) (message : Bytes) (algorithm : DigestAlgorithm) : Except KeyError Bytes := do
  let key ← if algorithm = .sha1 then loadKeyForSha1 der else loadKey der
  let what := if algorithm = .sha1 then "RSA-SHA1 signing failed: " else "RSA signing failed: "
  match (padded? key.publicKey.size algorithm message).bind (signPadded? key) with
  | some signature => return signature
  | none => throw (.signing (what ++ "the key is too small or does not sign"))

def verify (publicKey message signature : Bytes) (algorithm : DigestAlgorithm) : Bool :=
  match (RsaPublicKey.ofDer? publicKey).filter RsaPublicKey.isUsable with
  | none => false
  | some key =>
    match padded? key.size algorithm message with
    | none => false
    | some padded =>
      let s := Bytes.toNat signature
      signature.length == key.size && s < key.modulus &&
        powMod s key.exponent key.modulus == Bytes.toNat padded

def publicKeyDer (der : PrivateKeyDer) : Except KeyError Bytes := do
  return (← loadKey der).publicKey.toDer

end Rsa

end IdentityProvider
