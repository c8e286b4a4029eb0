import IdentityProvider.Digest.Algorithm
import IdentityProvider.Digest.Sha2

namespace IdentityProvider.DigestAlgorithm

def hash : DigestAlgorithm → Bytes → Bytes
  | sha1 => Sha1.digest
  | sha256 => Sha256.digest
  | sha384 => Sha512.digest384
  | sha512 => Sha512.digest

end IdentityProvider.DigestAlgorithm
