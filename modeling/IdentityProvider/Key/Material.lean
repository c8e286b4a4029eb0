import IdentityProvider.Text.Quoted

namespace IdentityProvider

structure KeyMaterial where
  certificatePem : String
  privateKeyPem : String
deriving DecidableEq

def KeyMaterial.redacted (m : KeyMaterial) : String :=
  "KeyMaterial \x7b certificate_pem: " ++ Text.quote m.certificatePem ++
    ", private_key_pem: \"<redacted>\" \x7d"

end IdentityProvider
