namespace IdentityProvider

inductive KeyError where
  | invalidKey (detail : String)
  | pem (detail : String)
  | signing (detail : String)
  | unknownAlgorithm (name : String)
deriving Repr, DecidableEq

def KeyError.message : KeyError → String
  | invalidKey detail => "invalid key format: " ++ detail
  | pem detail => "invalid PEM: " ++ detail
  | signing detail => "signing failed: " ++ detail
  | unknownAlgorithm name => "unknown algorithm: " ++ name

end IdentityProvider
