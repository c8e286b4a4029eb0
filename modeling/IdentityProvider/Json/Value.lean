namespace IdentityProvider

/-- Half of a surrogate pair is no character: a text with such a half by itself is broken. The members of an
object are in order, and a key that is broken is none. -/
inductive JsonValue where
  | null
  | bool (b : Bool)
  | number (literal : String)
  | text (s : String)
  | brokenText
  | array (items : List JsonValue)
  | object (members : List (Option String × JsonValue))
deriving Repr, Inhabited

end IdentityProvider
