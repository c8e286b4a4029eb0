import IdentityProvider.Json.Reader
import IdentityProvider.Principal
/-! Principals as JSON: an object with the fields that are set, or an array of the fields in order. Members of
an object that are no fields are passed over. -/

namespace IdentityProvider

namespace JsonValue

def textField? (fields : List (String × JsonValue)) (name : String) : Option String :=
  match fields.lookup name with
  | none => some ""
  | some (.text s) => some s
  | some _ => none

def text? : JsonValue → Option String
  | .text s => some s
  | _ => none

def textsField? (fields : List (String × JsonValue)) (name : String) : Option (List String) :=
  match fields.lookup name with
  | none => some []
  | some (.array items) => items.mapM text?
  | some _ => none

def fieldsOfMembers? (names : List String) (members : List (Option String × JsonValue)) :
    Option (List (String × JsonValue)) := do
  let keyed ← members.mapM fun m => m.1.map fun key => (key, m.2)
  let fields := keyed.filter fun m => names.contains m.1
  guard (fields.map Prod.fst).Nodup
  return fields

def fields? (names : List String) : JsonValue → Option (List (String × JsonValue))
  | .object members => fieldsOfMembers? names members
  | .array items => if items.length ≤ names.length then some (names.zip items) else none
  | _ => none

end JsonValue

namespace Principal

def fieldNames : List String :=
  profileNames ++ ["roles", "permissions"]

def ofJson? (v : JsonValue) : Option Principal := do
  let fields ← v.fields? fieldNames
  let text := JsonValue.textField? fields
  return {
    owner := ← text "owner", name := ← text "name", id := ← text "id", createdTime := ← text "createdTime",
    type := ← text "type", displayName := ← text "displayName", firstName := ← text "firstName",
    lastName := ← text "lastName", email := ← text "email", phone := ← text "phone",
    avatar := ← text "avatar",
    region := ← text "region", location := ← text "location", affiliation := ← text "affiliation",
    title := ← text "title", homepage := ← text "homepage", tag := ← text "tag",
    language := ← text "language",
    roles := ← JsonValue.textsField? fields "roles",
    permissions := ← JsonValue.textsField? fields "permissions" }

def parse? (s : String) : Option Principal := do
  ofJson? (← JsonValue.parse? s)

end Principal

end IdentityProvider
