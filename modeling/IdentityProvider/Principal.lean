/-! The authenticated user that a response is about. An empty field is unset. -/

namespace IdentityProvider

structure Principal where
  owner : String := ""
  name : String := ""
  id : String := ""
  createdTime : String := ""
  type : String := ""
  displayName : String := ""
  firstName : String := ""
  lastName : String := ""
  email : String := ""
  phone : String := ""
  avatar : String := ""
  region : String := ""
  location : String := ""
  affiliation : String := ""
  title : String := ""
  homepage : String := ""
  tag : String := ""
  language : String := ""
  roles : List String := []
  permissions : List String := []
deriving Repr, DecidableEq, Inhabited

namespace Principal

def profile (p : Principal) : List (String × String) :=
  [("owner", p.owner), ("name", p.name), ("id", p.id), ("createdTime", p.createdTime), ("type", p.type),
    ("displayName", p.displayName), ("firstName", p.firstName), ("lastName", p.lastName),
    ("email", p.email),
    ("phone", p.phone), ("avatar", p.avatar), ("region", p.region), ("location", p.location),
    ("affiliation", p.affiliation), ("title", p.title), ("homepage", p.homepage), ("tag", p.tag),
    ("language", p.language)]

def profileNames : List String :=
  (profile {}).map Prod.fst

theorem profile_names (p : Principal) : p.profile.map Prod.fst = profileNames := rfl

def legacyAttributes (p : Principal) : List (String × String) :=
  p.profile.filter fun field => field.2 ≠ ""

def effectiveRoles (p : Principal) : List String :=
  ((p.roles ++ p.permissions).filter (· ≠ "")).eraseDups

def addRole (p : Principal) (role : String) : Principal :=
  { p with roles := p.roles ++ [role] }

def addPermission (p : Principal) (permission : String) : Principal :=
  { p with permissions := p.permissions ++ [permission] }

end Principal

end IdentityProvider
