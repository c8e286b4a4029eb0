import IdentityProvider.Config
import IdentityProvider.Net.Address
/-! The public origins of a provider: where users log in, and what names the provider in documents. -/

namespace IdentityProvider

structure Origins where
  frontend : String
  backend : String
deriving Repr, DecidableEq

namespace Origins

/-- The name in a host: what stands in brackets, or what precedes the only colon if a port follows it. -/
def hostName (host : List Char) : List Char :=
  match host with
  | '[' :: rest => rest.takeWhile (· != ']')
  | _ =>
    let name := host.takeWhile (· != ':')
    match host.dropWhile (· != ':') with
    | _ :: port => if port.all Char.isDigit then name else host
    | [] => host

def scheme (host : List Char) : String :=
  let name := hostName host
  if !name.contains '.' || Net.isAddress name then "http://" else "https://"

def developmentHost : String := "localhost:8000"

def development : Origins :=
  ⟨"http://localhost:7001", "http://localhost:8000"⟩

def ofHost (host : String) (config : Config) : Origins :=
  match config.origin.filter (· ≠ "") with
  | some origin => ⟨origin, origin⟩
  | none =>
    if config.devMode && host == developmentHost then development
    else
      let origin := scheme host.toList ++ host
      ⟨origin, origin⟩

end Origins

end IdentityProvider
