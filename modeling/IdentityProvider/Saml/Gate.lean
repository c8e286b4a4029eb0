import IdentityProvider.Application
import IdentityProvider.Saml.Failure
import IdentityProvider.Saml.Request

namespace IdentityProvider

def checkIssuer (app : Application) (request : AuthnRequest) : Except Failure Unit :=
  if app.allows request.issuer then .ok () else .error (.unauthorizedIssuer request.issuer)

def audiences (app : Application) (request : AuthnRequest) : List String :=
  (request.issuer :: app.redirectUris).eraseDups

theorem checkIssuer_eq_ok_iff {app : Application} {request : AuthnRequest} :
    checkIssuer app request = .ok () ↔ request.issuer ∈ app.redirectUris := by
  simp [checkIssuer, Application.allows]

end IdentityProvider
