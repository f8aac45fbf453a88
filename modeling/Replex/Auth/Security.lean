import Replex.PlexClient

namespace Replex

/-! The account of a protected request. -/

def IdentityError.text : IdentityError → String
  | invalidToken => "invalid or expired plex token"
  | missingToken => "no plex token on request"
  | upstream reason => "identity lookup failed: " ++ reason

def ClientError.text : ClientError → String
  | missingToken => "missing Plex token on request"
  | hostNotConfigured => "REPLEX_HOST is not configured"

/-- The security state of a request, with the policy of the snapshot in force
when it arrives. Paths outside the protected surfaces get none. -/
def securityContextMiddleware
    (identity : PlexClient → Except IdentityError ResolvedIdentity)
    (config : Config) (runtime : PolicySnapshot) (request : RequestContext)
    (path : String) : Option SecurityContextState :=
  if runtime.enabled && requiresSecurityContext path then
    match PlexClient.fromContextWithState request.plex config with
    | .error error => some (.unavailable runtime.failClosed error.text)
    | .ok client =>
        match identity { client with host := request.upstreamHost } with
        | .error error => some (.unavailable runtime.failClosed error.text)
        | .ok resolved => some (.resolved
            { identity := resolved.identity
              tokenScope := request.tokenScope
              policy := runtime.resolve resolved.identity
              identitySource := resolved.source })
  else
    none

def requestDepot
    (identity : PlexClient → Except IdentityError ResolvedIdentity)
    (config : Config) (runtime : PolicySnapshot) (request : RequestContext)
    (path : String) (skipOptionalTransforms : Bool) : Depot where
  requestContext := some request
  securityState :=
    securityContextMiddleware identity config runtime request path
  skipOptionalTransforms := skipOptionalTransforms

end Replex
