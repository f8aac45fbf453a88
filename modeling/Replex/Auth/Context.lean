import Replex.Request

namespace Replex

open Data

/-! What the outer middlewares establish about a request. -/

abbrev StatusCode : Type := Nat

structure RequestContext where
  plex : PlexContext
  upstreamHost : String
  tokenScope : String

structure RequestSecurityContext where
  identity : UserIdentity
  tokenScope : String
  policy : ResolutionPolicy
  identitySource : IdentitySource

inductive SecurityContextState where
  | resolved (security : RequestSecurityContext)
  | unavailable (failClosed : Bool) (reason : String)

structure Depot where
  requestContext : Option RequestContext := none
  securityState : Option SecurityContextState := none
  skipOptionalTransforms : Bool := false

/-- The decoders that read a host name: base32 text, and URLs. -/
structure HostReader where
  decodeBase32 : String → Option String
  parseUrl : String → Option ParsedUrl

/-- A `<base32>.replex.stream` host carries the address of an upstream. -/
def decodedReplexStreamHost (reader : HostReader) (request : Request) :
    Option String := do
  let host ← request.hostHeader
  let encoded ← Text.stripSuffix? host ".replex.stream"
  if encoded = "" then none
  let decoded ← reader.decodeBase32 (Text.toAsciiUppercase encoded)
  if decoded = "" then none
  let value := Text.trim decoded
  if ¬ (Text.startsWith value "http://" ∨ Text.startsWith value "https://") then
    none
  let parsed ← reader.parseUrl value
  if parsed.hostStr.isNone ∨ parsed.query.isSome ∨ parsed.fragment.isSome then
    none
  some (Text.trimEndMatches '/' value)

def requiresSecurityContext (path : String) : Bool :=
  Text.startsWith path "/library/" || Text.startsWith path "/hubs/" ||
    path == "/hubs" || Text.startsWith path "/playQueues" ||
    Text.startsWith path "/video/"

def requestContextMiddleware (reader : HostReader) (digest : TokenDigest)
    (config : Config) (plex : PlexContext) (request : Request) :
    Except StatusCode RequestContext :=
  let decodedHost := decodedReplexStreamHost reader request
  if decodedHost.any fun candidate =>
      !config.allowsUpstreamHost reader.parseUrl candidate then
    .error 400
  else
    .ok
      { plex
        upstreamHost := (decodedHost.or config.host).getD ""
        tokenScope := digest.tokenScope plex.token }

theorem upstreamHost_of_admitted {reader : HostReader} {digest : TokenDigest}
    {config : Config} {plex : PlexContext} {request : Request}
    {context : RequestContext}
    (admitted : requestContextMiddleware reader digest config plex request =
      .ok context) :
    context.upstreamHost =
      ((decodedReplexStreamHost reader request).or config.host).getD "" := by
  simp only [requestContextMiddleware] at admitted
  split at admitted
  · cases admitted
  · cases admitted
    rfl

end Replex
