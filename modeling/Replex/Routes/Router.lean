import Replex.Routes.Streams

namespace Replex

open Data

/-! Which handler answers a request. -/

inductive Handler where
  | protectedRedirectStream (route : StreamRoute)
  | proxyRequest
  | playback (enforced : Bool)
  | transformPolicyResponse
  | emptyHandler
  | cachedHubsResponse (slots : Bool)
  | getCollectionsChildren (ids : String)
  | defaultTransform (style : Option Style)
  /-- Pages of the proxy itself, such as metrics and web assets. -/
  | ownPage
  deriving DecidableEq

abbrev Params : Type := List (String × String)

def param (params : Params) (name : String) : String :=
  (params.lookup name).getD ""

def readStyle : String → Option Style
  | "hero" => some .hero
  | "shelf" => some .shelf
  | _ => none

structure Route where
  pattern : String
  methods : List Method := []
  handler : Params → Handler

def Route.accepts (route : Route) (method : Method) : Bool :=
  route.methods.isEmpty || route.methods.contains method

def streamRoutes (config : Config) : List Route :=
  if config.redirectStreams || config.resolutionPolicyEnabled then
    [{ pattern :=
        "/video/<colon:colon>/transcode/universal/session/<**rest>"
       handler := fun params =>
        .protectedRedirectStream (.session (param params "**rest")) },
      { pattern := "/library/parts/<itemid>/<partid>/file.<extension>"
        handler := fun params =>
          .protectedRedirectStream (.part (param params "itemid")
            (param params "partid") (param params "extension")) }]
  else
    []

def relatedRoutes (config : Config) : List Route :=
  if config.disableRelated then
    [{ pattern := "/library/metadata/<id>/related"
       handler := fun _ => .proxyRequest },
      { pattern := "/playQueues", handler := fun _ => .proxyRequest }]
  else
    []

def playbackRoutes (config : Config) : List Route :=
  ["decision", "start<**rest>", "subtitles"].map fun action =>
    { pattern := "/video/<colon:colon>/transcode/universal/" ++ action
      handler := fun _ => .playback config.resolutionPolicyEnabled }

def policyRoutes (config : Config) : List Route :=
  if config.resolutionPolicyEnabled then
    [{ pattern := "/library/metadata/<**rest>"
       methods := [.get, .post]
       handler := fun _ => .transformPolicyResponse },
      { pattern := "/library/sections/<**rest>"
        methods := [.get]
        handler := fun _ => .transformPolicyResponse },
      { pattern := "/playQueues"
        methods := [.get, .post, .put]
        handler := fun _ => .transformPolicyResponse }]
  else
    []

def hubRoutes (config : Config) : List Route :=
  (if config.disableContinueWatching then
    [{ pattern := "/hubs/continueWatching"
       methods := [.get]
       handler := fun _ => .emptyHandler }]
  else
    []) ++
  (if config.ntfWatchlistForce then
    [{ pattern := "/media/providers", handler := fun _ => .proxyRequest }]
  else
    []) ++
  [{ pattern := "/hubs/continueWatching"
     methods := [.get]
     handler := fun _ => .cachedHubsResponse false },
    { pattern := "/hubs/promoted"
      methods := [.get]
      handler := fun _ => .cachedHubsResponse true },
    { pattern := "/hubs/home"
      methods := [.get]
      handler := fun _ => .cachedHubsResponse false },
    { pattern := "/replex/image/hero/<type>/<uuid>"
      methods := [.get]
      handler := fun _ => .ownPage },
    { pattern := "/web/<**rest>"
      methods := [.get]
      handler := fun _ => .ownPage },
    { pattern := "/hubs/sections/<id>"
      methods := [.get]
      handler := fun _ => .cachedHubsResponse false }]

def adminRoutes : List Route :=
  [("/replex/webhooks", .post), ("/health/live", .get),
    ("/replex/admin/health/ready", .get), ("/replex/admin/metrics", .get),
    ("/replex/admin/cache", .get), ("/replex/admin/cache/<class>", .delete),
    ("/replex/admin/policy/reload", .post),
    ("/replex/admin/playback/explain", .get), ("/ping", .get)].map
    fun page =>
      { pattern := page.1, methods := [page.2], handler := fun _ => .ownPage }

def collectionsChildrenPattern : String :=
  "/replex/<style>/library/collections/<ids>/children"

def defaultTransformPattern : String := "/replex/<style>/<**rest>"

def tailRoutes : List Route :=
  [{ pattern := collectionsChildrenPattern
     methods := [.get]
     handler := fun params => .getCollectionsChildren (param params "ids") },
    { pattern := defaultTransformPattern
      methods := [.get]
      handler := fun params =>
        .defaultTransform (readStyle (param params "style")) },
    { pattern := "/photo/<colon:colon>/transcode"
      handler := fun _ => .proxyRequest },
    { pattern := "<**rest>", handler := fun _ => .proxyRequest }]

def routes (config : Config) : List Route :=
  streamRoutes config ++ relatedRoutes config ++ playbackRoutes config ++
    policyRoutes config ++ hubRoutes config ++ adminRoutes ++ tailRoutes

/-- The first route that takes the method and matches the path. Matching a
pattern is the router library's. -/
def selectHandler (matchPath : (pattern path : String) → Option Params)
    (config : Config) (method : Method) (path : String) : Handler :=
  ((routes config).findSome? fun route =>
    if route.accepts method then
      (matchPath route.pattern path).map route.handler
    else
      none).getD .ownPage

def Handler.isRewritten : Handler → Bool
  | .getCollectionsChildren _ => true
  | .defaultTransform _ => true
  | _ => false

theorem pattern_of_isRewritten {config : Config} {route : Route}
    (listed : route ∈ routes config) {params : Params}
    (rewritten : (route.handler params).isRewritten = true) :
    route.pattern = collectionsChildrenPattern ∨
      route.pattern = defaultTransformPattern := by
  simp only [routes, List.mem_append] at listed
  rcases listed with
    (((((stream | related) | playback) | policy) | hub) | admin) | tail
  · unfold streamRoutes at stream
    split at stream
    · grind [Handler.isRewritten]
    · cases stream
  · unfold relatedRoutes at related
    grind [Handler.isRewritten]
  · unfold playbackRoutes at playback
    grind [Handler.isRewritten]
  · unfold policyRoutes at policy
    grind [Handler.isRewritten]
  · unfold hubRoutes at hub
    grind [Handler.isRewritten]
  · unfold adminRoutes at admin
    grind [Handler.isRewritten]
  · unfold tailRoutes at tail
    grind [Handler.isRewritten]

/-- A path that matches neither of their patterns reaches neither of them. -/
theorem isRewritten_selectHandler
    {matchPath : (pattern path : String) → Option Params} {path : String}
    (children : matchPath collectionsChildrenPattern path = none)
    (default : matchPath defaultTransformPattern path = none)
    (config : Config) (method : Method) :
    (selectHandler matchPath config method path).isRewritten = false := by
  unfold selectHandler
  cases found : (routes config).findSome? fun route =>
      if route.accepts method then
        (matchPath route.pattern path).map route.handler
      else
        none with
  | none => rfl
  | some handler =>
      obtain ⟨route, listed, selected⟩ := List.exists_of_findSome?_eq_some found
      split at selected
      · obtain ⟨params, matched, rfl⟩ := Option.map_eq_some_iff.mp selected
        cases rewritten : (route.handler params).isRewritten with
        | false => exact rewritten
        | true =>
            rcases pattern_of_isRewritten listed rewritten with same | same
            · rw [same, children] at matched
              cases matched
            · rw [same, default] at matched
              cases matched
      · cases selected

end Replex
