import Mathlib.Data.List.Sort
import Replex.PlexClient.Identity
import Replex.Models

namespace Replex

open Data

/-! Where hub payloads are kept, and who writes and reads them. -/

section

def canonicalIds (value : String) : String :=
  if Text.contains value "," then
    let ids := ((Text.split ',' value).map Text.trim).filter fun id => id ≠ ""
    ",".intercalate (ids.insertionSort (· ≤ ·))
  else
    value

def canonicalParts (queries : Queries) : List (String × String) :=
  let names := ["contentDirectoryID", "pinnedContentDirectoryID",
    "X-Plex-Container-Start", "X-Plex-Container-Size"]
  let parts := names.filterMap fun name =>
    ((queries.get? name).or (queries.get? (Text.toLowercase name))).map
      fun value => (name, canonicalIds value)
  parts.insertionSort fun left right => left.1 ≤ right.1

def cacheKeyForRequest (uri : Uri) : String :=
  match canonicalParts uri.queries with
  | [] => uri.path
  | parts =>
      uri.path ++ "?" ++ "&".intercalate (parts.map fun part =>
        Text.toLowercase part.1 ++ "=" ++ part.2)

/-- One generous fetch for each key, shaped for every request afterwards. -/
def canonicalFetchPath (uri : Uri) (keyPath : String) : String :=
  let query := (canonicalParts uri.queries).map fun part =>
    part.1 ++ "=" ++ part.2
  let query :=
    if query.any fun part => Text.startsWith part "includeGuids" then query
    else query ++ ["includeGuids=1"]
  let query :=
    if query.any fun part => Text.startsWith part "count=" then query
    else query ++ ["count=50"]
  let base := ((Text.split '?' keyPath).head?).getD keyPath
  base ++ "?" ++ "&".intercalate query

def isSharedPath (keyPath : String) : Bool :=
  Text.startsWith keyPath "/hubs/promoted" ||
    Text.startsWith keyPath "/hubs/home"

def hubCacheKey (digest : TokenDigest) (keyPath : String)
    (token : Option String) : String :=
  if isSharedPath keyPath then
    "hubcache:global:" ++ keyPath
  else
    match token with
    | some token =>
        "hubcache:u:" ++ digest.tokenScope (some token) ++ ":" ++ keyPath
    | none => "hubcache:u:anon:" ++ keyPath

/-- Servers without `/hubs/home` answer with the promoted payload. -/
def fetchHubsPayload (upstream : String → Reply MediaContainer)
    (keyPath : String) : Except StatusCode MediaContainer :=
  let reply := match upstream keyPath with
    | .answered 404 body =>
        if Text.startsWith keyPath "/hubs/home" then
          upstream ("/hubs/promoted" ++
            String.ofList (keyPath.toList.drop "/hubs/home".length))
        else
          .answered 404 body
    | reply => reply
  match reply with
  | .answered 200 (.ok payload) => .ok payload
  | _ => .error 502

end

/-! The lookups that transforms keep in the same cache. -/

inductive SideLookup where
  | collection (id : Int)
  | sectionCollections (id : Int)
  | collectionChildren (id offset limit : Int)

def SideLookup.name : SideLookup → String
  | collection id => "collection:" ++ toString id
  | sectionCollections id => "sectioncollections:" ++ toString id
  | collectionChildren id offset limit =>
      "get_collection_children:" ++ toString id ++ ":" ++ toString offset ++
        ":" ++ toString limit

def generateCacheKey (name : String) (context : PlexContext) : String :=
  name ++ ":" ++ context.token.getD ""

/-! The writers and readers of the cache, step by step. -/

structure Fetched where
  payload : MediaContainer
  /-- The token of the client that fetched the payload; nothing reads it. -/
  token : Option String

structure HubFetch where
  client : PlexClient
  keyPath : String
  fetchPath : String
  cacheKey : String

inductive HubTask where
  | miss (fetch : HubFetch)
  | scheduled (fetch : HubFetch)
  | refresh (fetch : HubFetch)
  | warm (fetch : HubFetch)

def HubTask.fetch : HubTask → HubFetch
  | miss fetch | scheduled fetch | refresh fetch | warm fetch => fetch

def HubTask.isWarm : HubTask → Bool
  | warm _ => true
  | _ => false

structure HubAnswer where
  token : Option String
  keyPath : String
  fetched : Fetched

/-- Times are in seconds. -/
structure HubState where
  metadata : Store String Fetched := .empty
  fetchedAt : Store String Nat := .empty
  lastRefreshAttempt : Store String Nat := .empty
  inflight : List String := []
  now : Nat := 0
  tasks : List HubTask := []
  warmQueue : List (PlexClient × String) := []
  answers : List HubAnswer := []

def refreshMinInterval : Nat := 60

namespace HubState

def isStale (state : HubState) (cacheKey : String) (maxAge : Nat) : Bool :=
  match state.fetchedAt.lookup cacheKey with
  | some fetchedAt => decide (maxAge ≤ state.now - fetchedAt)
  | none => true

def storePayload (state : HubState) (fetch : HubFetch)
    (payload : MediaContainer) : HubState :=
  { state with
    metadata := state.metadata.insert fetch.cacheKey
      { payload, token := fetch.client.context.token }
    fetchedAt := state.fetchedAt.insert fetch.cacheKey state.now }

def answer (state : HubState) (fetch : HubFetch) (fetched : Fetched) :
    HubState :=
  { state with answers := state.answers ++
      [{ token := fetch.client.context.token
         keyPath := fetch.keyPath
         fetched }] }

def addTask (state : HubState) (task : HubTask) : HubState :=
  { state with tasks := state.tasks ++ [task] }

def claim (state : HubState) (cacheKey : String) : HubState :=
  { state with inflight := cacheKey :: state.inflight }

def release (state : HubState) (cacheKey : String) : HubState :=
  { state with
    inflight := state.inflight.filter fun other => other != cacheKey }

end HubState

def hubFetch (digest : TokenDigest) (config : Config) (depot : Depot)
    (request : Request) : Option HubFetch :=
  match depot.requestContext with
  | none => none
  | some context =>
      match plexClientFromDepot config context.plex depot with
      | .error _ => none
      | .ok client =>
          let keyPath := cacheKeyForRequest request.uri
          some
            { client
              keyPath
              fetchPath := canonicalFetchPath request.uri keyPath
              cacheKey := hubCacheKey digest keyPath client.context.token }

/-- A cached payload answers at once, and is refreshed behind the request when
it has aged; otherwise the request waits for its own fetch. -/
def cachedHubsResponse (config : Config) (fetch : HubFetch)
    (state : HubState) : HubState :=
  match state.metadata.lookup fetch.cacheKey with
  | some cached =>
      let state := state.answer fetch cached
      if 0 < config.hubStaleTtl ∧
          state.isStale fetch.cacheKey config.hubStaleTtl then
        state.addTask (.scheduled fetch)
      else
        state
  | none => state.addTask (.miss fetch)

def spawnHubRefresh (fetch : HubFetch) (state : HubState) : HubState :=
  let recent := (state.lastRefreshAttempt.lookup fetch.cacheKey).any
    fun attempted => decide (state.now - attempted < refreshMinInterval)
  if recent ∨ fetch.cacheKey ∈ state.inflight then
    state
  else
    let state := (state.claim fetch.cacheKey).addTask (.refresh fetch)
    { state with
      lastRefreshAttempt :=
        state.lastRefreshAttempt.insert fetch.cacheKey state.now }

def refreshHubEntry (upstream : String → Reply MediaContainer)
    (fetch : HubFetch) (state : HubState) : HubState :=
  match fetchHubsPayload upstream fetch.fetchPath with
  | .error _ => state.release fetch.cacheKey
  | .ok payload => (state.storePayload fetch payload).release fetch.cacheKey

def finishMiss (upstream : String → Reply MediaContainer)
    (fetch : HubFetch) (state : HubState) : HubState :=
  match fetchHubsPayload upstream fetch.fetchPath with
  | .error _ => state
  | .ok payload =>
      (state.storePayload fetch payload).answer fetch
        { payload, token := fetch.client.context.token }

def runTask (upstream : String → Reply MediaContainer) (state : HubState) :
    HubTask → HubState
  | .miss fetch => finishMiss upstream fetch state
  | .scheduled fetch => spawnHubRefresh fetch state
  | .refresh fetch | .warm fetch => refreshHubEntry upstream fetch state

/-! The background warmer. -/

def warmPaths (sections : List String) : List String :=
  if sections = [] then
    []
  else
    let joined := ",".intercalate (sections.insertionSort (· ≤ ·))
    ["/hubs/promoted?contentdirectoryid=" ++ joined ++
        "&pinnedcontentdirectoryid=" ++ joined,
      "/hubs/home",
      "/hubs/continueWatching?contentdirectoryid=" ++ joined] ++
      sections.map fun key =>
        "/hubs/promoted?contentdirectoryid=" ++ key ++
          "&pinnedcontentdirectoryid=" ++ joined

def warmTokenList (config : Config) : List String :=
  match config.warmTokens with
  | some (token :: tokens) => token :: tokens
  | _ => config.token.toList

def warmerClient (config : Config) (token : String) : Option PlexClient :=
  (PlexClient.fromContextWithState
    { token := some token, clientIdentifier := some "replex-warmer" }
    config).toOption

/-- One pass: the shared merges with the first token, then every token's own
paths. The sections are asked for anew with each token. -/
def warmCycle (config : Config) (sharedSections : List String)
    (sections : String → List String) : List (PlexClient × String) :=
  if config.warmInterval = 0 then
    []
  else
    let shared := (warmTokenList config).head?.toList.flatMap fun token =>
      (warmerClient config token).toList.flatMap fun client =>
        ((warmPaths sharedSections).filter isSharedPath).map
          fun path => (client, path)
    let own := (warmTokenList config).flatMap fun token =>
      (warmerClient config token).toList.flatMap fun client =>
        ((warmPaths (sections token)).filter fun path =>
          !isSharedPath path).map fun path => (client, path)
    shared ++ own

def warmFetchPath (path : String) : String :=
  if Text.contains path "?" then path ++ "&includeGuids=1&count=50"
  else path ++ "?includeGuids=1&count=50"

/-- The warmer takes its next path once the previous fetch has ended. A path
that is no request target ends the warmer. -/
def warmNext (digest : TokenDigest) (parseTarget : String → Option Uri)
    (state : HubState) : HubState :=
  match state.warmQueue with
  | [] => state
  | (client, path) :: rest =>
      if state.tasks.any HubTask.isWarm then
        state
      else
        let fetchPath := warmFetchPath path
        match parseTarget fetchPath with
        | none => { state with warmQueue := [] }
        | some uri =>
            let keyPath := cacheKeyForRequest uri
            let cacheKey := hubCacheKey digest keyPath client.context.token
            let state := { state with warmQueue := rest }
            if cacheKey ∈ state.inflight then
              state
            else
              (state.claim cacheKey).addTask
                (.warm { client, keyPath, fetchPath, cacheKey })

/-! Runs, in any order of requests, answers of the upstream, warmer passes,
other users of the cache and evictions. -/

inductive HubAction where
  | request (depot : Depot) (request : Request)
  | run (index : Nat) (upstream : String → Reply MediaContainer)
  | warm (sharedSections : List String) (sections : String → List String)
  | warmNext
  | getCached (context : PlexContext) (lookup : SideLookup)
      (payload : MediaContainer)
  | forget (key : String)
  | markAllHubsStale
  | wait (seconds : Nat)

section

variable (digest : TokenDigest) (config : Config)
  (parseTarget : String → Option Uri)

def hubStep (state : HubState) : HubAction → HubState
  | .request depot request =>
      match hubFetch digest config depot request with
      | none => state
      | some fetch => cachedHubsResponse config fetch state
  | .run index upstream =>
      match state.tasks[index]? with
      | none => state
      | some task =>
          runTask upstream
            { state with tasks := state.tasks.eraseIdx index } task
  | .warm sharedSections sections =>
      if state.warmQueue = [] ∧ ¬ state.tasks.any HubTask.isWarm then
        { state with warmQueue := warmCycle config sharedSections sections }
      else
        state
  | .warmNext => warmNext digest parseTarget state
  | .getCached context lookup payload =>
      let key := generateCacheKey lookup.name context
      match state.metadata.lookup key with
      | some _ => state
      | none =>
          let fetched := { payload, token := context.token }
          { state with metadata := state.metadata.insert key fetched }
  | .forget key => { state with metadata := state.metadata.evict key }
  | .markAllHubsStale => { state with fetchedAt := .empty }
  | .wait seconds => { state with now := state.now + seconds }

def hubRun (actions : List HubAction) : HubState :=
  actions.foldl (hubStep digest config parseTarget) {}

end

end Replex
