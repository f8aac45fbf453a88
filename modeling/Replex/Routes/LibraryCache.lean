import Mathlib.Data.List.Sort
import Replex.Routes.Surfaces

namespace Replex

open Data

/-! The disk cache in front of `/library/sections`: its keys, and the hoops
that store raw payloads and replay them. -/

/-- How a request target is taken apart and written back. -/
structure TargetCodec where
  path : String → String
  /-- The decoded pairs of the query. -/
  pairs : String → List (String × String)
  /-- The path as the URL parser reads it; some targets it refuses. -/
  urlPath? : String → Option String
  serialize : List (String × String) → String
  converts : String → Bool

/-- The order in which a multimap shows its keys. -/
structure KeyOrder where
  iterate : Queries → List (String × String)
  perm : ∀ queries, (iterate queries).Perm queries.iter

structure LibraryRequest where
  target : String
  /-- The `X-Plex-Token` header, when its bytes are visible ASCII. -/
  tokenHeader : Option String := none
  deriving DecidableEq

def isLibraryKeyNoise (name : String) : Bool :=
  let lower := Text.toAsciiLowercase name
  if lower == "x-plex-container-start" || lower == "x-plex-container-size" then
    false
  else
    Text.startsWith lower "x-plex-" ||
      ["includefields", "excludefields", "includegeolocation"].contains lower

/-- Narrower than `isLibraryKeyNoise`: what Plex itself acts on stays. -/
def isLibraryFetchShaping (name : String) : Bool :=
  ["includefields", "excludefields", "includegeolocation"].contains
    (Text.toAsciiLowercase name)

def PairLe (left right : String × String) : Prop :=
  left.1 < right.1 ∨ (left.1 = right.1 ∧ left.2 ≤ right.2)

instance : DecidableRel PairLe :=
  fun left right => inferInstanceAs (Decidable (left.1 < right.1 ∨ _ ∧ _))

namespace TargetCodec

variable (codec : TargetCodec)

def queries (target : String) : Queries :=
  ⟨codec.pairs target⟩

def withQuery (path : String) (pairs : List (String × String)) : String :=
  let query := codec.serialize pairs
  if query = "" then path else path ++ "?" ++ query

end TargetCodec

section

variable (codec : TargetCodec) (digest : TokenDigest)

def canonicalLibraryPath (raw : String) : String :=
  match codec.urlPath? raw with
  | some path =>
      let pairs := ((codec.pairs raw).filter fun pair =>
        !isLibraryKeyNoise pair.1).map fun pair =>
          (Text.toAsciiLowercase pair.1, pair.2)
      "library:http://x" ++ path ++ "?" ++
        codec.serialize (pairs.insertionSort PairLe)
  | none => "library:" ++ raw

def normalizeLibraryFetch (request : LibraryRequest) : LibraryRequest :=
  match codec.urlPath? request.target with
  | none => request
  | some path =>
      let next := codec.withQuery path
        ((codec.pairs request.target).filter fun pair =>
          !isLibraryFetchShaping pair.1)
      if codec.converts next then { request with target := next } else request

def libraryCacheKeyFor (raw : String) (token : Option String) : String :=
  "library:u:" ++ digest.tokenScope token ++ ":" ++
    canonicalLibraryPath codec raw

/-- The header wins over the query, where the name is matched in any letter
case. -/
def requestToken (order : KeyOrder) (request : LibraryRequest) :
    Option String :=
  match request.tokenHeader with
  | some token => some token
  | none =>
      ((order.iterate (codec.queries request.target)).find? fun pair =>
        Text.eqIgnoreAsciiCase pair.1 "x-plex-token").map Prod.snd

/-- The token of the extracted context: the query wins, and only the exact
name counts there. -/
def contextToken (request : LibraryRequest) : Option String :=
  ((codec.queries request.target).get? "X-Plex-Token").or request.tokenHeader

def libraryCacheKey (order : KeyOrder) (request : LibraryRequest) : String :=
  libraryCacheKeyFor codec digest request.target
    (requestToken codec order request)

def inLibrarySections (request : LibraryRequest) : Bool :=
  Text.startsWith (codec.path request.target) "/library/sections/"

end

/-! What is stored, and what becomes of it on the way to a client. -/

abbrev Bytes : Type := List UInt8

/-- Who fetched a stored body; nothing reads it. -/
structure LibraryFetch where
  token : Option String
  canonicalPath : String
  deriving DecidableEq

structure LibraryEntry where
  body : Bytes
  fetch : LibraryFetch
  deriving DecidableEq

abbrev DiskCache : Type := Store String LibraryEntry

structure LibraryReply where
  status : StatusCode
  body : Bytes
  deriving DecidableEq

def LibraryReply.isSuccess (reply : LibraryReply) : Bool :=
  decide (200 ≤ reply.status ∧ reply.status < 300)

def libraryCacheStore (key : String) (fetch : LibraryFetch)
    (reply : LibraryReply) (disk : DiskCache) : DiskCache :=
  if reply.isSuccess && !reply.body.isEmpty then
    disk.insert key { body := reply.body, fetch }
  else
    disk

section

variable (identity : PlexClient → Except IdentityError ResolvedIdentity)
  (config : Config) (runtime : PolicySnapshot) (depot : Depot)

/-- `apply_policy_transforms`, which fails on an unreadable body, on a missing
context and when no client can be built. -/
def policyTransformed (container : Option MediaContainer) :
    Option MediaContainer :=
  match container, depot.requestContext with
  | some payload, some request =>
      match plexClientFromDepot config request.plex depot with
      | .ok client => some (applyPolicyTransforms
          (currentPolicy identity runtime client) runtime.failClosed payload)
      | .error _ => none
  | _, _ => none

def transformPolicyResponse (status : StatusCode)
    (container : Option MediaContainer) : Response :=
  if status ≠ 200 then
    { status, container }
  else
    match policyTransformed identity config runtime depot container with
    | some container => { status := 200, container := some container }
    | none => { status := 500 }

/-- A hit is answered at once. An entry that cannot be rendered is dropped and
counts as a miss. -/
def libraryCacheLookup (fromBytes : Bytes → Option MediaContainer)
    (key : String) (disk : DiskCache) :
    Option (LibraryEntry × MediaContainer) × DiskCache :=
  match disk.lookup key with
  | none => (none, disk)
  | some entry =>
      match policyTransformed identity config runtime depot
          (fromBytes entry.body) with
      | some container => (some (entry, container), disk)
      | none => (none, disk.evict key)

end

/-- The goal handler of the route is the one among the handlers. -/
theorem respond_transformPolicyResponse (services : PlaybackServices)
    (config : Config) (runtime : PolicySnapshot) (parts : PartMediaCache)
    (depot : Depot) (uri : Uri) (lookups : Lookups)
    (optionalHoops : Uri → HoopOutcome) (upstream : Upstream) :
    respond services config runtime parts depot uri lookups optionalHoops
        upstream .transformPolicyResponse =
      transformPolicyResponse services.currentIdentity config runtime depot
        upstream.status upstream.container := by
  obtain ⟨status, container, children⟩ := upstream
  simp only [respond, transformPolicyResponse, withClient, Upstream.raw]
  congr 1
  cases container with
  | none => rfl
  | some payload =>
      unfold policyTransformed
      cases depot.requestContext with
      | none => rfl
      | some request =>
          simp only
          cases plexClientFromDepot config request.plex depot with
          | error error => rfl
          | ok client => rfl

/-! Runs, in any order of requests, upstream replies, warmer fetches, policy
reloads and evictions. -/

/-- A request as it reaches the lookup, with what the middlewares read. -/
structure LibraryVisit where
  request : LibraryRequest
  order : KeyOrder
  /-- The context without its token; `none` when the extraction fails. -/
  extracted : Option PlexContext
  upstreamHost : String
  skipOptionalTransforms : Bool
  identity : PlexClient → Except IdentityError ResolvedIdentity

inductive LibraryTask where
  | proxied (request : LibraryRequest)
  | warmed (token path : String)

/-- What the policy in force prescribes for the account of a context. -/
def accountPolicy
    (identity : PlexClient → Except IdentityError ResolvedIdentity)
    (runtime : PolicySnapshot) (upstreamHost : String) (plex : PlexContext) :
    Except Unit ResolutionPolicy :=
  if !runtime.enabled then
    .ok .unrestricted
  else
    match identity { host := upstreamHost, context := plex } with
    | .ok resolved => .ok (runtime.resolve resolved.identity)
    | .error _ => .error ()

/-- A hit that was answered, beside what was in force for the account of its
token; nothing reads it. -/
structure LibraryReplay where
  request : LibraryRequest
  token : Option String
  policy : Except Unit ResolutionPolicy
  failClosed : Bool
  entry : LibraryEntry
  sent : MediaContainer

structure LibraryState where
  disk : DiskCache := .empty
  runtime : PolicySnapshot
  tasks : List LibraryTask := []
  replays : List LibraryReplay := []

inductive LibraryAction where
  | receive (visit : LibraryVisit)
  | answer (index : Nat) (order : KeyOrder) (reply : LibraryReply)
  | abandon (index : Nat)
  | warm (token sectionId : String) (start : Nat)
  | reload (runtime : PolicySnapshot)
  | evict (key : String)

def warmLibraryPath (sectionId : String) (start : Nat) : String :=
  "/library/sections/" ++ sectionId ++ "/all?X-Plex-Container-Start=" ++
    toString start ++ "&X-Plex-Container-Size=50"

section

variable (codec : TargetCodec) (digest : TokenDigest) (config : Config)
  (fromBytes : Bytes → Option MediaContainer)

namespace LibraryVisit

def token (visit : LibraryVisit) : Option String :=
  requestToken codec visit.order visit.request

def plex (visit : LibraryVisit) : PlexContext :=
  match visit.extracted with
  | some plex => { plex with token := contextToken codec visit.request }
  | none => {}

def depot (visit : LibraryVisit) (runtime : PolicySnapshot) : Depot :=
  requestDepot visit.identity config runtime
    { plex := visit.plex codec
      upstreamHost := visit.upstreamHost
      tokenScope := digest.tokenScope (visit.plex codec).token }
    (codec.path visit.request.target) visit.skipOptionalTransforms

def replay (visit : LibraryVisit) (runtime : PolicySnapshot)
    (entry : LibraryEntry) (sent : MediaContainer) : LibraryReplay where
  request := visit.request
  token := visit.token codec
  policy := accountPolicy visit.identity runtime visit.upstreamHost
    { visit.plex codec with token := visit.token codec }
  failClosed := runtime.failClosed
  entry := entry
  sent := sent

end LibraryVisit

/-- A request is stored under the key it has after its rewriting, and a warmed
page only when its status is 200. -/
def LibraryTask.store (order : KeyOrder) (reply : LibraryReply)
    (disk : DiskCache) : LibraryTask → DiskCache
  | proxied request =>
      let sent := normalizeLibraryFetch codec request
      if inLibrarySections codec sent then
        libraryCacheStore (libraryCacheKey codec digest order sent)
          { token := requestToken codec order sent
            canonicalPath := canonicalLibraryPath codec request.target }
          reply disk
      else
        disk
  | warmed token path =>
      if reply.status = 200 then
        disk.insert (libraryCacheKeyFor codec digest path (some token))
          { body := reply.body
            fetch :=
              { token := some token
                canonicalPath := canonicalLibraryPath codec path } }
      else
        disk

def libraryStep (state : LibraryState) : LibraryAction → LibraryState
  | .receive visit =>
      if inLibrarySections codec visit.request then
        match libraryCacheLookup visit.identity config state.runtime
            (visit.depot codec digest config state.runtime) fromBytes
            (libraryCacheKey codec digest visit.order visit.request)
            state.disk with
        | (some (entry, sent), disk) =>
            { state with
              disk
              replays := state.replays ++
                [visit.replay codec state.runtime entry sent] }
        | (none, disk) =>
            { state with
              disk
              tasks := state.tasks ++ [.proxied visit.request] }
      else
        state
  | .answer index order reply =>
      match state.tasks[index]? with
      | none => state
      | some task =>
          { state with
            disk := task.store codec digest order reply state.disk
            tasks := state.tasks.eraseIdx index }
  | .abandon index => { state with tasks := state.tasks.eraseIdx index }
  | .warm token sectionId start =>
      let path := warmLibraryPath sectionId start
      let key := libraryCacheKeyFor codec digest path (some token)
      if (state.disk.lookup key).isSome then
        state
      else
        { state with tasks := state.tasks ++ [.warmed token path] }
  | .reload runtime => { state with runtime }
  | .evict key => { state with disk := state.disk.evict key }

def libraryRun (startup : PolicySnapshot) (actions : List LibraryAction) :
    LibraryState :=
  actions.foldl (libraryStep codec digest config fromBytes)
    { runtime := startup }

end

end Replex
