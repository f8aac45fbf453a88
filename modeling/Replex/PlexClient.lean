import Replex.Auth.Context
import Replex.Data.Store

namespace Replex

open Data

/-! The client a handler builds for its request, and the facts it records
about media parts. -/

inductive IdentityError where
  | invalidToken
  | missingToken
  | upstream (reason : String)
  deriving DecidableEq

structure PlexClient where
  host : String
  context : PlexContext
  securityContext : Option RequestSecurityContext := none
  securityUnavailableFailClosed : Option Bool := none

inductive ClientError where
  | missingToken
  | hostNotConfigured
  deriving DecidableEq, Repr

def PlexClient.fromContextWithState (context : PlexContext)
    (config : Config) : Except ClientError PlexClient :=
  match context.token, config.host with
  | none, _ => .error .missingToken
  | some _, none => .error .hostNotConfigured
  | some _, some host => .ok { host, context }

theorem PlexClient.eq_of_fromContextWithState {context : PlexContext}
    {config : Config} {client : PlexClient}
    (built : fromContextWithState context config = .ok client) :
    ∃ host, client = { host, context } := by
  unfold fromContextWithState at built
  split at built
  · cases built
  · cases built
  · cases built
    exact ⟨_, rfl⟩

/-- The client of a handler: the request's own context and upstream win over
the arguments, and the security state is carried along. -/
def plexClientFromDepot (config : Config) (context : PlexContext)
    (depot : Depot) : Except ClientError PlexClient :=
  let effectiveContext :=
    (depot.requestContext.map RequestContext.plex).getD context
  match PlexClient.fromContextWithState effectiveContext config with
  | .error error => .error error
  | .ok client =>
      let client := match depot.requestContext with
        | some request => { client with host := request.upstreamHost }
        | none => client
      match depot.securityState with
      | some (.resolved security) =>
          .ok { client with securityContext := some security }
      | some (.unavailable failClosed _) =>
          .ok { client with securityUnavailableFailClosed := some failClosed }
      | none => .ok client

theorem context_of_plexClientFromDepot {config : Config} {depot : Depot}
    {request : RequestContext} {client : PlexClient}
    (present : depot.requestContext = some request)
    (built : plexClientFromDepot config request.plex depot = .ok client) :
    client.context = request.plex := by
  simp only [plexClientFromDepot, present, Option.map_some, Option.getD_some]
    at built
  cases fresh : PlexClient.fromContextWithState request.plex config with
  | error error => simp [fresh] at built
  | ok made =>
      obtain ⟨host, rfl⟩ := PlexClient.eq_of_fromContextWithState fresh
      simp only [fresh] at built
      split at built <;> cases built <;> rfl

theorem host_of_plexClientFromDepot {config : Config} {context : PlexContext}
    {depot : Depot} {request : RequestContext} {client : PlexClient}
    (present : depot.requestContext = some request)
    (built : plexClientFromDepot config context depot = .ok client) :
    client.host = request.upstreamHost := by
  simp only [plexClientFromDepot, present] at built
  split at built
  · cases built
  · split at built <;> cases built <;> rfl

def resolvedDepot (request : RequestContext)
    (security : RequestSecurityContext) : Depot where
  requestContext := some request
  securityState := some (.resolved security)

/-! One viewer of one configured server, for the concrete instances below and
in the handlers' modules. -/

def viewerConfig : Config where
  host := some "http://plex:32400"
  resolutionPolicyEnabled := true

def viewerRequest : RequestContext where
  plex := { token := some "jodie-token" }
  upstreamHost := "http://plex:32400"
  tokenScope := "1b59c4148be3f711"

/-- The digest of the viewer's token; other tokens are of no concern. -/
def viewerDigest : TokenDigest where
  tokenFingerprint token :=
    if token = "jodie-token" then
      "1b59c4148be3f711a63d485dc02e4a5101f02c674b6c1cafa589b0d629cce342"
    else
      "0000000000000000000000000000000000000000000000000000000000000000"
  length_fingerprint token := by split <;> rfl
  hex_fingerprint token := by split <;> rfl

def viewerDepot (policy : ResolutionPolicy) : Depot :=
  resolvedDepot viewerRequest
    { identity := { id := 42, uuid := "shared-jodie", username := "jodie" }
      tokenScope := viewerRequest.tokenScope
      policy
      identitySource := .sharedServer }

def viewerRuntime : PolicySnapshot where
  enabled := true
  entries := []
  defaultLimit := .unlimited
  failClosed := true
  hiddenCollections := []
  generation := 1

def noIdentity : PlexClient → Except IdentityError ResolvedIdentity :=
  fun _ => .error .invalidToken

/-- Knows the configured server and a second one. -/
def annexReader : HostReader where
  decodeBase32 text :=
    if text = "NB2HI4B2F4XWC3TOMV4C2YR2GMZDIMBQ" then
      some "http://annex-b:32400"
    else
      none
  parseUrl text :=
    if text = "http://annex-b:32400" then
      some { scheme := "http", hostStr := some "annex-b", port := some "32400",
             path := "/" }
    else if text = "http://plex:32400" then
      some { scheme := "http", hostStr := some "plex", port := some "32400",
             path := "/" }
    else
      none

/-! Part facts are recorded for everyone; a request is judged against its own
policy when it arrives. -/

structure PartMediaClassification where
  resolution : Option ResolutionLimit
  bitrate : Option Int64
  deriving DecidableEq

def partClassificationAllowed (classification : PartMediaClassification)
    (policy : ResolutionPolicy) : Bool :=
  if !policy.isUnrestricted &&
      !(classification.resolution.any fun resolution =>
        decide (resolution ≤ policy.limit)) then
    false
  else
    match policy.maxBitrate with
    | some maxBitrate =>
        classification.bitrate.any fun bitrate => decide (bitrate ≤ maxBitrate)
    | none => true

abbrev PartMediaCache : Type := Store Int64 PartMediaClassification

def Media.classification (media : Media) : PartMediaClassification where
  resolution := classify media
  bitrate := media.bitrate

def cacheMediaParts (media : Media) (cache : PartMediaCache) :
    PartMediaCache :=
  media.parts.foldl
    (fun cache part => cache.insert part.id media.classification) cache

def cachePartClassification (media : List Media) (cache : PartMediaCache) :
    PartMediaCache :=
  media.foldl (fun cache version => cacheMediaParts version cache) cache

def lastVersionWithPart (media : List Media) (id : Int64) : Option Media :=
  media.reverse.find? fun version =>
    version.parts.any fun part => part.id == id

theorem lookup_cacheMediaParts (media : Media) (cache : PartMediaCache)
    (id : Int64) :
    (cacheMediaParts media cache).lookup id =
      if media.parts.any fun part => part.id == id then
        some media.classification
      else cache.lookup id := by
  unfold cacheMediaParts
  generalize media.classification = fact
  induction media.parts generalizing cache with
  | nil => simp
  | cons part parts hypothesis =>
      rw [List.foldl_cons, hypothesis]
      by_cases same : part.id = id
      · subst same
        simp
      · simp [same, Store.lookup_insert_of_ne cache (Ne.symm same)]

/-- After a recording, a part carries the facts of the last version that
lists it; every other entry is as before. -/
theorem lookup_cachePartClassification (media : List Media)
    (cache : PartMediaCache) (id : Int64) :
    (cachePartClassification media cache).lookup id =
      ((lastVersionWithPart media id).map Media.classification).or
        (cache.lookup id) := by
  induction media generalizing cache with
  | nil => simp [cachePartClassification, lastVersionWithPart]
  | cons version media hypothesis =>
      have rest := hypothesis (cacheMediaParts version cache)
      unfold cachePartClassification at rest ⊢
      rw [List.foldl_cons, rest, lookup_cacheMediaParts]
      unfold lastVersionWithPart
      rw [List.reverse_cons, List.find?_append]
      cases media.reverse.find? fun version =>
          version.parts.any fun part => part.id == id with
      | some found => simp
      | none =>
          by_cases lists : version.parts.any fun part => part.id == id
          · simp [lists]
          · simp [lists]

theorem lookup_cachePartClassification_isSome {media : List Media}
    {version : Media} {part : MediaPart} (cache : PartMediaCache)
    (listed : version ∈ media) (carries : part ∈ version.parts) :
    ∃ recorded ∈ media,
      (cachePartClassification media cache).lookup part.id =
        some recorded.classification := by
  rw [lookup_cachePartClassification]
  cases found : lastVersionWithPart media part.id with
  | some recorded =>
      refine ⟨recorded, ?_, by simp⟩
      exact List.mem_reverse.mp (List.mem_of_find?_eq_some found)
  | none =>
      unfold lastVersionWithPart at found
      rw [List.find?_eq_none] at found
      have absent := found version (List.mem_reverse.mpr listed)
      exact absurd (List.any_eq_true.mpr ⟨part, carries, by simp⟩) absent

end Replex
