import Replex.PlexClient

namespace Replex

open Data

/-! The policy hoop of the decision, start and subtitles routes. -/

inductive HoopOutcome where
  | forward (uri : Uri)
  | stop (status : StatusCode)
  deriving DecidableEq

structure PlaybackServices where
  codec : UrlCodec
  currentIdentity : PlexClient → Except IdentityError ResolvedIdentity
  getItemByKey : PlexClient → String → Except String MediaContainer

structure Enforcement where
  outcome : HoopOutcome
  parts : PartMediaCache
  /-- The upstream the checked item was loaded from, once one was loaded. -/
  loadedFrom : Option String := none

/-! The bitrate cap. -/

def currentBitrate (queries : Queries) : Option Int64 :=
  ((queries.get? "maxVideoBitrate").or (queries.get? "videoBitrate")).bind
    DecimalText.int64?

def effectiveBitrate (cap : Int64) (queries : Queries) : Int64 :=
  match currentBitrate queries with
  | some current => if current ≤ cap then current else cap
  | none => cap

def exceedsCap (cap : Int64) (queries : Queries) : Bool :=
  match currentBitrate queries with
  | some current => decide (effectiveBitrate cap queries < current)
  | none => true

def cappedQueries (cap : Int64) (queries : Queries) : Queries :=
  ((queries.remove "videoBitrate").remove "maxVideoBitrate").insert
    "maxVideoBitrate" (toString (effectiveBitrate cap queries).toInt)

def capBitrate (codec : UrlCodec) (policy : ResolutionPolicy) (uri : Uri) :
    Uri :=
  match policy.maxBitrate with
  | none => uri
  | some cap =>
      if exceedsCap cap uri.queries then
        replaceQuery codec (cappedQueries cap uri.queries) uri
      else
        uri

/-! The version selection. -/

/-- The index asked for: `-1` and anything unreadable ask for none. -/
def requestedIndex (queries : Queries) : Option Nat :=
  ((queries.get? "mediaIndex").filter fun value => value ≠ "-1").bind
    DecimalText.usize?

def requestPermitted (media : List Media) (policy : ResolutionPolicy)
    (queries : Queries) : Bool :=
  (requestedIndex queries).any fun index =>
    media[index]?.any (mediaAllowed · policy)

/-- A version is found again by its id, so equal ids lead to the first. -/
def positionOfId (media : List Media) (id : Int64) : Option Nat :=
  media.findIdx? fun version => version.id == id

def pinnedQueries (index : Nat) (queries : Queries) : Queries :=
  (queries.remove "mediaIndex").insert "mediaIndex" (toString index)

def selectVersion (codec : UrlCodec) (policy : ResolutionPolicy)
    (screen : Option (Int64 × Int64)) (media : List Media) (uri : Uri) :
    HoopOutcome :=
  if requestPermitted media policy uri.queries then
    .forward uri
  else
    match bestAllowedMedia media policy screen with
    | none => .stop 403
    | some best =>
        match positionOfId media best.id with
        | none => .forward uri
        | some index =>
            .forward (replaceQuery codec (pinnedQueries index uri.queries) uri)

def pinnedIndex (media : List Media) (policy : ResolutionPolicy)
    (screen : Option (Int64 × Int64)) : Option Nat :=
  (bestAllowedMedia media policy screen).bind fun best =>
    positionOfId media best.id

def screenOf (context : PlexContext) : Option (Int64 × Int64) :=
  context.screenResolution.head?.map fun screen =>
    (screen.width, screen.height)

section

variable (services : PlaybackServices) (config : Config)
  (runtime : PolicySnapshot) (depot : Depot)

/-- The policy to enforce; `none` lets the request pass. -/
def playbackAccount (client : PlexClient) :
    Except StatusCode (Option ResolutionPolicy) :=
  match depot.securityState with
  | some (.resolved security) => .ok (some security.policy)
  | some (.unavailable failClosed _) =>
      if failClosed then .error 503 else .ok none
  | none =>
      match services.currentIdentity client with
      | .ok resolved => .ok (some (runtime.resolve resolved.identity))
      | .error _ => .error 500

def enforceVersions (client : PlexClient) (policy : ResolutionPolicy)
    (parts : PartMediaCache) (uri : Uri) : Enforcement :=
  if policy.isUnrestricted then
    { outcome := .forward uri, parts }
  else
    match uri.queries.get? "path" with
    | none => { outcome := .forward uri, parts }
    | some path =>
        match services.getItemByKey client path with
        | .error _ =>
            { outcome := if runtime.failClosed then .stop 503 else .forward uri
              parts }
        | .ok container =>
            match container.metadata.head? with
            | none =>
                { outcome :=
                    if runtime.failClosed then .stop 502 else .forward uri
                  parts
                  loadedFrom := some client.host }
            | some item =>
                if item.media.isEmpty then
                  { outcome := .forward uri, parts
                    loadedFrom := some client.host }
                else
                  { outcome := selectVersion services.codec policy
                      (screenOf client.context) item.media uri
                    parts := cachePartClassification item.media parts
                    loadedFrom := some client.host }

def enforceResolutionPolicy (parts : PartMediaCache) (uri : Uri) :
    Enforcement :=
  if !runtime.enabled then
    { outcome := .forward uri, parts }
  else
    match depot.requestContext with
    | none => { outcome := .stop 500, parts }
    | some request =>
        match plexClientFromDepot config request.plex depot with
        | .error _ => { outcome := .stop 500, parts }
        | .ok client =>
            match playbackAccount services runtime depot client with
            | .error status => { outcome := .stop status, parts }
            | .ok none => { outcome := .forward uri, parts }
            | .ok (some policy) =>
                if policy.isUnrestricted && policy.maxBitrate.isNone then
                  { outcome := .forward uri, parts }
                else
                  enforceVersions services runtime client policy parts
                    (capBitrate services.codec policy uri)

/-- The hoop settles on a policy for the client it built. -/
structure PlaybackPolicy (client : PlexClient) (policy : ResolutionPolicy) :
    Prop where
  enabled : runtime.enabled = true
  built : ∃ request, depot.requestContext = some request ∧
    plexClientFromDepot config request.plex depot = .ok client
  account : playbackAccount services runtime depot client = .ok (some policy)

structure LoadedItem (client : PlexClient) (policy : ResolutionPolicy)
    (uri : Uri) (item : MetaData) : Prop where
  limited : policy.limit ≠ .unlimited
  loaded : ∃ path container, uri.queries.get? "path" = some path ∧
    services.getItemByKey client path = .ok container ∧
    container.metadata.head? = some item
  nonempty : item.media ≠ []

end

section

variable {services : PlaybackServices} {config : Config}
  {runtime : PolicySnapshot} {depot : Depot}

theorem enforceResolutionPolicy_eq {client : PlexClient}
    {policy : ResolutionPolicy}
    (settled : PlaybackPolicy services config runtime depot client policy)
    (parts : PartMediaCache) (uri : Uri) :
    enforceResolutionPolicy services config runtime depot parts uri =
      enforceVersions services runtime client policy parts
        (capBitrate services.codec policy uri) := by
  obtain ⟨request, present, built⟩ := settled.built
  simp only [enforceResolutionPolicy, settled.enabled, present, built,
    settled.account, Bool.not_true, Bool.false_eq_true, if_false]
  split
  · rename_i lax
    obtain ⟨unlimited, uncapped⟩ := Bool.and_eq_true_iff.mp lax
    have absent : policy.maxBitrate = none := by simpa using uncapped
    simp [enforceVersions, unlimited, capBitrate, absent]
  · rfl

theorem enforceVersions_eq {client : PlexClient} {policy : ResolutionPolicy}
    {uri : Uri} {item : MetaData}
    (reached : LoadedItem services client policy uri item)
    (parts : PartMediaCache) :
    enforceVersions services runtime client policy parts uri =
      { outcome := selectVersion services.codec policy
          (screenOf client.context) item.media uri
        parts := cachePartClassification item.media parts
        loadedFrom := some client.host } := by
  obtain ⟨path, container, asked, answered, first⟩ := reached.loaded
  have limited := (policy.isUnrestricted_eq_false_iff).mpr reached.limited
  have nonempty : item.media.isEmpty = false := by
    simpa using reached.nonempty
  simp [enforceVersions, limited, asked, answered, first, nonempty]

end

/-! What the version selection does. -/

/-- The text for no choice names no index. -/
theorem ne_unset_of_usize? {value : String} {index : Nat}
    (read : DecimalText.usize? value = some index) : value ≠ "-1" := by
  have unread : DecimalText.usize? "-1" = none := by decide
  intro unset
  rw [unset, unread] at read
  cases read

def denotesPermitted (media : List Media) (policy : ResolutionPolicy)
    (value : String) : Bool :=
  (DecimalText.usize? value).any fun index =>
    media[index]?.any (mediaAllowed · policy)

theorem requestPermitted_eq (media : List Media) (policy : ResolutionPolicy)
    (queries : Queries) :
    requestPermitted media policy queries =
      (queries.get? "mediaIndex").any (denotesPermitted media policy) := by
  unfold requestPermitted requestedIndex denotesPermitted
  cases queries.get? "mediaIndex" with
  | none => rfl
  | some value =>
      by_cases unset : value = "-1"
      · subst unset
        have unread : DecimalText.usize? "-1" = none := by decide
        simp [Option.filter, unread]
      · simp [Option.filter, unset]

theorem selectVersion_of_permitted {media : List Media}
    {policy : ResolutionPolicy} {uri : Uri}
    (permitted : requestPermitted media policy uri.queries = true)
    (codec : UrlCodec) (screen : Option (Int64 × Int64)) :
    selectVersion codec policy screen media uri = .forward uri := by
  simp [selectVersion, permitted]

theorem selectVersion_of_none_allowed {media : List Media}
    {policy : ResolutionPolicy} {uri : Uri}
    (refused : requestPermitted media policy uri.queries = false)
    (noneAllowed : ∀ version ∈ media, mediaAllowed version policy = false)
    (codec : UrlCodec) (screen : Option (Int64 × Int64)) :
    selectVersion codec policy screen media uri = .stop 403 := by
  simp [selectVersion, refused, bestAllowedMedia_eq_none_iff.mpr noneAllowed]

theorem pinnedIndex_isSome {media : List Media} {policy : ResolutionPolicy}
    (screen : Option (Int64 × Int64))
    (someAllowed : ∃ version ∈ media, mediaAllowed version policy = true) :
    ∃ index, pinnedIndex media policy screen = some index := by
  cases selected : bestAllowedMedia media policy screen with
  | none =>
      obtain ⟨version, listed, allowed⟩ := someAllowed
      have refused := bestAllowedMedia_eq_none_iff.mp selected version listed
      rw [allowed] at refused
      cases refused
  | some best =>
      have listed := (bestAllowedMedia_mem selected).1
      have found : (positionOfId media best.id).isSome = true := by
        unfold positionOfId
        rw [List.findIdx?_isSome, List.any_eq_true]
        exact ⟨best, listed, by simp⟩
      obtain ⟨index, position⟩ := Option.isSome_iff_exists.mp found
      exact ⟨index, by simp [pinnedIndex, selected, position]⟩

theorem selectVersion_of_pinnedIndex {media : List Media}
    {policy : ResolutionPolicy} {uri : Uri}
    {screen : Option (Int64 × Int64)} {index : Nat}
    (refused : requestPermitted media policy uri.queries = false)
    (pinned : pinnedIndex media policy screen = some index)
    (codec : UrlCodec) :
    selectVersion codec policy screen media uri =
      .forward (replaceQuery codec (pinnedQueries index uri.queries) uri) := by
  obtain ⟨best, selected, position⟩ := Option.bind_eq_some_iff.mp pinned
  simp [selectVersion, refused, selected, position]

theorem pinnedIndex_lt {media : List Media} {policy : ResolutionPolicy}
    {screen : Option (Int64 × Int64)} {index : Nat}
    (pinned : pinnedIndex media policy screen = some index) :
    index < media.length := by
  obtain ⟨best, _, position⟩ := Option.bind_eq_some_iff.mp pinned
  exact (List.findIdx?_eq_some_iff_getElem.mp position).1

theorem getAll_pinnedQueries_self (index : Nat) (queries : Queries) :
    (pinnedQueries index queries).getAll "mediaIndex" = [toString index] := by
  simp [pinnedQueries]

theorem getAll_pinnedQueries_of_ne (index : Nat) (queries : Queries)
    {key : String} (different : key ≠ "mediaIndex") :
    (pinnedQueries index queries).getAll key = queries.getAll key := by
  unfold pinnedQueries
  rw [MultiMap.getAll_insert_of_ne _ (Ne.symm different),
    MultiMap.getAll_remove_of_ne _ (Ne.symm different)]

/-- A pin that takes effect leaves exactly one index in the query. -/
theorem getAll_mediaIndex_pinned {codec : UrlCodec} {index : Nat} {uri : Uri}
    (rewrites : codec.Rewrites (pinnedQueries index uri.queries) uri) :
    (replaceQuery codec (pinnedQueries index uri.queries) uri).queries.getAll
        "mediaIndex" = [toString index] := by
  rw [replaceQuery_of_rewrites rewrites, MultiMap.getAll_iter, MultiMap.get?,
    getAll_pinnedQueries_self]
  rfl

theorem getAll_pinned_of_ne {codec : UrlCodec} {index : Nat} {uri : Uri}
    (rewrites : codec.Rewrites (pinnedQueries index uri.queries) uri)
    {key : String} (different : key ≠ "mediaIndex") :
    (replaceQuery codec (pinnedQueries index uri.queries) uri).queries.getAll
        key = (uri.queries.get? key).toList := by
  rw [replaceQuery_of_rewrites rewrites, MultiMap.getAll_iter, MultiMap.get?,
    MultiMap.get?, getAll_pinnedQueries_of_ne index uri.queries different]

/-! What the cap does to a query. -/

def CapRewrites (codec : UrlCodec) (policy : ResolutionPolicy) (uri : Uri) :
    Prop :=
  ∃ cap, policy.maxBitrate = some cap ∧ exceedsCap cap uri.queries = true ∧
    codec.Rewrites (cappedQueries cap uri.queries) uri

theorem capBitrate_of_not_rewrites {codec : UrlCodec}
    {policy : ResolutionPolicy} {uri : Uri}
    (keeps : ¬ CapRewrites codec policy uri) :
    capBitrate codec policy uri = uri := by
  unfold capBitrate
  cases limit : policy.maxBitrate with
  | none => rfl
  | some cap =>
      dsimp only
      split
      · rename_i exceeds
        exact replaceQuery_of_not_rewrites fun rewrites =>
          keeps ⟨cap, limit, exceeds, rewrites⟩
      · rfl

theorem queries_capBitrate_of_rewrites {codec : UrlCodec}
    {policy : ResolutionPolicy} {uri : Uri} {cap : Int64}
    (limit : policy.maxBitrate = some cap)
    (exceeds : exceedsCap cap uri.queries = true)
    (rewrites : codec.Rewrites (cappedQueries cap uri.queries) uri) :
    (capBitrate codec policy uri).queries =
      ⟨(cappedQueries cap uri.queries).iter⟩ := by
  simp only [capBitrate, limit, exceeds, if_true]
  exact replaceQuery_of_rewrites rewrites

theorem getAll_cappedQueries_of_ne (cap : Int64) (queries : Queries)
    {key : String} (notMax : key ≠ "maxVideoBitrate")
    (notVideo : key ≠ "videoBitrate") :
    (cappedQueries cap queries).getAll key = queries.getAll key := by
  unfold cappedQueries
  rw [MultiMap.getAll_insert_of_ne _ (Ne.symm notMax),
    MultiMap.getAll_remove_of_ne _ (Ne.symm notMax),
    MultiMap.getAll_remove_of_ne _ (Ne.symm notVideo)]

theorem getAll_cappedQueries_max (cap : Int64) (queries : Queries) :
    (cappedQueries cap queries).getAll "maxVideoBitrate" =
      [toString (effectiveBitrate cap queries).toInt] := by
  simp [cappedQueries]

theorem getAll_cappedQueries_video (cap : Int64) (queries : Queries) :
    (cappedQueries cap queries).getAll "videoBitrate" = [] := by
  unfold cappedQueries
  rw [MultiMap.getAll_insert_of_ne _ (by decide),
    MultiMap.getAll_remove_of_ne _ (by decide), MultiMap.getAll_remove_self]

/-- Other parameters keep all their values, or their first one. -/
theorem getAll_capBitrate_of_ne (codec : UrlCodec)
    (policy : ResolutionPolicy) (uri : Uri) (key : String)
    (notMax : key ≠ "maxVideoBitrate") (notVideo : key ≠ "videoBitrate") :
    (CapRewrites codec policy uri ∧
        (capBitrate codec policy uri).queries.getAll key =
          (uri.queries.get? key).toList) ∨
      (¬ CapRewrites codec policy uri ∧
        capBitrate codec policy uri = uri) := by
  by_cases rewrites : CapRewrites codec policy uri
  · obtain ⟨cap, limit, exceeds, converted⟩ := rewrites
    refine .inl ⟨⟨cap, limit, exceeds, converted⟩, ?_⟩
    rw [queries_capBitrate_of_rewrites limit exceeds converted,
      MultiMap.getAll_iter, MultiMap.get?, MultiMap.get?,
      getAll_cappedQueries_of_ne cap uri.queries notMax notVideo]
  · exact .inr ⟨rewrites, capBitrate_of_not_rewrites rewrites⟩

theorem get?_capBitrate_of_ne (codec : UrlCodec) (policy : ResolutionPolicy)
    (uri : Uri) {key : String} (notMax : key ≠ "maxVideoBitrate")
    (notVideo : key ≠ "videoBitrate") :
    (capBitrate codec policy uri).queries.get? key = uri.queries.get? key := by
  rcases getAll_capBitrate_of_ne codec policy uri key notMax notVideo with
    ⟨_, values⟩ | ⟨_, same⟩
  · exact MultiMap.get?_of_getAll_eq_toList values
  · rw [same]

theorem requestPermitted_capBitrate (codec : UrlCodec) (media : List Media)
    (policy : ResolutionPolicy) (uri : Uri) :
    requestPermitted media policy (capBitrate codec policy uri).queries =
      requestPermitted media policy uri.queries := by
  rw [requestPermitted_eq, requestPermitted_eq,
    get?_capBitrate_of_ne codec policy uri (by decide) (by decide)]

theorem LoadedItem.capBitrate {services : PlaybackServices}
    {client : PlexClient} {policy : ResolutionPolicy} {uri : Uri}
    {item : MetaData}
    (reached : LoadedItem services client policy uri item) :
    LoadedItem services client policy
      (capBitrate services.codec policy uri) item where
  limited := reached.limited
  loaded := by
    rw [get?_capBitrate_of_ne services.codec policy uri (by decide)
      (by decide)]
    exact reached.loaded
  nonempty := reached.nonempty

theorem LoadedItem.of_capBitrate {services : PlaybackServices}
    {client : PlexClient} {policy : ResolutionPolicy} {uri : Uri}
    {item : MetaData}
    (reached : LoadedItem services client policy
      (Replex.capBitrate services.codec policy uri) item) :
    LoadedItem services client policy uri item where
  limited := reached.limited
  loaded := by
    rw [← get?_capBitrate_of_ne services.codec policy uri (by decide)
      (by decide)]
    exact reached.loaded
  nonempty := reached.nonempty

/-! The viewer's playback requests: one movie, and an HTTP library that takes
every absolute target. -/

def viewerCodec : UrlCodec where
  parse? origin path := if origin = "" then none else some (origin, path)
  converts _ := true

def viewerItem (media : List Media) : MetaData where
  ratingKey := some "1"
  type := "movie"
  media := media

def viewerServices (media : List Media) : PlaybackServices where
  codec := viewerCodec
  currentIdentity := noIdentity
  getItemByKey _ key :=
    if key = "/library/metadata/1" then
      .ok { metadata := [viewerItem media] }
    else
      .error "upstream item request returned 404 Not Found"

def viewerUri (queries : List (String × String)) : Uri where
  origin := "http://replex"
  path := "/video/:/transcode/universal/decision"
  queries := ⟨("path", "/library/metadata/1") :: queries⟩

def viewerClient (policy : ResolutionPolicy) : PlexClient where
  host := viewerRequest.upstreamHost
  context := viewerRequest.plex
  securityContext := some
    { identity := { id := 42, uuid := "shared-jodie", username := "jodie" }
      tokenScope := viewerRequest.tokenScope
      policy
      identitySource := .sharedServer }

theorem playbackPolicy_viewer (media : List Media)
    (policy : ResolutionPolicy) :
    PlaybackPolicy (viewerServices media) viewerConfig viewerRuntime
      (viewerDepot policy) (viewerClient policy) policy where
  enabled := rfl
  built := ⟨viewerRequest, rfl, rfl⟩
  account := rfl

theorem loadedItem_viewer {media : List Media} {policy : ResolutionPolicy}
    (limited : policy.limit ≠ .unlimited) (nonempty : media ≠ [])
    (queries : List (String × String)) :
    LoadedItem (viewerServices media) (viewerClient policy) policy
      (viewerUri queries) (viewerItem media) where
  limited := limited
  loaded := ⟨"/library/metadata/1", _, rfl, rfl, rfl⟩
  nonempty := nonempty

def uhdVersion : Media where
  id := 1
  videoResolution := some "4k"
  width := some 3840
  height := some 2160

def fullHdVersion : Media where
  id := 2
  videoResolution := some "1080"
  width := some 1920
  height := some 1080

def hdVersion : Media where
  id := 3
  videoResolution := some "720"
  width := some 1280
  height := some 720

end Replex
