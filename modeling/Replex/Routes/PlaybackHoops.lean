import Replex.PlaybackSelection
import Replex.Routes.PlaybackVersions
import Replex.Routes.PlaybackBitrate

namespace Replex

open Data PlaybackSelection

/-! The optional hoops behind the policy hoop, in the order in which the
decision route installs them. -/

/-- What the optional hoops use besides the policy hoop's services: the two
ways they ask Plex for its decision, and two readings of a text by the
standard library. -/
structure HoopServices extends PlaybackServices where
  proxyRequest : PlexClient → Uri → Except String MediaContainer
  /-- A status, and the body when it is a container. -/
  proxyForTransform : Uri → StatusCode × Option MediaContainer
  lowercase : String → String
  truncatedF32 : String → Option Int

def HoopOutcome.andThen (next : Uri → HoopOutcome) : HoopOutcome → HoopOutcome
  | forward uri => next uri
  | stop status => stop status

def HoopOutcome.andThenIf (installed : Bool) (next : Uri → HoopOutcome)
    (outcome : HoopOutcome) : HoopOutcome :=
  if installed then outcome.andThen next else outcome

def requestedBitrate (queries : Queries) : Option Int64 :=
  ((queries.get? "videoBitrate").or (queries.get? "maxVideoBitrate")).bind
    DecimalText.int64?

/-- What both selecting hoops set next to the index. -/
def playDirectly (requested queries : Queries) : Queries :=
  let queries :=
    if (requestedBitrate requested).isNone then queries.set "directPlay" "1"
    else queries
  queries.set "subtitles" "auto"

section

variable (services : HoopServices) (config : Config) (depot : Depot)

/-- An error that a hoop returns ends the request. -/
def withHoopClient (serve : PlexClient → HoopOutcome) : HoopOutcome :=
  match depot.requestContext with
  | none => .stop 500
  | some request =>
      match plexClientFromDepot config request.plex depot with
      | .error _ => .stop 500
      | .ok client => serve client

/-! Automatic selection. -/

def autoSelectedQueries (index : Nat) (queries : Queries) : Queries :=
  playDirectly queries (queries.set "mediaIndex" (toString index))

def autoSelectFor (client : PlexClient) (screen : Int64 × Int64) (uri : Uri) :
    Uri :=
  match uri.queries.get? "path" with
  | none => replaceQuery services.codec uri.queries uri
  | some path =>
      match services.getItemByKey client path with
      | .error _ => uri
      | .ok container =>
          match container.metadata.head? with
          | none => uri
          | some item =>
              if item.media.length ≤ 1 then
                uri
              else
                match bestFitIndex item.media screen with
                | none => replaceQuery services.codec uri.queries uri
                | some index =>
                    replaceQuery services.codec
                      (autoSelectedQueries index uri.queries) uri

/-- Errors leave the request as it is. -/
def autoSelectVersion (uri : Uri) : Uri :=
  if depot.skipOptionalTransforms then
    uri
  else
    match depot.requestContext with
    | none => uri
    | some request =>
        match plexClientFromDepot config request.plex depot with
        | .error _ => uri
        | .ok client =>
            if (uri.queries.get? "mediaIndex").any fun index => index ≠ "-1"
            then
              uri
            else
              match screenOf request.plex with
              | none => uri
              | some screen => autoSelectFor services client screen uri

/-! Maximum quality. -/

def profileExtra : String := "X-Plex-Client-Profile-Extra"

def filteredExtra (extra : String) : String :=
  "+".intercalate ((Text.split '+' extra).filter fun part =>
    !Text.contains part "add-limitation" &&
      !Text.contains (services.lowercase part) "name=video.bitrate")

def wholeBufferSize (raw : String) : String :=
  match services.truncatedF32 raw with
  | some parsed => toString parsed
  | none => raw

def maximumQualityQueries (queries : Queries) : Queries :=
  let queries :=
    ((((((queries.remove "maxVideoBitrate").remove "videoBitrate").set
      "autoAdjustQuality" "0").set "directStream" "1").set
      "directPlay" "1").set "videoQuality" "100")
  let queries := match queries.get? "mediaBufferSize" with
    | some raw => queries.set "mediaBufferSize" (wholeBufferSize services raw)
    | none => queries
  match queries.get? profileExtra with
  | some extra => queries.set profileExtra (filteredExtra services extra)
  | none => queries

def directPlayQueries (resolutions : List String) (media : Media)
    (queries : Queries) : Queries :=
  let listed := media.videoResolution.any fun resolution =>
    resolutions.any fun forced =>
      services.lowercase resolution == services.lowercase forced
  if listed then
    (queries.set "directPlay" "1").remove "videoResolution"
  else
    queries

def forceMaximumQuality (uri : Uri) : HoopOutcome :=
  if depot.skipOptionalTransforms then
    .forward uri
  else
    withHoopClient config depot fun client =>
      if (uri.queries.get? "maxVideoBitrate").isNone &&
          (uri.queries.get? "videoBitrate").isNone then
        .forward uri
      else
        let queries := maximumQualityQueries services uri.queries
        match config.forceDirectPlayFor, queries.get? "path" with
        | some resolutions, some path =>
            match services.getItemByKey client path with
            | .error _ => .forward uri
            | .ok container =>
                let mediaIndex := (requestedIndex uri.queries).getD 0
                match container.metadata.head?.bind (·.media[mediaIndex]?) with
                | none => .forward uri
                | some media =>
                    .forward (replaceQuery services.codec
                      (directPlayQueries services resolutions media queries)
                      uri)
        | _, _ => .forward (replaceQuery services.codec queries uri)

/-! The fallback from a version that Plex would transcode. -/

structure FallbackSearch where
  media : List Media
  mediaIndex : Nat
  fallbackFor : String

inductive FallbackStage where
  | leave
  | fail
  | search (search : FallbackSearch)

def isTranscoding (decision : MediaContainer) : Bool :=
  decision.size ≠ some 0 && decisionIsTranscoding decision

def fallbackStage (client : PlexClient) (uri : Uri) : FallbackStage :=
  match requestedMediaIndex (uri.queries.get? "mediaIndex"),
      config.videoTranscodeFallbackFor.bind List.head?,
      uri.queries.get? "path" with
  | some mediaIndex, some configured, some path =>
      match services.getItemByKey client path with
      | .error _ => .leave
      | .ok container =>
          match container.metadata.head? with
          | none => .leave
          | some item =>
              let fallbackFor := services.lowercase configured
              let marked := item.media[mediaIndex]?.any fun selected =>
                selected.videoResolution.any fun resolution =>
                  Text.eqIgnoreAsciiCase resolution fallbackFor
              if !marked || decide (item.media.length ≤ 1) then
                .leave
              else
                match services.proxyRequest client uri with
                | .error _ => .fail
                | .ok decision =>
                    if isTranscoding decision then
                      .search { media := item.media, mediaIndex, fallbackFor }
                    else
                      .leave
  | _, _, _ => .leave

/-- The account's policy, when its identity was resolved up front. -/
def fallbackPolicy : Option ResolutionPolicy :=
  match depot.securityState with
  | some (.resolved security) => some security.policy
  | _ => none

def failsClosed : Bool :=
  match depot.securityState with
  | some (.unavailable failClosed _) => failClosed
  | _ => false

def fallbackCandidates (search : FallbackSearch) : List Nat :=
  if config.resolutionPolicyEnabled && failsClosed depot then
    []
  else
    fallbackIndexes search.media search.mediaIndex search.fallbackFor
      (fallbackPolicy depot)

def fallbackQueries (index : Nat) (queries : Queries) : Queries :=
  playDirectly queries
    ((queries.set "mediaIndex" (toString index)).set "directStream" "1")

def videoTranscodeFallback (uri : Uri) : HoopOutcome :=
  if depot.skipOptionalTransforms then
    .forward uri
  else
    withHoopClient config depot fun client =>
      match fallbackStage services config client uri with
      | .leave => .forward uri
      | .fail => .stop 500
      | .search search =>
          match (fallbackCandidates config depot search).head? with
          | none => .forward (replaceQuery services.codec uri.queries uri)
          | some index =>
              .forward (replaceQuery services.codec
                (fallbackQueries index uri.queries) uri)

/-! The fallback from direct play. -/

def directStreamInstead (uri : Uri) : Uri :=
  addQueryParamSalvo services.codec "directStream" "1"
    (addQueryParamSalvo services.codec "directPlay" "0" uri)

def directStreamFallback (uri : Uri) : HoopOutcome :=
  if depot.skipOptionalTransforms then
    .forward uri
  else
    withHoopClient config depot fun _ =>
      if (uri.queries.get? "directPlay").getD "1" ≠ "1" then
        .forward uri
      else
        match services.proxyForTransform uri with
        | (200, some container) =>
            if container.generalDecisionCode = some 2000 then
              .forward (directStreamInstead services uri)
            else
              .forward uri
        | (400, _) => .forward (directStreamInstead services uri)
        | _ => .stop 500

/-! The hoops the configuration installs on the decision route. -/

def decisionHoops (uri : Uri) : HoopOutcome :=
  ((((HoopOutcome.forward uri).andThenIf config.autoSelectVersion fun uri =>
      .forward (autoSelectVersion services config depot uri)).andThenIf
    (config.forceMaximumQuality || config.disableTranscode)
      (forceMaximumQuality services config depot)).andThenIf
    config.videoTranscodeFallbackFor.isSome
      (videoTranscodeFallback services config depot)).andThen
    (directStreamFallback services config depot)

end

/-! What a hoop hands on. -/

def HoopOutcome.Satisfies (property : Uri → Prop) : HoopOutcome → Prop
  | forward uri => property uri
  | stop _ => True

theorem HoopOutcome.Satisfies.andThen {property result : Uri → Prop}
    {outcome : HoopOutcome} {next : Uri → HoopOutcome}
    (satisfied : outcome.Satisfies property)
    (step : ∀ uri, property uri → (next uri).Satisfies result) :
    (outcome.andThen next).Satisfies result := by
  cases outcome with
  | forward uri => exact step uri satisfied
  | stop status => trivial

theorem HoopOutcome.Satisfies.andThenIf {property : Uri → Prop}
    {outcome : HoopOutcome} {next : Uri → HoopOutcome}
    (satisfied : outcome.Satisfies property) (installed : Bool)
    (step : ∀ uri, property uri → (next uri).Satisfies property) :
    (outcome.andThenIf installed next).Satisfies property := by
  unfold HoopOutcome.andThenIf
  split
  · exact satisfied.andThen step
  · exact satisfied

/-- Exactly one index, and it names a permitted version of the item that the
first path leads to. -/
structure NamesPermitted (media : List Media) (policy : ResolutionPolicy)
    (path : String) (queries : Queries) : Prop where
  asked : queries.get? "path" = some path
  named : ∃ value, queries.getAll "mediaIndex" = [value] ∧
    denotesPermitted media policy value = true

section

variable {media : List Media} {policy : ResolutionPolicy} {path : String}
  {queries : Queries}

theorem NamesPermitted.congr {other : Queries}
    (names : NamesPermitted media policy path queries)
    (samePath : other.get? "path" = queries.get? "path")
    (sameIndex : other.getAll "mediaIndex" = queries.getAll "mediaIndex") :
    NamesPermitted media policy path other where
  asked := samePath.trans names.asked
  named := sameIndex ▸ names.named

theorem NamesPermitted.set
    (names : NamesPermitted media policy path queries) (key value : String)
    (notPath : key ≠ "path" := by decide)
    (notIndex : key ≠ "mediaIndex" := by decide) :
    NamesPermitted media policy path (queries.set key value) := by
  apply names.congr
  · exact MultiMap.get?_congr (MultiMap.getAll_set_of_ne queries notPath value)
  · exact MultiMap.getAll_set_of_ne queries notIndex value

theorem NamesPermitted.remove
    (names : NamesPermitted media policy path queries) (key : String)
    (notPath : key ≠ "path" := by decide)
    (notIndex : key ≠ "mediaIndex" := by decide) :
    NamesPermitted media policy path (queries.remove key) := by
  apply names.congr
  · exact MultiMap.get?_congr (MultiMap.getAll_remove_of_ne queries notPath)
  · exact MultiMap.getAll_remove_of_ne queries notIndex

theorem NamesPermitted.setIndex {index : Nat}
    (names : NamesPermitted media policy path queries)
    (bounded : media.length < 2 ^ 64)
    (permitted : media[index]?.any (mediaAllowed · policy) = true) :
    NamesPermitted media policy path
      (queries.set "mediaIndex" (toString index)) where
  asked := by
    have untouched := MultiMap.getAll_set_of_ne queries
      (show "mediaIndex" ≠ "path" by decide) (toString index)
    exact (MultiMap.get?_congr untouched).trans names.asked
  named := by
    refine ⟨toString index, MultiMap.getAll_set_self .., ?_⟩
    have inRange : index < media.length := by
      by_contra outside
      rw [List.getElem?_eq_none (Nat.le_of_not_lt outside)] at permitted
      cases permitted
    rw [denotesPermitted_toString bounded inRange policy, permitted]

theorem NamesPermitted.playDirectly
    (names : NamesPermitted media policy path queries)
    (requested : Queries) :
    NamesPermitted media policy path (playDirectly requested queries) := by
  unfold Replex.playDirectly
  dsimp only
  split
  · exact (names.set "directPlay" "1").set "subtitles" "auto"
  · exact names.set "subtitles" "auto"

/-- A rewrite leaves the first values of its query, or the request as it
was. -/
theorem NamesPermitted.replaceQuery {uri : Uri} {query : Queries}
    (names : NamesPermitted media policy path uri.queries)
    (prepared : NamesPermitted media policy path query) (codec : UrlCodec) :
    NamesPermitted media policy path
      (replaceQuery codec query uri).queries := by
  by_cases rewrites : codec.Rewrites query uri
  · have firsts := replaceQuery_of_rewrites rewrites
    obtain ⟨value, values, permitted⟩ := prepared.named
    refine ⟨?_, value, ?_, permitted⟩
    · rw [firsts]
      exact (MultiMap.get?_of_getAll_eq_toList
        (MultiMap.getAll_iter query "path")).trans prepared.asked
    · rw [firsts, MultiMap.getAll_iter, MultiMap.get?, values]
      rfl
  · rw [replaceQuery_of_not_rewrites rewrites]
    exact names

theorem NamesPermitted.addQueryParamSalvo {uri : Uri} {param : String}
    (names : NamesPermitted media policy path uri.queries)
    (codec : UrlCodec) (value : String)
    (notPath : param ≠ "path" := by decide)
    (notIndex : param ≠ "mediaIndex" := by decide) :
    NamesPermitted media policy path
      (addQueryParamSalvo codec param value uri).queries := by
  apply names.congr
  · exact MultiMap.get?_congr
      (getAll_addQueryParamSalvo_of_ne codec notPath value uri)
  · exact getAll_addQueryParamSalvo_of_ne codec notIndex value uri

end

/-! Each hoop keeps a permitted index. -/

section

variable {services : HoopServices} {config : Config} {depot : Depot}
  {media : List Media} {policy : ResolutionPolicy} {path : String} {uri : Uri}

/-- Stops are of no concern: they end the request. -/
def KeepsPermitted (media : List Media) (policy : ResolutionPolicy)
    (path : String) (outcome : HoopOutcome) : Prop :=
  outcome.Satisfies fun uri => NamesPermitted media policy path uri.queries

theorem keepsPermitted_withHoopClient {client : PlexClient}
    {serve : PlexClient → HoopOutcome}
    (built : ∃ request, depot.requestContext = some request ∧
      plexClientFromDepot config request.plex depot = .ok client)
    (served : KeepsPermitted media policy path (serve client)) :
    KeepsPermitted media policy path (withHoopClient config depot serve) := by
  obtain ⟨request, present, client⟩ := built
  simpa only [withHoopClient, present, client] using served

/-- An index that names a version is no `-1`, so nothing is selected. -/
theorem autoSelectVersion_of_namesPermitted
    (names : NamesPermitted media policy path uri.queries) :
    autoSelectVersion services config depot uri = uri := by
  obtain ⟨value, values, permitted⟩ := names.named
  obtain ⟨index, read, -⟩ := (Option.any_eq_true _ _).mp permitted
  have chosen : value ≠ "-1" := ne_unset_of_usize? read
  have explicit : ((uri.queries.get? "mediaIndex").any fun index =>
      index ≠ "-1") = true := by
    simp [MultiMap.get?, values, chosen]
  unfold autoSelectVersion
  simp only [explicit, if_true]
  split
  · rfl
  · split
    · rfl
    · split <;> rfl

theorem NamesPermitted.maximumQualityQueries {queries : Queries}
    (names : NamesPermitted media policy path queries)
    (services : HoopServices) :
    NamesPermitted media policy path
      (maximumQualityQueries services queries) := by
  have lifted := ((((((names.remove "maxVideoBitrate").remove
    "videoBitrate").set "autoAdjustQuality" "0").set "directStream" "1").set
    "directPlay" "1").set "videoQuality" "100")
  unfold Replex.maximumQualityQueries
  dsimp only
  split
  · split
    · exact (lifted.set "mediaBufferSize" _).set profileExtra _
    · exact lifted.set profileExtra _
  · split
    · exact lifted.set "mediaBufferSize" _
    · exact lifted

theorem NamesPermitted.directPlayQueries {queries : Queries}
    (names : NamesPermitted media policy path queries)
    (services : HoopServices) (resolutions : List String) (forced : Media) :
    NamesPermitted media policy path
      (directPlayQueries services resolutions forced queries) := by
  unfold Replex.directPlayQueries
  dsimp only
  split
  · exact (names.set "directPlay" "1").remove "videoResolution"
  · exact names

theorem forceMaximumQuality_keeps {client : PlexClient}
    (built : ∃ request, depot.requestContext = some request ∧
      plexClientFromDepot config request.plex depot = .ok client)
    (names : NamesPermitted media policy path uri.queries) :
    KeepsPermitted media policy path
      (forceMaximumQuality services config depot uri) := by
  have quality := names.maximumQualityQueries services
  unfold forceMaximumQuality
  split
  · exact names
  · refine keepsPermitted_withHoopClient built ?_
    split
    · exact names
    · dsimp only
      split
      · split
        · exact names
        · split
          · exact names
          · exact names.replaceQuery
              (quality.directPlayQueries services _ _) _
      · exact names.replaceQuery quality _

theorem fallbackStage_eq_search {client : PlexClient}
    {search : FallbackSearch}
    (searches : fallbackStage services config client uri = .search search) :
    ∃ path container item, uri.queries.get? "path" = some path ∧
      services.getItemByKey client path = .ok container ∧
      container.metadata.head? = some item ∧ search.media = item.media := by
  unfold fallbackStage at searches
  split at searches
  next mediaIndex configured path _ _ asked =>
      cases loaded : services.getItemByKey client path with
      | error reason => simp [loaded] at searches
      | ok container =>
          cases first : container.metadata.head? with
          | none => simp [loaded, first] at searches
          | some item =>
              refine ⟨path, container, item, asked, loaded, first, ?_⟩
              simp only [loaded, first] at searches
              split at searches
              · cases searches
              · split at searches
                · cases searches
                · split at searches
                  · cases searches
                    rfl
                  · cases searches
  · cases searches

theorem mem_fallbackCandidates {search : FallbackSearch} {index : Nat}
    (candidate : index ∈ fallbackCandidates config depot search) :
    fallbackEligible search.media search.mediaIndex search.fallbackFor
      (fallbackPolicy depot) index = true := by
  unfold fallbackCandidates at candidate
  split at candidate
  · cases candidate
  · exact mem_fallbackIndexes.mp candidate

/-- Candidates are judged by the policy that the request was resolved to. -/
theorem videoTranscodeFallback_keeps {client : PlexClient}
    {security : RequestSecurityContext} {container : MediaContainer}
    {item : MetaData}
    (built : ∃ request, depot.requestContext = some request ∧
      plexClientFromDepot config request.plex depot = .ok client)
    (resolved : depot.securityState = some (.resolved security))
    (loaded : services.getItemByKey client path = .ok container)
    (first : container.metadata.head? = some item)
    (bounded : item.media.length < 2 ^ 64)
    (names : NamesPermitted item.media security.policy path uri.queries) :
    KeepsPermitted item.media security.policy path
      (videoTranscodeFallback services config depot uri) := by
  unfold videoTranscodeFallback
  split
  · exact names
  · refine keepsPermitted_withHoopClient built ?_
    cases stage : fallbackStage services config client uri with
    | leave => exact names
    | fail => trivial
    | search search =>
        dsimp only
        split
        · exact names.replaceQuery names _
        next index foremost =>
            have eligible :=
              mem_fallbackCandidates (List.mem_of_head? foremost)
            have judged : fallbackPolicy depot = some security.policy := by
              simp [fallbackPolicy, resolved]
            rw [judged] at eligible
            obtain ⟨other, reply, same, asked, answered, head, media⟩ :=
              fallbackStage_eq_search stage
            rw [names.asked] at asked
            cases asked
            rw [loaded] at answered
            cases answered
            rw [first] at head
            cases head
            have permitted := allowed_of_fallbackEligible eligible
            rw [media] at permitted
            exact names.replaceQuery
              (((names.setIndex bounded permitted).set "directStream"
                "1").playDirectly _) _

theorem directStreamFallback_keeps {client : PlexClient}
    (built : ∃ request, depot.requestContext = some request ∧
      plexClientFromDepot config request.plex depot = .ok client)
    (names : NamesPermitted media policy path uri.queries) :
    KeepsPermitted media policy path
      (directStreamFallback services config depot uri) := by
  have instead : NamesPermitted media policy path
      (directStreamInstead services uri).queries :=
    (names.addQueryParamSalvo _ _).addQueryParamSalvo _ _
  unfold directStreamFallback
  split
  · exact names
  · refine keepsPermitted_withHoopClient built ?_
    split
    · exact names
    · split
      · split
        · exact instead
        · exact names
      · exact instead
      · trivial

theorem decisionHoops_keeps {client : PlexClient}
    {security : RequestSecurityContext} {container : MediaContainer}
    {item : MetaData}
    (built : ∃ request, depot.requestContext = some request ∧
      plexClientFromDepot config request.plex depot = .ok client)
    (resolved : depot.securityState = some (.resolved security))
    (loaded : services.getItemByKey client path = .ok container)
    (first : container.metadata.head? = some item)
    (bounded : item.media.length < 2 ^ 64)
    (names : NamesPermitted item.media security.policy path uri.queries) :
    KeepsPermitted item.media security.policy path
      (decisionHoops services config depot uri) := by
  have start : KeepsPermitted item.media security.policy path
      (.forward uri) :=
    names
  unfold decisionHoops
  refine HoopOutcome.Satisfies.andThen
    (?_ : KeepsPermitted item.media security.policy path _) ?_
  · apply HoopOutcome.Satisfies.andThenIf
    · apply HoopOutcome.Satisfies.andThenIf
      · apply HoopOutcome.Satisfies.andThenIf
        · exact start
        · intro uri names
          rw [autoSelectVersion_of_namesPermitted names]
          exact names
      · intro uri names
        exact forceMaximumQuality_keeps built names
    · intro uri names
      exact videoTranscodeFallback_keeps built resolved loaded first bounded
        names
  · intro uri names
    exact directStreamFallback_keeps built names

end

/-! The decision route as a whole. -/

section

variable {services : HoopServices} {config : Config} {runtime : PolicySnapshot}
  {depot : Depot} {client : PlexClient} {policy : ResolutionPolicy}
  {incoming : Uri}

theorem enforceResolutionPolicy_keeps_path
    (settled : PlaybackPolicy services.toPlaybackServices config runtime depot
      client policy) (parts : PartMediaCache) :
    (enforceResolutionPolicy services.toPlaybackServices config runtime depot
      parts incoming).outcome.Satisfies fun uri =>
        uri.queries.get? "path" = incoming.queries.get? "path" := by
  have capped : (capBitrate services.codec policy incoming).queries.get?
      "path" = incoming.queries.get? "path" :=
    get?_capBitrate_of_ne services.codec policy incoming (by decide)
      (by decide)
  have stage : VersionStage services.toPlaybackServices runtime client policy
      (capBitrate services.codec policy incoming) _ :=
    enforceVersions_stage parts (capBitrate services.codec policy incoming)
  rw [enforceResolutionPolicy_eq settled]
  generalize (enforceVersions services.toPlaybackServices runtime client policy
    parts (capBitrate services.codec policy incoming)).outcome = outcome
    at stage
  cases stage with
  | stopped stops => trivial
  | pinned goesOn pins rewrites =>
      exact (get?_pinned_of_ne rewrites (by decide)).trans capped
  | untouched goesOn leaves => exact capped

def NamesOnePermitted (media : List Media) (policy : ResolutionPolicy)
    (uri : Uri) : Prop :=
  ∃ value, uri.queries.getAll "mediaIndex" = [value] ∧
    denotesPermitted media policy value = true

/-- The hoops behind enforcement, whichever are installed, never restore a
prohibited version. -/
theorem decision_route_keeps_permitted_version
    {security : RequestSecurityContext} {path : String}
    {container : MediaContainer} {item : MetaData}
    (settled : PlaybackPolicy services.toPlaybackServices config runtime depot
      client policy)
    (resolved : depot.securityState = some (.resolved security))
    (asked : incoming.queries.get? "path" = some path)
    (loaded : services.getItemByKey client path = .ok container)
    (first : container.metadata.head? = some item)
    (bounded : item.media.length < 2 ^ 64) (parts : PartMediaCache)
    (enforced : (enforceResolutionPolicy services.toPlaybackServices config
      runtime depot parts incoming).outcome.Satisfies
        (NamesOnePermitted item.media policy)) :
    ((enforceResolutionPolicy services.toPlaybackServices config runtime depot
      parts incoming).outcome.andThen
        (decisionHoops services config depot)).Satisfies
      (NamesOnePermitted item.media policy) := by
  have same : security.policy = policy := by
    have account := settled.account
    simp only [playbackAccount, resolved, Except.ok.injEq, Option.some.injEq]
      at account
    exact account
  subst same
  have kept : (enforceResolutionPolicy services.toPlaybackServices config
      runtime depot parts incoming).outcome.Satisfies fun uri =>
        uri.queries.get? "path" = incoming.queries.get? "path" :=
    enforceResolutionPolicy_keeps_path settled parts
  cases outcome : (enforceResolutionPolicy services.toPlaybackServices config
      runtime depot parts incoming).outcome with
  | stop status => trivial
  | forward uri =>
      rw [outcome] at enforced kept
      have hoops := decisionHoops_keeps settled.built resolved loaded first
        bounded ⟨kept.trans asked, enforced⟩
      change (decisionHoops services config depot uri).Satisfies _
      cases result : decisionHoops services config depot uri with
      | stop status => trivial
      | forward outgoing =>
          rw [result] at hoops
          exact hoops.named

end

/-! The viewer's decision route with every hoop installed, and a server that
would transcode. -/

def hoopsConfig : Config :=
  { viewerConfig with
    autoSelectVersion := true
    forceMaximumQuality := true
    forceDirectPlayFor := some ["4k"]
    videoTranscodeFallbackFor := some ["1080"] }

def transcodeReply : MediaContainer where
  metadata := [
    { media := [
        { id := 2
          parts := [
            { id := 20
              streams := [
                { id := 200
                  streamType := some 1
                  decision := some "transcode" }] }] }] }]

def hoopServices (media : List Media) : HoopServices where
  toPlaybackServices := viewerServices media
  proxyRequest _ _ := .ok transcodeReply
  proxyForTransform _ := (200, some { generalDecisionCode := some 2000 })
  lowercase := Text.toLowercase
  truncatedF32 _ := none

theorem decision_route_keeps_permitted_version_viewer :
    ((enforceResolutionPolicy
      (viewerServices [uhdVersion, fullHdVersion, hdVersion]) hoopsConfig
      viewerRuntime (viewerDepot ⟨.p1080, none, []⟩) Store.empty
      (viewerUri [("mediaIndex", "1")])).outcome.andThen
        (decisionHoops (hoopServices [uhdVersion, fullHdVersion, hdVersion])
          hoopsConfig (viewerDepot ⟨.p1080, none, []⟩))).Satisfies
      (NamesOnePermitted [uhdVersion, fullHdVersion, hdVersion]
        ⟨.p1080, none, []⟩) := by
  have settled : PlaybackPolicy
      (viewerServices [uhdVersion, fullHdVersion, hdVersion]) hoopsConfig
      viewerRuntime (viewerDepot ⟨.p1080, none, []⟩)
      (viewerClient ⟨.p1080, none, []⟩) ⟨.p1080, none, []⟩ :=
    { enabled := rfl
      built := ⟨viewerRequest, rfl, rfl⟩
      account := rfl }
  have loaded : (hoopServices
      [uhdVersion, fullHdVersion, hdVersion]).getItemByKey
        (viewerClient ⟨.p1080, none, []⟩) "/library/metadata/1" =
      .ok { metadata := [viewerItem [uhdVersion, fullHdVersion, hdVersion]] } :=
    rfl
  have outcome : (enforceResolutionPolicy
      (viewerServices [uhdVersion, fullHdVersion, hdVersion]) hoopsConfig
      viewerRuntime (viewerDepot ⟨.p1080, none, []⟩) Store.empty
      (viewerUri [("mediaIndex", "1")])).outcome =
      .forward (viewerUri [("mediaIndex", "1")]) := by
    decide
  refine decision_route_keeps_permitted_version settled rfl rfl loaded rfl
    (by decide) Store.empty ?_
  change (enforceResolutionPolicy
      (viewerServices [uhdVersion, fullHdVersion, hdVersion]) hoopsConfig
      viewerRuntime (viewerDepot ⟨.p1080, none, []⟩) Store.empty
      (viewerUri [("mediaIndex", "1")])).outcome.Satisfies _
  rw [outcome]
  exact ⟨"1", by decide, by decide⟩

end Replex
