import Replex.Routes.Admin

namespace Replex

open Data

/-! What an explanation of a playback decision foretells of its enforcement. -/

def Depot.policy (depot : Depot) : Option ResolutionPolicy :=
  depot.securityState.bind fun
    | .resolved security => some security.policy
    | .unavailable _ _ => none

/-- The request asks for a version that the explanation allows. -/
def Explanation.permits (explanation : Explanation) (queries : Queries) :
    Bool :=
  (requestedIndex queries).any fun index =>
    explanation.versions.any fun told =>
      told.index == index && told.allowed == some true

/-- What the explanation lets one expect for a request whose bitrate has been
capped. -/
def Explanation.foretold (explanation : Explanation) (codec : UrlCodec)
    (capped : Uri) : HoopOutcome :=
  if explanation.permits capped.queries then .forward capped
  else
    match explanation.selectedMediaIndex with
    | some index =>
        .forward
          (replaceQuery codec (pinnedQueries index capped.queries) capped)
    | none => .stop 403

section

variable {getItemByKey : PlexClient → String → Except String MediaContainer}
  {config : Config} {runtime : PolicySnapshot}

theorem explained_of_explainPlayback {depot : Depot} {path : Option String}
    {explanation : Explanation}
    (answered : (explainPlayback getItemByKey config runtime depot path).body =
      .explained explanation) :
    ∃ request client item, depot.requestContext = some request ∧
      plexClientFromDepot config request.plex depot = .ok client ∧
      getItemByKey client explanation.path = .ok item ∧
      explanation.policySource =
        (if depot.securityState.isSome then "request_identity"
          else "unavailable") ∧
      let media := (item.metadata.head?.map MetaData.media).getD []
      explanation.versions = explainVersions depot.policy media ∧
      explanation.selectedMediaIndex = depot.policy.bind fun policy =>
        pinnedIndex media policy (screenOf request.plex) := by
  unfold explainPlayback at answered
  split at answered
  · cases answered
  · cases answered
  · rename_i path request present
    split at answered
    · cases answered
    · rename_i client built
      split at answered
      · cases answered
      · rename_i item loaded
        cases answered
        exact ⟨request, client, item, present, built, loaded, rfl, rfl, rfl⟩

/-- The decision and the reason of a version go together. -/
theorem reason_of_mem_explainVersions {policy : Option ResolutionPolicy}
    {media : List Media} {told : ExplainedVersion}
    (listed : told ∈ explainVersions policy media) :
    told.rejectionReason.isSome = true ↔ told.allowed = some false := by
  obtain ⟨⟨version, index⟩, member, rfl⟩ := List.mem_map.mp listed
  cases policy with
  | none => simp
  | some account =>
      cases allowed : mediaAllowed version account <;> simp [allowed]

theorem any_explainVersions (policy : ResolutionPolicy) (media : List Media)
    (index : Nat) :
    (explainVersions (some policy) media).any (fun told =>
        told.index == index && told.allowed == some true) =
      media[index]?.any (mediaAllowed · policy) := by
  rw [Bool.eq_iff_iff, List.any_eq_true, Option.any_eq_true]
  constructor
  · rintro ⟨told, listed, named⟩
    obtain ⟨⟨version, position⟩, member, rfl⟩ := List.mem_map.mp listed
    simp only [Option.map_some, Bool.and_eq_true, beq_iff_eq,
      Option.some.injEq] at named
    obtain ⟨rfl, allowed⟩ := named
    exact ⟨version, List.mem_zipIdx_iff_getElem?.mp member, allowed⟩
  · rintro ⟨version, found, allowed⟩
    have member : (version, index) ∈ media.zipIdx :=
      List.mem_zipIdx_iff_getElem?.mpr found
    exact ⟨_, List.mem_map_of_mem member, by simp [allowed]⟩

theorem Explanation.permits_eq {explanation : Explanation}
    {policy : ResolutionPolicy} {media : List Media}
    (versions : explanation.versions = explainVersions (some policy) media)
    (queries : Queries) :
    explanation.permits queries = requestPermitted media policy queries := by
  rw [permits, requestPermitted, versions]
  simp only [any_explainVersions]

/-- The selection of a version does what its explanation foretells. -/
theorem selectVersion_eq_foretold {explanation : Explanation}
    {policy : ResolutionPolicy} {media : List Media}
    {screen : Option (Int64 × Int64)}
    (versions : explanation.versions = explainVersions (some policy) media)
    (selected :
      explanation.selectedMediaIndex = pinnedIndex media policy screen)
    (codec : UrlCodec) (capped : Uri) :
    selectVersion codec policy screen media capped =
      explanation.foretold codec capped := by
  rw [Explanation.foretold, Explanation.permits_eq versions, selected]
  cases permitted : requestPermitted media policy capped.queries with
  | true =>
      rw [selectVersion_of_permitted permitted, if_pos rfl]
  | false =>
      rw [if_neg Bool.false_ne_true]
      cases pinned : pinnedIndex media policy screen with
      | some index =>
          exact selectVersion_of_pinnedIndex permitted pinned codec
      | none =>
          apply selectVersion_of_none_allowed permitted
          intro version listed
          by_contra allowed
          obtain ⟨index, some⟩ := pinnedIndex_isSome screen
            ⟨version, listed, Bool.not_eq_false _ ▸ allowed⟩
          rw [pinned] at some
          cases some

/-- The enforcement loads the explained item and selects as foretold. -/
theorem enforceVersions_eq_foretold {services : PlaybackServices}
    {depot : Depot} {request : RequestContext} {client : PlexClient}
    {item : MediaContainer} {policy : ResolutionPolicy} {parts : PartMediaCache}
    {uri : Uri} {explanation : Explanation}
    (present : depot.requestContext = some request)
    (built : plexClientFromDepot config request.plex depot = .ok client)
    (asked : uri.queries.get? "path" = some explanation.path)
    (loaded : services.getItemByKey client explanation.path = .ok item)
    (versions : explanation.versions = explainVersions (some policy)
      ((item.metadata.head?.map MetaData.media).getD []))
    (selected : explanation.selectedMediaIndex = pinnedIndex
      ((item.metadata.head?.map MetaData.media).getD []) policy
      (screenOf request.plex))
    (limited : policy.limit ≠ .unlimited) (some : explanation.versions ≠ []) :
    (enforceVersions services runtime client policy parts
        (capBitrate services.codec policy uri)).outcome =
      explanation.foretold services.codec
        (capBitrate services.codec policy uri) := by
  cases first : item.metadata.head? with
  | none =>
      rw [first] at versions
      exact absurd versions some
  | some shown =>
      rw [first] at versions selected
      have nonempty : shown.media ≠ [] := by
        intro none
        apply some
        rw [versions, Option.map_some, Option.getD_some, none]
        rfl
      have reached : LoadedItem services client policy
          (capBitrate services.codec policy uri) shown :=
        LoadedItem.capBitrate ⟨limited,
          ⟨explanation.path, item, asked, loaded, first⟩, nonempty⟩
      rw [enforceVersions_eq reached,
        context_of_plexClientFromDepot present built]
      exact selectVersion_eq_foretold versions selected _ _

theorem securityState_explainPath
    (identity : PlexClient → Except IdentityError ResolvedIdentity)
    (config : Config) (runtime : PolicySnapshot) (request : RequestContext)
    (skipOptionalTransforms : Bool) :
    (requestDepot identity config runtime request explainPath
      skipOptionalTransforms).securityState = none := by
  have outside : requiresSecurityContext explainPath = false := by
    decide +kernel
  simp [requestDepot, securityContextMiddleware, outside]

/-- Where the account's policy is at hand and limits the resolution, each
playback request for the explained item is decided as the explanation has it:
it may ask for a version that is told to be allowed, and gets the selected one
otherwise, or 403 where none is selected. An account without a limit may ask
for anything, whatever is selected. The path of the endpoint is none that the
policy is resolved for, so there an explanation tells nothing. -/
theorem explanation_matches_enforcement {services : PlaybackServices}
    {depot : Depot} {path : Option String} {explanation : Explanation}
    (answered : (explainPlayback services.getItemByKey config runtime depot
      path).body = .explained explanation) :
    (∀ security, depot.securityState = some (.resolved security) →
      runtime.enabled = true →
      ∀ parts uri, uri.queries.get? "path" = some explanation.path →
        let capped := capBitrate services.codec security.policy uri
        let enforced := (enforceResolutionPolicy services config runtime depot
          parts uri).outcome
        (security.policy.limit = .unlimited → enforced = .forward capped) ∧
          (security.policy.limit ≠ .unlimited → explanation.versions ≠ [] →
            enforced = explanation.foretold services.codec capped)) ∧
      (∀ told ∈ explanation.versions,
        told.rejectionReason.isSome = true ↔ told.allowed = some false) ∧
      ∀ identity request skipOptionalTransforms,
        depot = requestDepot identity config runtime request explainPath
            skipOptionalTransforms →
          explanation.policySource = "unavailable" ∧
            explanation.selectedMediaIndex = none ∧
            ∀ told ∈ explanation.versions, told.allowed = none := by
  obtain ⟨request, client, item, present, built, loaded, source, versions,
    selected⟩ := explained_of_explainPlayback answered
  refine ⟨?_, ?_, ?_⟩
  · intro security resolved enabled parts uri asked capped enforced
    have policy : depot.policy = some security.policy := by
      simp [Depot.policy, resolved]
    rw [policy] at versions selected
    have settled : PlaybackPolicy services config runtime depot client
        security.policy :=
      ⟨enabled, ⟨request, present, built⟩, by simp [playbackAccount, resolved]⟩
    have decided : enforced = (enforceVersions services runtime client
        security.policy parts capped).outcome := by
      rw [← enforceResolutionPolicy_eq settled]
    constructor
    · intro unlimited
      have unrestricted : security.policy.isUnrestricted = true := by
        rw [ResolutionPolicy.isUnrestricted, unlimited]
        rfl
      rw [decided, enforceVersions, if_pos unrestricted]
    · intro limited some
      rw [decided]
      exact enforceVersions_eq_foretold present built asked loaded versions
        selected limited some
  · intro told listed
    rw [versions] at listed
    exact reason_of_mem_explainVersions listed
  · rintro identity received skipOptionalTransforms rfl
    have unresolved := securityState_explainPath identity config runtime received
      skipOptionalTransforms
    have policy : (requestDepot identity config runtime received explainPath
        skipOptionalTransforms).policy = none := by
      rw [Depot.policy, unresolved]
      rfl
    rw [policy] at versions selected
    refine ⟨?_, selected, ?_⟩
    · rw [source, unresolved]
      rfl
    · intro told listed
      rw [versions] at listed
      obtain ⟨⟨version, index⟩, -, rfl⟩ := List.mem_map.mp listed
      rfl

end

def movieExplanation : Explanation where
  path := "/library/metadata/1"
  policyGeneration := 1
  policySource := "request_identity"
  selectedMediaIndex := some 1
  versions :=
    [{ index := 0, id := 1, resolution := some "4k", width := some 3840
       height := some 2160, allowed := some false
       rejectionReason := some "exceeds policy or has unknown resolution" },
      { index := 1, id := 2, resolution := some "1080", width := some 1920
        height := some 1080, allowed := some true, rejectionReason := none }]

theorem full_hd_version_is_pinned :
    (enforceResolutionPolicy (viewerServices [uhdVersion, fullHdVersion])
      viewerConfig viewerRuntime (viewerDepot ⟨.p1080, none, []⟩) .empty
      (viewerUri [("mediaIndex", "0")])).outcome =
        .forward (viewerUri [("mediaIndex", "1")]) := by
  have answered : (explainPlayback
      (viewerServices [uhdVersion, fullHdVersion]).getItemByKey viewerConfig
      viewerRuntime (viewerDepot ⟨.p1080, none, []⟩)
      (some "/library/metadata/1")).body = .explained movieExplanation := by
    rfl
  have foretells := (explanation_matches_enforcement answered).1 _ rfl rfl
    .empty (viewerUri [("mediaIndex", "0")]) rfl
  rw [foretells.2 (by decide) (by decide)]
  decide +kernel

end Replex
