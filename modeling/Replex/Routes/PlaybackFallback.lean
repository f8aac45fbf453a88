import Replex.Routes.PlaybackHoops
import Replex.Routes.Upstream

namespace Replex

open Data PlaybackSelection

/-! Which versions the transcode fallback selects for a request that a policy
was enforced on. -/

section

variable (services : HoopServices) (config : Config) (depot : Depot)
  (client : PlexClient) (uri : Uri)

/-- The fallback sets out to replace the version asked for. -/
def Searches (search : FallbackSearch) : Prop :=
  depot.skipOptionalTransforms = false ∧
    fallbackStage services config client uri = .search search

def FallbackSelects (search : FallbackSearch) (index : Nat) : Prop :=
  Searches services config depot client uri search ∧
    (fallbackCandidates config depot search).head? = some index

/-- Of the versions that differ from the one asked for, in place and in
label, the one with the most pixels and, among those, the first. -/
def Foremost (search : FallbackSearch) (index : Nat) : Prop :=
  fallbackEligible search.media search.mediaIndex search.fallbackFor none
      index = true ∧
    ∀ other, fallbackEligible search.media search.mediaIndex
        search.fallbackFor none other = true →
      other = index ∨
        StableSort.Before (densityAt search.media) index other

variable {services config depot client uri}

theorem videoTranscodeFallback_of_selects {search : FallbackSearch}
    {index : Nat}
    (built : ∃ request, depot.requestContext = some request ∧
      plexClientFromDepot config request.plex depot = .ok client)
    (selects : FallbackSelects services config depot client uri search index) :
    videoTranscodeFallback services config depot uri =
      .forward (replaceQuery services.codec
        (fallbackQueries index uri.queries) uri) := by
  obtain ⟨request, present, client⟩ := built
  obtain ⟨⟨runs, stage⟩, foremost⟩ := selects
  simp [videoTranscodeFallback, runs, withHoopClient, present, client, stage,
    foremost]

theorem fallbackSelects_of_absent_iff {search : FallbackSearch} {index : Nat}
    (absent : depot.securityState = none) :
    FallbackSelects services config depot client uri search index ↔
      Searches services config depot client uri search ∧
        Foremost search index := by
  have lax : failsClosed depot = false := by simp [failsClosed, absent]
  have unlimited : fallbackPolicy depot = none := by
    simp [fallbackPolicy, absent]
  simp only [FallbackSelects, fallbackCandidates, lax, unlimited,
    Bool.and_false, Bool.false_eq_true, if_false,
    head_fallbackIndexes_eq_some_iff, Foremost]

/-- Without a security state the fallback looks at no policy, although
enforcement resolved one. -/
theorem fallback_within_enforced_policy_iff {runtime : PolicySnapshot}
    {policy : ResolutionPolicy}
    (settled : PlaybackPolicy services.toPlaybackServices config runtime depot
      client policy) (uri : Uri) :
    (∀ search index,
        FallbackSelects services config depot client uri search index →
        search.media[index]?.any (mediaAllowed · policy) = true) ↔
      depot.securityState ≠ none ∨
        ∀ search index, Searches services config depot client uri search →
          Foremost search index →
          search.media[index]?.any (mediaAllowed · policy) = true := by
  cases state : depot.securityState with
  | none =>
      simp [fallbackSelects_of_absent_iff state]
  | some present =>
      refine iff_of_true ?_ (.inl (by simp))
      rintro search index ⟨-, foremost⟩
      have eligible := mem_fallbackCandidates (List.mem_of_head? foremost)
      have account := settled.account
      cases present with
      | resolved security =>
          simp only [playbackAccount, state, Except.ok.injEq,
            Option.some.injEq] at account
          have judged : fallbackPolicy depot = some policy := by
            simp [fallbackPolicy, state, account]
          rw [judged] at eligible
          exact allowed_of_fallbackEligible eligible
      | unavailable failClosed reason =>
          cases failClosed <;> simp [playbackAccount, state] at account

theorem fallback_within_enforced_policy_iff_resolved :
    [uhdVersion, fullHdVersion, hdVersion][2]?.any
      (mediaAllowed · ⟨.p1080, none, []⟩) = true := by
  have settled : PlaybackPolicy
      (hoopServices [uhdVersion, fullHdVersion, hdVersion]).toPlaybackServices
      hoopsConfig viewerRuntime (viewerDepot ⟨.p1080, none, []⟩)
      (viewerClient ⟨.p1080, none, []⟩) ⟨.p1080, none, []⟩ :=
    { enabled := rfl
      built := ⟨viewerRequest, rfl, rfl⟩
      account := rfl }
  have selects : FallbackSelects
      (hoopServices [uhdVersion, fullHdVersion, hdVersion]) hoopsConfig
      (viewerDepot ⟨.p1080, none, []⟩) (viewerClient ⟨.p1080, none, []⟩)
      (viewerUri [("mediaIndex", "1")])
      { media := [uhdVersion, fullHdVersion, hdVersion]
        mediaIndex := 1
        fallbackFor := "1080" } 2 :=
    ⟨⟨by decide, by rfl⟩, by decide⟩
  exact (fallback_within_enforced_policy_iff settled
    (viewerUri [("mediaIndex", "1")])).mpr
    (.inl (by simp [viewerDepot, resolvedDepot])) _ _ selects

/-! A doubled slash: the router takes it for the decision path, the test for
protected paths does not. -/

def doubledSlashUri : Uri :=
  { viewerUri [("mediaIndex", "0")] with
    path := "//video/:/transcode/universal/decision" }

def doubledSlashDepot : Depot :=
  requestDepot jodieServices.currentIdentity viewerConfig jodieRuntime
    viewerRequest doubledSlashUri.path false

def fallbackServices : HoopServices :=
  { hoopServices [fullHdVersion, uhdVersion] with
    currentIdentity := jodieServices.currentIdentity }

def doubledSlashClient : PlexClient where
  host := viewerRequest.upstreamHost
  context := viewerRequest.plex

theorem playbackPolicy_doubledSlash :
    PlaybackPolicy fallbackServices.toPlaybackServices hoopsConfig jodieRuntime
      doubledSlashDepot doubledSlashClient ⟨.p1080, none, []⟩ where
  enabled := rfl
  built := ⟨viewerRequest, rfl, by rfl⟩
  account := by rfl

/-- Enforcement holds jodie to 1080p; the fallback selects the 4K version. -/
theorem prohibited_version_selected_by_fallback :
    PlaybackPolicy fallbackServices.toPlaybackServices hoopsConfig jodieRuntime
        doubledSlashDepot doubledSlashClient ⟨.p1080, none, []⟩ ∧
      ¬ ∀ search index, FallbackSelects fallbackServices hoopsConfig
          doubledSlashDepot doubledSlashClient doubledSlashUri search index →
        search.media[index]?.any (mediaAllowed · ⟨.p1080, none, []⟩) =
          true := by
  refine ⟨playbackPolicy_doubledSlash, fun within => ?_⟩
  have selects : FallbackSelects fallbackServices hoopsConfig
      doubledSlashDepot doubledSlashClient doubledSlashUri
      { media := [fullHdVersion, uhdVersion]
        mediaIndex := 0
        fallbackFor := "1080" } 1 :=
    ⟨⟨by decide, by rfl⟩, by decide⟩
  exact absurd (within _ _ selects) (by decide)

end

end Replex
