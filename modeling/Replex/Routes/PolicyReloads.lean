import Replex.Routes.PolicyReads
import Replex.Routes.Upstream

namespace Replex

open Data

/-! Requests answered while the policy is being reloaded. -/

/-! What a client built for a request makes of alike snapshots. -/

section

variable {identity : PlexClient → Except IdentityError ResolvedIdentity}
  {config : Config} {depot : Depot} {request : RequestContext}
  {client : PlexClient} {handler : Handler} {first later : PolicySnapshot}

/-- The client carries the security state of the depot. -/
theorem security_of_plexClientFromDepot {context : PlexContext}
    (built : plexClientFromDepot config context depot = .ok client) :
    client.securityContext =
        (match depot.securityState with
          | some (.resolved security) => some security
          | _ => none) ∧
      client.securityUnavailableFailClosed =
        (match depot.securityState with
          | some (.unavailable failClosed _) => some failClosed
          | _ => none) := by
  unfold plexClientFromDepot at built
  dsimp only at built
  split at built
  · cases built
  next bare fresh =>
      obtain ⟨host, rfl⟩ := PlexClient.eq_of_fromContextWithState fresh
      obtain ⟨request, state, skipOptionalTransforms⟩ := depot
      rcases request with _ | request <;>
        rcases state with _ | (_ | _) <;>
          cases built <;> exact ⟨rfl, rfl⟩

theorem currentPolicy_eq_of_readsAlike {context : PlexContext}
    (built : plexClientFromDepot config context depot = .ok client)
    (enabled : later.enabled = first.enabled)
    (alike : ReadsAlike depot.securityState handler first later) :
    currentPolicy identity later client =
      currentPolicy identity first client := by
  obtain ⟨resolved, unavailable⟩ := security_of_plexClientFromDepot built
  unfold currentPolicy
  rw [enabled]
  cases on : first.enabled with
  | false => rfl
  | true =>
      cases state : depot.securityState with
      | some security =>
          rw [state] at resolved unavailable
          cases security with
          | resolved security => simp [resolved]
          | unavailable failClosed reason => simp [resolved, unavailable]
      | none =>
          rw [state] at resolved unavailable alike
          simp only [resolved, unavailable]
          cases identity client with
          | error error => rfl
          | ok known => simp [(alike on).1.resolve]

/-- Only an unresolved account has its mode asked for. -/
theorem failClosed_eq_of_readsAlike {context : PlexContext}
    (built : plexClientFromDepot config context depot = .ok client)
    (alike : ReadsAlike depot.securityState .transformPolicyResponse first later)
    {failure : Unit}
    (unresolved : currentPolicy identity first client = .error failure) :
    later.failClosed = first.failClosed := by
  obtain ⟨resolved, unavailable⟩ := security_of_plexClientFromDepot built
  cases on : first.enabled with
  | false => simp [currentPolicy, on] at unresolved
  | true =>
      cases state : depot.securityState with
      | some security =>
          rw [state] at resolved alike
          cases security with
          | resolved security =>
              simp [currentPolicy, on, resolved] at unresolved
          | unavailable failClosed reason => exact alike rfl
      | none =>
          rw [state] at alike
          exact (alike on).2 (.inr rfl)

theorem protectedRedirectStream_eq_of_readsAlike
    (enabled : later.enabled = first.enabled)
    (alike : ReadsAlike depot.securityState handler first later)
    (parts : PartMediaCache) (route : StreamRoute) :
    protectedRedirectStream identity config later depot parts route =
      protectedRedirectStream identity config first depot parts route := by
  unfold protectedRedirectStream
  rw [enabled]
  cases on : first.enabled with
  | false => rfl
  | true =>
      have account (client : PlexClient) :
          streamAccount identity later depot client =
            streamAccount identity first depot client := by
        unfold streamAccount
        cases state : depot.securityState with
        | some security => cases security <;> rfl
        | none =>
            rw [state] at alike
            cases identity client with
            | error error => rfl
            | ok known => simp [(alike on).1.resolve]
      simp only [account]

theorem enforceVersions_eq_of_failClosed {services : PlaybackServices}
    (same : later.failClosed = first.failClosed) (client : PlexClient)
    (policy : ResolutionPolicy) (parts : PartMediaCache) (uri : Uri) :
    enforceVersions services later client policy parts uri =
      enforceVersions services first client policy parts uri := by
  unfold enforceVersions
  rw [same]

theorem enforceResolutionPolicy_eq_of_readsAlike {services : PlaybackServices}
    (enabled : later.enabled = first.enabled)
    (alike : ReadsAlike depot.securityState (.playback true) first later)
    (parts : PartMediaCache) (uri : Uri) :
    enforceResolutionPolicy services config later depot parts uri =
      enforceResolutionPolicy services config first depot parts uri := by
  unfold enforceResolutionPolicy
  rw [enabled]
  cases on : first.enabled with
  | false => rfl
  | true =>
      cases state : depot.securityState with
      | some security =>
          rw [state] at alike
          cases security with
          | resolved security =>
              simp only [playbackAccount, state,
                enforceVersions_eq_of_failClosed (alike rfl)]
          | unavailable failClosed reason =>
              simp only [playbackAccount, state]
              cases failClosed <;> rfl
      | none =>
          rw [state] at alike
          obtain ⟨rules, mode⟩ := alike on
          simp only [playbackAccount, state, rules.resolve,
            enforceVersions_eq_of_failClosed (mode (.inl rfl))]

end

/-! The programs go on steadily. -/

section

variable {identity : PlexClient → Except IdentityError ResolvedIdentity}
  {client : PlexClient} {alike : PolicySnapshot → Prop}
  {first : PolicySnapshot}

theorem steady_currentPolicyReads
    (policy : ∀ later, alike later →
      currentPolicy identity later client = currentPolicy identity first client) :
    (currentPolicyReads identity client).Steady alike first := by
  apply Reads.steady_view
  · intro later same
    rw [policy later same]
  · exact Reads.steady_pure _

theorem steady_visibilityFilterReads
    (policy : ∀ later, alike later →
      currentPolicy identity later client = currentPolicy identity first client)
    (item : MetaData) :
    (visibilityFilterReads identity client item).Steady alike first := by
  apply (steady_currentPolicyReads policy).andThen
  intro current
  exact Reads.steady_pure _

/-- The shape that the two passes of the version filter share. -/
theorem steady_policyReads {α : Type}
    (policy : ∀ later, alike later →
      currentPolicy identity later client = currentPolicy identity first client)
    (closed : ∀ later, alike later → ∀ failure,
      currentPolicy identity first client = .error failure →
        later.failClosed = first.failClosed)
    (resolved : ResolutionPolicy → α) (unresolved : Bool → α) :
    (do
      match ← currentPolicyReads identity client with
      | .ok policy => pure (resolved policy)
      | .error _ =>
          let runtime ← Reads.current
          pure (unresolved runtime.failClosed) :
      Reads PolicySnapshot α).Steady alike first := by
  apply (steady_currentPolicyReads policy).bind
  have under : (currentPolicyReads identity client).under first =
      currentPolicy identity first client := rfl
  rw [under]
  cases found : currentPolicy identity first client with
  | ok policy => exact Reads.steady_pure _
  | error failure =>
      apply Reads.steady_view
      · intro later same
        rw [closed later same failure found]
      · exact Reads.steady_pure _

theorem steady_applyReads {keep : MetaData → Reads PolicySnapshot Bool}
    {change : MetaData → Reads PolicySnapshot MetaData}
    (kept : ∀ item, (keep item).Steady alike first)
    (changed : ∀ item, (change item).Steady alike first)
    (container : MediaContainer) :
    (applyReads keep change container).Steady alike first := by
  apply (steady_loopReads kept changed _ _ _).andThen
  intro lists
  exact Reads.steady_pure _

theorem steady_applyPolicyTransformsReads
    (policy : ∀ later, alike later →
      currentPolicy identity later client = currentPolicy identity first client)
    (closed : ∀ later, alike later → ∀ failure,
      currentPolicy identity first client = .error failure →
        later.failClosed = first.failClosed)
    (payload : MediaContainer) :
    (applyPolicyTransformsReads identity client payload).Steady alike
      first := by
  unfold applyPolicyTransformsReads
  apply Reads.Steady.andThen
  · apply steady_applyReads
    · intro item
      exact steady_policyReads policy closed
        (fun policy => policyFilterMetadata (.ok policy) false item)
        (fun failClosed => policyFilterMetadata (.error ()) failClosed item)
    · intro item
      exact steady_policyReads policy closed
        (fun policy => policyTransformMetadata (.ok policy) false item)
        (fun failClosed => policyTransformMetadata (.error ()) failClosed item)
  · intro container
    apply Reads.Steady.andThen
    · apply steady_applyReads (steady_visibilityFilterReads policy)
      intro item
      exact Reads.steady_pure item
    · intro container
      exact Reads.steady_pure _

theorem steady_cachedHubsReads
    (policy : ∀ later, alike later →
      currentPolicy identity later client = currentPolicy identity first client)
    (presentation : Presentation) (skipOptionalTransforms : Bool)
    (payload : MediaContainer) :
    (cachedHubsReads identity client presentation skipOptionalTransforms
      payload).Steady alike first := by
  unfold cachedHubsReads
  apply Reads.Steady.andThen
  · apply steady_applyReads (steady_visibilityFilterReads policy)
    intro item
    exact Reads.steady_pure item
  · intro container
    exact Reads.steady_pure _

theorem steady_withClientReads {config : Config} {depot : Depot}
    {serve : PlexClient → Reads PolicySnapshot Response}
    (each : ∀ request client, depot.requestContext = some request →
      plexClientFromDepot config request.plex depot = .ok client →
        (serve client).Steady alike first) :
    (withClientReads config depot serve).Steady alike first := by
  unfold withClientReads
  split
  · exact Reads.steady_pure _
  next request present =>
      split
      · exact Reads.steady_pure _
      next client built => exact each request client present built

end

/-! Runs. -/

structure PolicyVisit where
  rendering : Rendering
  services : PlaybackServices
  config : Config
  parts : PartMediaCache
  request : RequestContext
  uri : Uri
  upstream : Upstream
  handler : Handler

namespace PolicyVisit

def state (visit : PolicyVisit) (runtime : PolicySnapshot) :
    Option SecurityContextState :=
  securityContextMiddleware visit.services.currentIdentity
    (visit.config.displaying visit.rendering.settings) runtime visit.request
    visit.uri.path

def depot (visit : PolicyVisit) (runtime : PolicySnapshot) : Depot :=
  requestDepot visit.services.currentIdentity
    (visit.config.displaying visit.rendering.settings) runtime visit.request
    visit.uri.path visit.rendering.skipOptionalTransforms

/-- The middleware reads first, then the handler as it goes. -/
def program (visit : PolicyVisit) : Reads PolicySnapshot Response := do
  let runtime ← Reads.current
  respondReads visit.services
    (visit.config.displaying visit.rendering.settings) visit.parts
    (visit.depot runtime) visit.uri visit.rendering.lookups
    visit.rendering.optionalHoops visit.upstream visit.handler

/-- The answer that one snapshot prescribes. -/
def prescribed (visit : PolicyVisit) (runtime : PolicySnapshot) : Response :=
  visit.rendering.answer visit.services visit.config runtime visit.parts
    visit.request visit.uri visit.upstream visit.handler

def Alike (visit : PolicyVisit) (first later : PolicySnapshot) : Prop :=
  ReadsAlike (visit.state first) visit.handler first later

theorem under_program (visit : PolicyVisit) (runtime : PolicySnapshot) :
    visit.program.under runtime = visit.prescribed runtime := by
  unfold program prescribed Rendering.answer
  rw [Reads.under_bind, Reads.under_current, under_respondReads]
  rfl

theorem steady_program (visit : PolicyVisit) (first : PolicySnapshot) :
    (respondReads visit.services
      (visit.config.displaying visit.rendering.settings) visit.parts
      (visit.depot first) visit.uri visit.rendering.lookups
      visit.rendering.optionalHoops visit.upstream visit.handler).Steady
        (fun later => later.enabled = first.enabled ∧ visit.Alike first later)
        first := by
  have held : visit.state first = (visit.depot first).securityState := rfl
  unfold Alike
  rw [held]
  cases visit.handler with
  | proxyRequest => exact Reads.steady_pure _
  | ownPage => exact Reads.steady_pure _
  | emptyHandler => exact Reads.steady_pure _
  | getCollectionsChildren ids => exact Reads.steady_pure _
  | defaultTransform style => exact Reads.steady_pure _
  | protectedRedirectStream route =>
      apply Reads.steady_view
      · rintro later ⟨enabled, alike⟩
        rw [protectedRedirectStream_eq_of_readsAlike enabled alike]
      · exact Reads.steady_pure _
  | playback enforced =>
      cases enforced with
      | false => exact Reads.steady_pure _
      | true =>
          apply Reads.steady_view
          · rintro later ⟨enabled, alike⟩
            simp only [playbackGate,
              enforceResolutionPolicy_eq_of_readsAlike enabled alike]
          · exact Reads.steady_pure _
  | transformPolicyResponse =>
      simp only [respondReads]
      split
      · exact Reads.steady_pure _
      · split
        · exact Reads.steady_pure _
        next payload _ =>
            apply steady_withClientReads
            intro request client present built
            apply Reads.Steady.andThen
            · apply steady_applyPolicyTransformsReads
              · rintro later ⟨enabled, alike⟩
                exact currentPolicy_eq_of_readsAlike built enabled alike
              · rintro later ⟨-, alike⟩ failure unresolved
                exact failClosed_eq_of_readsAlike built alike unresolved
            · intro container
              exact Reads.steady_pure _
  | cachedHubsResponse slots =>
      simp only [respondReads]
      apply steady_withClientReads
      intro request client present built
      split
      · exact Reads.steady_pure _
      · split
        · apply Reads.Steady.andThen
          · apply steady_cachedHubsReads
            rintro later ⟨enabled, alike⟩
            exact currentPolicy_eq_of_readsAlike built enabled alike
          · intro container
            exact Reads.steady_pure _
        · exact Reads.steady_pure _

end PolicyVisit

/-- A reload replaces everything but whether the policy is on, which only a
restart changes. -/
def policyReload (next : PolicySnapshot) :
    SharedAction PolicyVisit PolicySnapshot :=
  .update fun current => { next with generation := current.generation + 1 }

def policyStep :
    Shared PolicyVisit PolicySnapshot Response →
      SharedAction PolicyVisit PolicySnapshot →
      Shared PolicyVisit PolicySnapshot Response :=
  Shared.step PolicyVisit.program PolicySnapshot.enabled

def policyRun (startup : PolicySnapshot)
    (actions : List (SharedAction PolicyVisit PolicySnapshot)) :
    Shared PolicyVisit PolicySnapshot Response :=
  actions.foldl policyStep { current := startup }

theorem steadyFromFirst_program :
    Shared.SteadyFromFirst PolicyVisit.program PolicySnapshot.enabled
      PolicyVisit.Alike :=
  fun visit => ⟨_, rfl, visit.steady_program⟩

/-- Every request is answered as the snapshot of its security context
prescribes, provided no read of it finds a reload that matters to it. -/
theorem one_generation_per_request {startup : PolicySnapshot}
    {actions taken : List (SharedAction PolicyVisit PolicySnapshot)}
    (alike : Transition.Meets policyStep (Shared.AlikeReads PolicyVisit.Alike)
      { current := startup } actions)
    (reached : taken <+: actions) :
    ∀ answered ∈ (policyRun startup taken).answered, ∃ first,
      answered.first = some first ∧
        answered.answer = answered.request.prescribed first := by
  intro answered listed
  obtain ⟨first, read, answer⟩ := Shared.answered_under_first
    steadyFromFirst_program alike reached answered listed
  exact ⟨first, read, by rw [answer, PolicyVisit.under_program]⟩

/-! A page of movies, and a reload between two reads. -/

def metadataVisit (services : PlaybackServices) (movies : Nat) :
    PolicyVisit where
  rendering := plainRendering
  services := services
  config := viewerConfig
  parts := Store.empty
  request := viewerRequest
  uri := { origin := "http://replex", path := "/library/metadata/1"
           queries := ⟨[]⟩ }
  upstream :=
    { status := 200
      container := some
        { metadata := List.replicate movies
            { type := "movie", media := [fullHdVersion] } }
      children := fun _ _ _ => none }
  handler := .transformPolicyResponse

/-- The account is resolved when the rules change, and keeps its policy. -/
def resolvedReload : List (SharedAction PolicyVisit PolicySnapshot) :=
  [.start (metadataVisit jodieServices 1), .step 0,
    policyReload { viewerRuntime with defaultLimit := .p480 },
    .step 0, .step 0, .step 0, .step 0]

theorem one_generation_per_request_resolved :
    ∃ answered ∈ (policyRun jodieRuntime resolvedReload).answered, ∃ first,
      answered.first = some first ∧
        answered.answer = answered.request.prescribed first := by
  have alike (later : PolicySnapshot) :
      (metadataVisit jodieServices 1).Alike jodieRuntime later := by
    have state : (metadataVisit jodieServices 1).state jodieRuntime =
        some (.resolved _) := rfl
    unfold PolicyVisit.Alike
    rw [state]
    nofun
  have meets : Transition.Meets policyStep
      (Shared.AlikeReads PolicyVisit.Alike) { current := jodieRuntime }
      resolvedReload := by
    refine ⟨trivial, ?_, trivial, ?_, ?_, ?_, ?_, trivial⟩
    · rintro job next first found reads read
      cases found
      cases read
    all_goals
      rintro job next first found reads read
      cases found
      cases read
      exact alike _
  have ends : ∃ answered rest, (policyRun jodieRuntime
      resolvedReload).answered = answered :: rest := ⟨_, _, rfl⟩
  obtain ⟨answered, rest, listed⟩ := ends
  have among : answered ∈
      (policyRun jodieRuntime resolvedReload).answered := by
    rw [listed]
    exact List.mem_cons_self
  exact ⟨answered, among, one_generation_per_request meets
    (List.prefix_refl _) answered among⟩

/-- The account is unknown; the mode changes after the first movie is hidden,
and the second one is shown. -/
def unresolvedReload : List (SharedAction PolicyVisit PolicySnapshot) :=
  [.start (metadataVisit
      { jodieServices with currentIdentity := noIdentity } 2),
    .step 0, .step 0, .step 0,
    policyReload { viewerRuntime with failClosed := false },
    .step 0, .step 0, .step 0, .step 0, .step 0, .step 0]

theorem reload_between_items_mixed :
    ∃ answered ∈ (policyRun viewerRuntime unresolvedReload).answered, ∃ first,
      answered.first = some first ∧
        answered.answer ≠ answered.request.prescribed first := by
  refine ⟨_, List.mem_cons_self, _, rfl, ?_⟩
  intro same
  have sizes := congrArg (fun response : Response =>
    response.container.map fun container => container.metadata.length) same
  revert sizes
  decide

end Replex
