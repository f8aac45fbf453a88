import Replex.Routes.Answers

namespace Replex

open Data MetaData

/-! What is answered while the account of a protected request is unknown. -/

def HiddenByDefault (runtime : PolicySnapshot) (node : MetaData) : Prop :=
  isHidden node
    { limit := runtime.defaultLimit
      hiddenCollections := runtime.hiddenCollections } = true

/-- What a closed answer does not show: versions, and the collections on the
default hidden list. -/
def Withheld (runtime : PolicySnapshot) (node : MetaData) : Prop :=
  node.media ≠ [] ∨ HiddenByDefault runtime node

instance (runtime : PolicySnapshot) : DecidablePred (Withheld runtime) :=
  fun node => inferInstanceAs (Decidable (node.media ≠ [] ∨ _ = true))

def Response.Closed (bad : MetaData → Prop) (response : Response) : Prop :=
  400 ≤ response.status ∨ response.Hides bad

theorem stable_withheld (runtime : PolicySnapshot) :
    Stable (Withheld runtime) := by
  intro origin result restyled withheld
  rcases withheld with versions | hidden
  · left
    rwa [← restyled.media]
  · right
    unfold HiddenByDefault isHidden isCollectionHub isHub at hidden ⊢
    rw [restyled.hubIdentifier, restyled.context, restyled.title] at hidden
    rcases restyled.type with same | other
    · rwa [← same]
    · grind

theorem avoids_map_iff {bad other : MetaData → Prop}
    {change : MetaData → MetaData} {items : List MetaData}
    (each : ∀ item ∈ items, Avoids bad [change item] ↔ Avoids other [item]) :
    Avoids bad (items.map change) ↔ Avoids other items := by
  constructor
  · intro changed
    apply avoids_iff.mpr
    intro item listed
    apply (each item listed).mp
    exact avoids_iff.mp changed _ (List.mem_map_of_mem listed)
  · intro clean
    apply avoids_iff.mpr
    intro result listed
    obtain ⟨item, among, rfl⟩ := List.mem_map.mp listed
    exact (each item among).mpr (avoids_iff.mp clean item among)

theorem avoids_clearMediaRecursive_iff (runtime : PolicySnapshot)
    (item : MetaData) :
    Avoids (Withheld runtime) [clearMediaRecursive item] ↔
      Avoids (HiddenByDefault runtime) [item] := by
  induction item using tree_induction with
  | node item children =>
      have top : Withheld runtime (clearMediaRecursive item) ↔
          HiddenByDefault runtime item := by
        rw [clearMediaRecursive_eq]
        simp [Withheld, HiddenByDefault, isHidden, isCollectionHub, isHub]
      have below : (clearMediaRecursive item).childNodes =
          item.childNodes.map clearMediaRecursive := by
        rw [clearMediaRecursive_eq]
        simp [childNodes]
      -- Versions go at every depth; titles and kinds stay.
      rw [avoids_singleton, avoids_singleton, top, below]
      apply and_congr_right
      intro shown
      exact avoids_map_iff children

section

variable {services : PlaybackServices} {config : Config}
  {runtime : PolicySnapshot} {parts : PartMediaCache}
  {request : RequestContext} {uri : Uri} {upstream : Upstream}

/-- The policy is on and fails closed, and the middleware could not establish
the account of a protected request. -/
structure UnavailableAccount (services : PlaybackServices) (config : Config)
    (runtime : PolicySnapshot) (request : RequestContext) (path : String) :
    Prop where
  enabled : runtime.enabled = true
  failClosed : runtime.failClosed = true
  required : requiresSecurityContext path = true
  state : ∃ failClosed reason, securityContextMiddleware
    services.currentIdentity config runtime request path =
      some (.unavailable failClosed reason)

namespace UnavailableAccount

variable {path : String}
  (account : UnavailableAccount services config runtime request path)

include account

theorem unavailable : ∃ reason, securityContextMiddleware
    services.currentIdentity config runtime request path =
      some (.unavailable true reason) := by
  obtain ⟨failClosed, reason, state⟩ := account.state
  refine ⟨reason, ?_⟩
  rw [state]
  have closed := account.failClosed
  unfold securityContextMiddleware at state
  grind

/-- The middleware's client is the handlers' client, so one is built for
either or for neither. -/
theorem client {client : PlexClient}
    (built : PlexClient.fromContextWithState request.plex config = .ok client)
    (skipOptionalTransforms : Bool) :
    ∃ client, plexClientFromDepot config request.plex
        (requestDepot services.currentIdentity config runtime request path
          skipOptionalTransforms) = .ok client ∧
      client.context = request.plex ∧
      currentPolicy services.currentIdentity runtime client = .error () := by
  obtain ⟨reason, state⟩ := account.unavailable
  obtain ⟨host, rfl⟩ := PlexClient.eq_of_fromContextWithState built
  refine ⟨{ host := request.upstreamHost, context := request.plex
            securityUnavailableFailClosed := some true }, ?_, rfl, ?_⟩
  · simp [plexClientFromDepot, requestDepot, state, built]
  · simp [currentPolicy, account.enabled]

theorem protectedRedirectStream_refused (skipOptionalTransforms : Bool)
    (parts : PartMediaCache) (route : StreamRoute) :
    ∃ status, 400 ≤ status ∧
      protectedRedirectStream services.currentIdentity config runtime
        (requestDepot services.currentIdentity config runtime request path
          skipOptionalTransforms) parts route = .refuse status := by
  obtain ⟨reason, state⟩ := account.unavailable
  unfold protectedRedirectStream
  simp only [account.enabled, Bool.not_true, Bool.false_eq_true, if_false,
    requestDepot, state]
  cases plexClientFromDepot config request.plex
      { requestContext := some request
        securityState := some (.unavailable true reason)
        skipOptionalTransforms } with
  | error error => exact ⟨401, by decide, rfl⟩
  | ok client => exact ⟨503, by decide, rfl⟩

theorem playbackGate_stopped (skipOptionalTransforms : Bool)
    (parts : PartMediaCache) (uri : Uri) :
    ∃ status, 400 ≤ status ∧
      playbackGate services config runtime parts
        (requestDepot services.currentIdentity config runtime request path
          skipOptionalTransforms) uri true = .stop status := by
  obtain ⟨reason, state⟩ := account.unavailable
  unfold playbackGate enforceResolutionPolicy
  simp only [account.enabled, Bool.not_true, Bool.false_eq_true, if_false,
    if_true, requestDepot, state]
  cases plexClientFromDepot config request.plex
      { requestContext := some request
        securityState := some (.unavailable true reason)
        skipOptionalTransforms } with
  | error error => exact ⟨500, by decide, rfl⟩
  | ok client => exact ⟨503, by decide, rfl⟩

theorem displaying (settings : DisplaySettings) :
    UnavailableAccount services (config.displaying settings) runtime request
      path :=
  ⟨account.enabled, account.failClosed, account.required, account.state⟩

end UnavailableAccount

/-- A client can be built: the request has a token and the proxy a server. -/
def CanServe (config : Config) (request : RequestContext) : Prop :=
  request.plex.token.isSome = true ∧ config.host.isSome = true

instance (config : Config) (request : RequestContext) :
    Decidable (CanServe config request) :=
  inferInstanceAs (Decidable (_ ∧ _))

theorem canServe_iff : CanServe config request ↔ ∃ client,
    PlexClient.fromContextWithState request.plex config = .ok client := by
  unfold CanServe PlexClient.fromContextWithState
  cases request.plex.token <;> cases config.host <;> simp

theorem withClient_of_not_canServe (unservable : ¬ CanServe config request)
    (rendering : Rendering) (path : String) (serve : PlexClient → Response) :
    withClient (config.displaying rendering.settings)
        (requestDepot services.currentIdentity
          (config.displaying rendering.settings) runtime request path
          rendering.skipOptionalTransforms) serve =
      { status := 500 } := by
  have failed : ∃ error, PlexClient.fromContextWithState request.plex
      (config.displaying rendering.settings) = .error error := by
    cases built : PlexClient.fromContextWithState request.plex
        (config.displaying rendering.settings) with
    | error error => exact ⟨error, rfl⟩
    | ok client => exact absurd (canServe_iff.mpr ⟨client, built⟩) unservable
  obtain ⟨error, failed⟩ := failed
  simp [withClient, requestDepot, plexClientFromDepot, failed]

theorem UnavailableAccount.serves
    (account : UnavailableAccount services config runtime request uri.path)
    (servable : CanServe config request) :
    Serves services config runtime request uri (.error ()) := by
  obtain ⟨client, built⟩ := canServe_iff.mp servable
  intro skipOptionalTransforms
  exact account.client built skipOptionalTransforms

theorem visibleItems_error (payload : MediaContainer) :
    visibleItems (.error ()) payload = payload.items :=
  Sweep.reached_append_unreached (fun _ => rfl) payload.lists

theorem avoids_applyPolicyTransforms_error_iff (payload : MediaContainer) :
    Avoids (Withheld runtime)
        (applyPolicyTransforms (.error ()) true payload).items ↔
      Avoids (HiddenByDefault runtime)
          (Sweep.reached (fun item => item.media.isEmpty) payload.lists) ∧
        Avoids (Withheld runtime)
          (Sweep.unreached (fun item => item.media.isEmpty) payload.lists) := by
  have keep : (resolutionPolicyTransform (.error ()) true).filterMetadata =
      fun item => item.media.isEmpty := by
    funext item
    simp [resolutionPolicyTransform, policyFilterMetadata]
  have visible (lists : List (List MetaData)) :
      Sweep.sweep (collectionVisibilityTransform (.error ())).filterMetadata
        (collectionVisibilityTransform (.error ())).transformMetadata lists =
          lists :=
    Sweep.sweep_id (fun _ => rfl) lists
  rw [applyPolicyTransforms, items_applyTo]
  · simp only [List.foldl_cons, List.foldl_nil, keep, visible]
    rw [Sweep.flatten_sweep, avoids_append]
    apply and_congr_left'
    apply avoids_map_iff
    intro item _
    exact avoids_clearMediaRecursive_iff runtime item
  · intro transform listed
    simp only [List.mem_cons, List.not_mem_nil, or_false] at listed
    rcases listed with rfl | rfl
    · rfl
    · rfl

/-- Errors of the proxy carry no container. -/
def Response.Answered (response : Response) : Prop :=
  ∀ container, response.container = some container → response.status = 200

theorem Response.Answered.closed_iff_hides {bad : MetaData → Prop}
    {response : Response} (answered : response.Answered) :
    response.Closed bad ↔ response.Hides bad := by
  constructor
  · intro closed container has
    rcases closed with error | hides
    · rw [answered container has] at error
      exact absurd error (by decide)
    · exact hides container has
  · intro hides
    exact .inr hides

theorem answered_withClient (config : Config) (depot : Depot)
    {serve : PlexClient → Response} (each : ∀ client, (serve client).Answered) :
    (withClient config depot serve).Answered := by
  unfold withClient
  split
  · intro container has
    cases has
  · split
    · intro container has
      cases has
    · exact each _

theorem answered_cachedHubsResponse (rendering : Rendering) (slots : Bool) :
    (rendering.answer services config runtime parts request uri upstream
      (.cachedHubsResponse slots)).Answered := by
  apply answered_withClient
  intro client container has
  dsimp only at has ⊢
  split
  · rfl
  · rename_i filled
    rw [if_neg filled] at has
    split at has
    · rfl
    · cases has

theorem answered_transformPolicyResponse (ok : upstream.status = 200)
    (rendering : Rendering) :
    (rendering.answer services config runtime parts request uri upstream
      .transformPolicyResponse).Answered := by
  unfold Rendering.answer respond
  simp only [ok, ne_eq, not_true_eq_false, if_false]
  cases upstream.container with
  | none =>
      intro container has
      cases has
  | some payload =>
      apply answered_withClient
      intro client container has
      rfl

variable (account :
  UnavailableAccount services config runtime request uri.path)

include account

theorem closed_cachedHubsResponse_iff (slots : Bool) :
    (∀ rendering : Rendering, (rendering.answer services config runtime parts
        request uri upstream (.cachedHubsResponse slots)).Closed
          (Withheld runtime)) ↔
      (CanServe config request → ∀ payload, upstream.Delivers payload →
        Avoids (Withheld runtime) payload.items) := by
  by_cases servable : CanServe config request
  · refine (forall_congr' fun rendering =>
      (answered_cachedHubsResponse rendering slots).closed_iff_hides).trans ?_
    rw [hides_cachedHubsResponse_iff (stable_withheld runtime)
      (account.serves servable)]
    simp only [visibleItems_error, servable, forall_const]
  · apply iff_of_true
    · intro rendering
      unfold Rendering.answer respond
      simp only [withClient_of_not_canServe servable]
      exact .inl (by decide)
    · intro possible
      exact absurd possible servable

theorem closed_transformPolicyResponse_iff :
    (∀ rendering : Rendering, (rendering.answer services config runtime parts
        request uri upstream .transformPolicyResponse).Closed
          (Withheld runtime)) ↔
      if upstream.status = 200 then
        CanServe config request → ∀ payload,
          upstream.container = some payload →
            Avoids (HiddenByDefault runtime)
                (Sweep.reached (fun item => item.media.isEmpty)
                  payload.lists) ∧
              Avoids (Withheld runtime)
                (Sweep.unreached (fun item => item.media.isEmpty)
                  payload.lists)
      else
        upstream.raw.Closed (Withheld runtime) := by
  by_cases ok : upstream.status = 200
  · rw [if_pos ok]
    by_cases servable : CanServe config request
    · refine (forall_congr' fun rendering =>
        (answered_transformPolicyResponse ok rendering).closed_iff_hides).trans
          ?_
      rw [hides_transformPolicyResponse_iff (account.serves servable),
        if_pos ok]
      simp only [account.failClosed, avoids_applyPolicyTransforms_error_iff,
        servable, forall_const]
    · apply iff_of_true
      · intro rendering
        unfold Rendering.answer respond
        simp only [ok, ne_eq, not_true_eq_false, if_false,
          withClient_of_not_canServe servable]
        split
        · exact .inl (by decide)
        · exact .inl (by decide)
      · intro possible
        exact absurd possible servable
  · rw [if_neg ok]
    have passed (rendering : Rendering) : rendering.answer services config
        runtime parts request uri upstream .transformPolicyResponse =
          upstream.raw := by
      unfold Rendering.answer respond
      simp only [ok, ne_eq, not_false_eq_true, if_true]
    simp only [passed]
    exact forall_const Rendering

theorem closed_playback_iff (enforced : Bool) :
    (∀ rendering : Rendering, (rendering.answer services config runtime parts
        request uri upstream (.playback enforced)).Closed
          (Withheld runtime)) ↔
      (enforced = false → upstream.raw.Closed (Withheld runtime)) := by
  cases enforced with
  | true =>
      apply iff_of_true
      · intro rendering
        have stopped := (account.displaying
          rendering.settings).playbackGate_stopped
            rendering.skipOptionalTransforms parts uri
        obtain ⟨status, error, stopped⟩ := stopped
        unfold Rendering.answer respond
        simp only [stopped]
        exact .inl error
      · intro unenforced
        cases unenforced
  | false =>
      constructor
      · intro closed _
        exact closed plainRendering
      · intro closed rendering
        unfold Rendering.answer respond
        simp only [playbackGate, Bool.false_eq_true, if_false]
        split
        · exact .inr (hides_without_container _)
        · exact closed rfl

/-! Every handler. -/

/-- The replies to which a handler of a protected path fails closed while the
account is unknown. -/
def FailsClosed (config : Config) (runtime : PolicySnapshot)
    (request : RequestContext) (upstream : Upstream) : Handler → Prop
  | .ownPage => True
  | .emptyHandler => True
  | .protectedRedirectStream _ => True
  | .proxyRequest => upstream.raw.Closed (Withheld runtime)
  | .playback enforced =>
      enforced = false → upstream.raw.Closed (Withheld runtime)
  | .transformPolicyResponse =>
      if upstream.status = 200 then
        CanServe config request → ∀ payload,
          upstream.container = some payload →
            Avoids (HiddenByDefault runtime)
                (Sweep.reached (fun item => item.media.isEmpty)
                  payload.lists) ∧
              Avoids (Withheld runtime)
                (Sweep.unreached (fun item => item.media.isEmpty)
                  payload.lists)
      else
        upstream.raw.Closed (Withheld runtime)
  | .cachedHubsResponse _ =>
      CanServe config request → ∀ payload, upstream.Delivers payload →
        Avoids (Withheld runtime) payload.items
  -- No protected path leads here.
  | .getCollectionsChildren _ => False
  | .defaultTransform _ => False

theorem closed_answer_iff {handler : Handler}
    (direct : handler.isRewritten = false) :
    (∀ rendering : Rendering, (rendering.answer services config runtime parts
        request uri upstream handler).Closed (Withheld runtime)) ↔
      FailsClosed config runtime request upstream handler := by
  cases handler with
  | ownPage =>
      apply iff_of_true
      · intro rendering
        exact .inr (hides_without_container 200)
      · trivial
  | emptyHandler =>
      apply iff_of_true
      · intro rendering
        exact .inr (hides_some.mpr avoids_nil)
      · trivial
  | protectedRedirectStream route =>
      apply iff_of_true
      · intro rendering
        obtain ⟨status, error, refused⟩ :=
          (account.displaying rendering.settings).protectedRedirectStream_refused
            rendering.skipOptionalTransforms parts route
        unfold Rendering.answer respond
        simp only [refused]
        exact .inl error
      · trivial
  | proxyRequest =>
      constructor
      · intro closed
        exact closed plainRendering
      · intro closed rendering
        exact closed
  | playback enforced => exact closed_playback_iff account enforced
  | transformPolicyResponse => exact closed_transformPolicyResponse_iff account
  | cachedHubsResponse slots => exact closed_cachedHubsResponse_iff account slots
  | getCollectionsChildren ids => cases direct
  | defaultTransform style => cases direct

/-- While the account of a protected request is unknown, its answer is closed
exactly for the replies to which its handler fails closed. -/
theorem unavailable_account_closed_iff
    {matchPath : (pattern path : String) → Option Params}
    (separate : ∀ path, requiresSecurityContext path = true →
      matchPath collectionsChildrenPattern path = none ∧
        matchPath defaultTransformPattern path = none)
    (method : Method) (parts : PartMediaCache) (upstream : Upstream) :
    (∀ rendering : Rendering, (rendering.answer services config runtime parts
        request uri upstream (selectHandler matchPath
          (config.displaying rendering.settings) method uri.path)).Closed
            (Withheld runtime)) ↔
      FailsClosed config runtime request upstream
        (selectHandler matchPath config method uri.path) := by
  obtain ⟨children, default⟩ := separate uri.path account.required
  exact closed_answer_iff account
    (isRewritten_selectHandler children default config method)

end

/-! The home screen of a viewer whose account is unknown. -/

theorem unavailableAccount_viewer :
    UnavailableAccount (viewerServices []) viewerConfig viewerRuntime
      viewerRequest homeUri.path where
  enabled := rfl
  failClosed := rfl
  required := by decide
  state := ⟨true, _, rfl⟩

theorem literalMatch_separate (path : String)
    (required : requiresSecurityContext path = true) :
    literalMatch collectionsChildrenPattern path = none ∧
      literalMatch defaultTransformPattern path = none := by
  constructor
  · have other : collectionsChildrenPattern ≠ path := by
      rintro rfl
      exact absurd required (by decide)
    simp [literalMatch, other]
    decide
  · have other : defaultTransformPattern ≠ path := by
      rintro rfl
      exact absurd required (by decide)
    simp [literalMatch, other]
    decide

def unknownAnswer (media : List Media) : Response :=
  plainRendering.answer (viewerServices []) viewerConfig viewerRuntime
    Store.empty viewerRequest homeUri (homeUpstream media)
    (selectHandler literalMatch viewerConfig .get homeUri.path)

theorem unavailable_account_closed_iff_home :
    (unknownAnswer []).Closed (Withheld viewerRuntime) := by
  apply (unavailable_account_closed_iff unavailableAccount_viewer
    literalMatch_separate .get Store.empty (homeUpstream [])).mpr
  rw [selectHandler_home]
  intro _ payload delivers
  cases delivers.2
  decide

theorem home_shows_versions_of_unknown_account :
    ¬ (unknownAnswer [uhdVersion]).Closed (Withheld viewerRuntime) := by
  intro closed
  rcases closed with error | hides
  · exact absurd error (by decide)
  · exact absurd (hides _ rfl) (by decide)

end Replex
