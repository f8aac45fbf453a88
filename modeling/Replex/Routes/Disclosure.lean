import Replex.Routes.Answers
import Replex.Routes.Upstream

namespace Replex

open Data MetaData

/-! Which payloads a restricted account can be shown without a prohibited
version, handler by handler. -/

def Prohibited (policy : ResolutionPolicy) (node : MetaData) : Prop :=
  ∃ version ∈ node.media, mediaAllowed version policy = false

instance (policy : ResolutionPolicy) : DecidablePred (Prohibited policy) :=
  fun node => inferInstanceAs
    (Decidable (∃ version ∈ node.media, mediaAllowed version policy = false))

theorem byMedia_prohibited (policy : ResolutionPolicy) :
    ByMedia (Prohibited policy) := by
  intro left right same
  simp only [Prohibited, same]

theorem avoids_filterMediaRecursive (policy : ResolutionPolicy)
    (item : MetaData) :
    Avoids (Prohibited policy) [filterMediaRecursive policy item] := by
  induction item using tree_induction with
  | node item children =>
      rw [filterMediaRecursive_eq]
      apply avoids_singleton.mpr
      constructor
      · intro prohibited
        obtain ⟨version, listed, refused⟩ := prohibited
        rw [(mem_allowedMedia.mp listed).2] at refused
        cases refused
      · apply avoids_iff.mpr
        intro child listed
        have pruned : ∃ origin ∈ item.childNodes,
            filterMediaRecursive policy origin = child := by
          simp only [childNodes, pruneChildren_eq, List.mem_append,
            List.mem_filter, List.mem_map] at listed ⊢
          grind
        obtain ⟨origin, among, rfl⟩ := pruned
        exact children origin among

/-! The policy routes. -/

def keptByPolicy (policy : ResolutionPolicy) (item : MetaData) : Bool :=
  item.media.isEmpty || item.media.any (mediaAllowed · policy)

/-- The items that the policy transform never visits, those behind the first
list that keeps an item, as far as the visibility filter leaves them. -/
def unfilteredItems (policy : ResolutionPolicy) :
    List (List MetaData) → List MetaData
  | [] => []
  | list :: rest =>
      let kept := list.filter (keptByPolicy policy)
      if kept.isEmpty then
        unfilteredItems policy rest
      else if kept.any fun item => !isHidden item policy then
        rest.flatten
      else
        Sweep.reached (fun item => !isHidden item policy) rest ++
          Sweep.unreached (fun item => !isHidden item policy) rest

theorem policyFilterMetadata_ok (policy : ResolutionPolicy)
    (failClosed : Bool) :
    policyFilterMetadata (.ok policy) failClosed = keptByPolicy policy := by
  funext item
  unfold policyFilterMetadata keptByPolicy
  cases limited : policy.isUnrestricted with
  | false => simp [limited]
  | true =>
      cases item.media with
      | nil => simp
      | cons version rest => simp [mediaAllowed, limited]

theorem isHidden_policyTransformMetadata (policy : ResolutionPolicy)
    (failClosed : Bool) (item : MetaData) :
    isHidden (policyTransformMetadata (.ok policy) failClosed item) policy =
      isHidden item policy := by
  unfold policyTransformMetadata
  simp only
  split
  · rfl
  · rw [filterMediaRecursive_eq]
    rfl

theorem avoids_policyTransformMetadata (policy : ResolutionPolicy)
    (failClosed : Bool) (item : MetaData) :
    Avoids (Prohibited policy)
      [policyTransformMetadata (.ok policy) failClosed item] := by
  unfold policyTransformMetadata
  simp only
  split
  next unrestricted =>
      intro node _ prohibited
      obtain ⟨version, -, refused⟩ := prohibited
      simp [mediaAllowed, unrestricted] at refused
  · exact avoids_filterMediaRecursive policy item

/-- The items that both passes visit and keep. -/
def filteredItems (policy : ResolutionPolicy) :
    List (List MetaData) → List MetaData
  | [] => []
  | list :: rest =>
      let kept := list.filter (keptByPolicy policy)
      if kept.isEmpty then filteredItems policy rest
      else kept.filter fun item => !isHidden item policy

theorem not_hidden_of_filteredItems {policy : ResolutionPolicy}
    {lists : List (List MetaData)} {item : MetaData}
    (listed : item ∈ filteredItems policy lists) :
    isHidden item policy = false := by
  induction lists with
  | nil => cases listed
  | cons list rest hypothesis =>
      unfold filteredItems at listed
      simp only at listed
      split at listed
      · exact hypothesis listed
      · simpa using (List.mem_filter.mp listed).2

/-- Both passes over the lists: what they visit is transformed, and the rest is
as it was. -/
theorem flatten_policySweeps (policy : ResolutionPolicy)
    {change : MetaData → MetaData}
    (same : ∀ item, isHidden (change item) policy = isHidden item policy)
    (lists : List (List MetaData)) :
    (Sweep.sweep (fun item => !isHidden item policy) id
        (Sweep.sweep (keptByPolicy policy) change lists)).flatten =
      (filteredItems policy lists).map change ++
        unfilteredItems policy lists := by
  induction lists with
  | nil => rfl
  | cons list rest hypothesis =>
      unfold unfilteredItems filteredItems
      simp only
      by_cases none : list.filter (keptByPolicy policy) = []
      · rw [Sweep.sweep_cons_of_eq_nil none, Sweep.sweep_cons_of_eq_nil rfl,
          if_pos (by simp [none]), if_pos (by simp [none])]
        simpa using hypothesis
      · rw [Sweep.sweep_cons_of_ne_nil none, if_neg (by simpa using none),
          if_neg (by simpa using none)]
        have visible : ((list.filter (keptByPolicy policy)).map change).filter
            (fun item => !isHidden item policy) =
              ((list.filter (keptByPolicy policy)).filter
                fun item => !isHidden item policy).map change := by
          rw [List.filter_map]
          congr 2
          funext item
          simp [same]
        -- The first sweep ends on this list; the second one ends there too
        -- unless everything kept is hidden.
        by_cases shown : ((list.filter (keptByPolicy policy)).any
            fun item => !isHidden item policy) = true
        · rw [if_pos shown, Sweep.sweep_cons_of_ne_nil, visible,
            List.flatten_cons, List.map_id]
          simpa [same] using shown
        · have hidden : (list.filter (keptByPolicy policy)).filter
              (fun item => !isHidden item policy) = [] := by
            apply List.filter_eq_nil_iff.mpr
            intro item listed visible
            exact shown (List.any_eq_true.mpr ⟨item, listed, visible⟩)
          rw [if_neg shown, hidden, Sweep.sweep_cons_of_eq_nil]
          · rw [List.flatten_cons, Sweep.flatten_sweep]
            simp
          · rw [visible, hidden, List.map_nil]

theorem items_applyPolicyTransforms (policy : ResolutionPolicy)
    (failClosed : Bool) (payload : MediaContainer) :
    (applyPolicyTransforms (.ok policy) failClosed payload).items =
      (filteredItems policy payload.lists).map
          (policyTransformMetadata (.ok policy) failClosed) ++
        unfilteredItems policy payload.lists := by
  rw [applyPolicyTransforms, items_applyTo, ← flatten_policySweeps policy
    (isHidden_policyTransformMetadata policy failClosed),
    ← policyFilterMetadata_ok policy failClosed]
  · rfl
  · intro transform listed
    simp only [List.mem_cons, List.not_mem_nil, or_false] at listed
    rcases listed with rfl | rfl
    · rfl
    · rfl

theorem exists_visited_applyPolicyTransforms (policy : ResolutionPolicy)
    (failClosed : Bool) (payload : MediaContainer) :
    ∃ visited : List MetaData,
      (applyPolicyTransforms (.ok policy) failClosed payload).items =
        visited ++ unfilteredItems policy payload.lists ∧
      Avoids (Prohibited policy) visited ∧
      ∀ item ∈ visited, isHidden item policy = false := by
  refine ⟨_, items_applyPolicyTransforms policy failClosed payload, ?_, ?_⟩
  · apply avoids_iff.mpr
    intro item listed
    obtain ⟨origin, -, rfl⟩ := List.mem_map.mp listed
    exact avoids_policyTransformMetadata policy failClosed origin
  · intro item listed
    obtain ⟨origin, among, rfl⟩ := List.mem_map.mp listed
    rw [isHidden_policyTransformMetadata]
    exact not_hidden_of_filteredItems among

theorem avoids_applyPolicyTransforms_iff (policy : ResolutionPolicy)
    (failClosed : Bool) (payload : MediaContainer) :
    Avoids (Prohibited policy)
        (applyPolicyTransforms (.ok policy) failClosed payload).items ↔
      Avoids (Prohibited policy) (unfilteredItems policy payload.lists) := by
  obtain ⟨visited, items, clean, -⟩ :=
    exists_visited_applyPolicyTransforms policy failClosed payload
  rw [items, avoids_append]
  exact and_iff_right clean

/-! The account. -/

/-- The identity of a request is established, and its policy limits the
resolution. -/
structure LimitedAccount (services : PlaybackServices) (config : Config)
    (runtime : PolicySnapshot) (request : RequestContext)
    (policy : ResolutionPolicy) : Prop where
  enabled : runtime.enabled = true
  resolved : ∃ client resolved,
    PlexClient.fromContextWithState request.plex config = .ok client ∧
    services.currentIdentity { client with host := request.upstreamHost } =
      .ok resolved ∧
    runtime.resolve resolved.identity = policy
  limited : policy.isUnrestricted = false

section

variable {services : PlaybackServices} {config : Config}
  {runtime : PolicySnapshot} {parts : PartMediaCache}
  {request : RequestContext} {uri : Uri} {upstream : Upstream}
  {policy : ResolutionPolicy}

theorem LimitedAccount.client
    (account : LimitedAccount services config runtime request policy)
    (path : String) (skipOptionalTransforms : Bool) :
    let depot := requestDepot services.currentIdentity config runtime request
      path skipOptionalTransforms
    ∃ client, plexClientFromDepot config request.plex depot = .ok client ∧
      client.context = request.plex ∧
      currentPolicy services.currentIdentity runtime client = .ok policy ∧
      streamAccount services.currentIdentity runtime depot client =
        .ok (some policy) := by
  obtain ⟨client, resolved, built, identified, applies⟩ := account.resolved
  obtain ⟨host, rfl⟩ := PlexClient.eq_of_fromContextWithState built
  cases required : requiresSecurityContext path with
  | true =>
      let security : RequestSecurityContext :=
        { identity := resolved.identity
          tokenScope := request.tokenScope
          policy := runtime.resolve resolved.identity
          identitySource := resolved.source }
      have state : securityContextMiddleware services.currentIdentity config
          runtime request path = some (.resolved security) := by
        simp [securityContextMiddleware, account.enabled, required, built,
          identified, security]
      refine ⟨{ host := request.upstreamHost, context := request.plex
                securityContext := some security }, ?_, rfl, ?_, ?_⟩
      · simp [plexClientFromDepot, requestDepot, state, built]
      · simp [currentPolicy, account.enabled, security, applies]
      · simp [streamAccount, requestDepot, state, security, applies]
  | false =>
      have state : securityContextMiddleware services.currentIdentity config
          runtime request path = none := by
        simp [securityContextMiddleware, required]
      refine ⟨{ host := request.upstreamHost, context := request.plex }, ?_,
        rfl, ?_, ?_⟩
      · simp [plexClientFromDepot, requestDepot, state, built]
      · simp [currentPolicy, account.enabled, identified, applies]
      · simp [streamAccount, requestDepot, state, identified, applies]

theorem LimitedAccount.serves
    (account : LimitedAccount services config runtime request policy)
    (uri : Uri) :
    Serves services config runtime request uri (.ok policy) := by
  intro skipOptionalTransforms
  obtain ⟨client, built, context, current, -⟩ :=
    account.client uri.path skipOptionalTransforms
  exact ⟨client, built, context, current⟩

theorem LimitedAccount.streamPolicy
    (account : LimitedAccount services config runtime request policy)
    (path : String) (skipOptionalTransforms : Bool) :
    StreamPolicy services.currentIdentity config runtime
      (requestDepot services.currentIdentity config runtime request path
        skipOptionalTransforms) policy where
  enabled := account.enabled
  account := by
    obtain ⟨client, built, -, -, streams⟩ :=
      account.client path skipOptionalTransforms
    exact ⟨request, client, rfl, built, streams⟩

theorem LimitedAccount.displaying
    (account : LimitedAccount services config runtime request policy)
    (settings : DisplaySettings) :
    LimitedAccount services (config.displaying settings) runtime request
      policy :=
  ⟨account.enabled, account.resolved, account.limited⟩

theorem hides_protectedRedirectStream_iff
    (account : LimitedAccount services config runtime request policy)
    {bad : MetaData → Prop} (route : StreamRoute) :
    (∀ rendering : Rendering, (rendering.answer services config runtime parts
        request uri upstream (.protectedRedirectStream route)).Hides bad) ↔
      ((∀ partId, route.partidParam = some partId →
          PartPermitted parts policy partId) →
        upstream.raw.Hides bad) := by
  have restricted : streamRestricted policy = true := by
    simp [streamRestricted, account.limited]
  refine Iff.trans (forall_congr' fun rendering => ?_) (forall_const Rendering)
  have settled := (account.displaying rendering.settings).streamPolicy
    uri.path rendering.skipOptionalTransforms
  unfold Rendering.answer respond
  simp only [protectedRedirectStream_eq_serveStream settled]
  rw [← serveStream_delivered_iff restricted
    (config.displaying rendering.settings)]
  rcases serveStream_of_restricted restricted
    (config.displaying rendering.settings) parts route with passed | refused
  · simp [passed, StreamOutcome.Delivered]
  · simp [refused, StreamOutcome.Delivered, hides_without_container]

/-! Every handler. -/

variable (services config runtime parts request uri upstream policy)

/-- The replies of which a handler shows a limited account no prohibited
version: only the policy routes filter by version, and of their payloads only
the first list that keeps an item. -/
def Undisclosed : Handler → Prop
  | .ownPage => True
  | .emptyHandler => True
  | .proxyRequest => upstream.raw.Hides (Prohibited policy)
  | .protectedRedirectStream route =>
      (∀ partId, route.partidParam = some partId →
        PartPermitted parts policy partId) →
      upstream.raw.Hides (Prohibited policy)
  | .playback enforced =>
      ∀ next, playbackGate services config runtime parts
          (requestDepot services.currentIdentity config runtime request
            uri.path false) uri enforced = .forward next →
        upstream.raw.Hides (Prohibited policy)
  | .transformPolicyResponse =>
      if upstream.status = 200 then
        ∀ payload, upstream.container = some payload →
          Avoids (Prohibited policy) (unfilteredItems policy payload.lists)
      else
        upstream.raw.Hides (Prohibited policy)
  | .cachedHubsResponse _ =>
      ∀ payload, upstream.Delivers payload →
        Avoids (Prohibited policy) (visibleItems (.ok policy) payload)
  | .getCollectionsChildren ids =>
      CleanPages (Prohibited policy) request.plex upstream.children
        (readIds ids)
  | .defaultTransform style =>
      style.isSome = true → ∀ payload, upstream.Delivers payload →
        Avoids (Prohibited policy) payload.items

variable {services config runtime parts request uri upstream policy}

theorem hides_answer_iff
    (account : LimitedAccount services config runtime request policy)
    (handler : Handler) :
    (∀ rendering : Rendering, (rendering.answer services config runtime parts
        request uri upstream handler).Hides (Prohibited policy)) ↔
      Undisclosed services config runtime parts request uri upstream policy
        handler := by
  have byMedia := byMedia_prohibited policy
  have serves := account.serves uri
  cases handler with
  | ownPage =>
      apply iff_of_true
      · intro rendering
        exact hides_without_container 200
      · trivial
  | emptyHandler =>
      apply iff_of_true
      · intro rendering
        exact hides_some.mpr avoids_nil
      · trivial
  | proxyRequest =>
      constructor
      · intro hidden
        exact hidden plainRendering
      · intro clean rendering
        exact clean
  | protectedRedirectStream route =>
      exact hides_protectedRedirectStream_iff account route
  | playback enforced => exact hides_playback_iff enforced
  | transformPolicyResponse =>
      rw [hides_transformPolicyResponse_iff serves]
      simp only [avoids_applyPolicyTransforms_iff, Undisclosed]
  | cachedHubsResponse slots =>
      exact hides_cachedHubsResponse_iff byMedia.stable serves slots
  | getCollectionsChildren ids =>
      exact hides_getCollectionsChildren_iff byMedia.stable serves ids
  | defaultTransform style =>
      exact hides_defaultTransform_iff byMedia serves style

/-- Whatever the route, a limited account is shown no prohibited version
exactly when its handler finds none where it does not look. -/
theorem protected_payload_hidden_iff
    (account : LimitedAccount services config runtime request policy)
    (matchPath : (pattern path : String) → Option Params) (method : Method)
    (parts : PartMediaCache) (uri : Uri) (upstream : Upstream) :
    (∀ rendering : Rendering, (rendering.answer services config runtime parts
        request uri upstream (selectHandler matchPath
          (config.displaying rendering.settings) method uri.path)).Hides
            (Prohibited policy)) ↔
      Undisclosed services config runtime parts request uri upstream policy
        (selectHandler matchPath config method uri.path) :=
  hides_answer_iff account (selectHandler matchPath config method uri.path)

end

/-! The home screen of a viewer limited to 1080p. -/

def fullHdPolicy : ResolutionPolicy where
  limit := .p1080
  maxBitrate := none
  hiddenCollections := []

theorem limitedAccount_viewer :
    LimitedAccount jodieServices viewerConfig jodieRuntime viewerRequest
      fullHdPolicy where
  enabled := rfl
  resolved := ⟨_, _, rfl, rfl, by decide⟩
  limited := rfl

def homeAnswer (media : List Media) : Response :=
  plainRendering.answer jodieServices viewerConfig jodieRuntime Store.empty
    viewerRequest homeUri (homeUpstream media)
    (selectHandler literalMatch viewerConfig .get homeUri.path)

theorem protected_payload_hidden_iff_home :
    (homeAnswer [fullHdVersion]).Hides (Prohibited fullHdPolicy) := by
  apply (protected_payload_hidden_iff limitedAccount_viewer literalMatch .get
    Store.empty homeUri (homeUpstream [fullHdVersion])).mpr
  rw [selectHandler_home]
  intro payload delivers
  cases delivers.2
  decide

theorem home_shows_prohibited_version :
    requiresSecurityContext homeUri.path = true ∧
      ∃ container, (homeAnswer [uhdVersion]).container = some container ∧
        ¬ Avoids (Prohibited fullHdPolicy) container.items := by
  refine ⟨by decide, _, rfl, ?_⟩
  decide

end Replex
