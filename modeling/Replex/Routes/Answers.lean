import Replex.Routes.Renderings

namespace Replex

open Data

/-! What the answers to one request hold, over all renderings. -/

def Config.displaying (config : Config) (settings : DisplaySettings) :
    Config :=
  { config with toDisplaySettings := settings }

def Response.Hides (bad : MetaData → Prop) (response : Response) : Prop :=
  ∀ container, response.container = some container →
    Avoids bad container.items

section

variable (services : PlaybackServices) (config : Config)
  (runtime : PolicySnapshot) (parts : PartMediaCache)
  (request : RequestContext) (uri : Uri) (upstream : Upstream)

def Rendering.answer (rendering : Rendering) (handler : Handler) : Response :=
  let config := config.displaying rendering.settings
  let depot := requestDepot services.currentIdentity config runtime request
    uri.path rendering.skipOptionalTransforms
  respond services config runtime parts depot uri rendering.lookups
    rendering.optionalHoops upstream handler

/-- Handlers get a client for the request, and work under this policy. -/
def Serves (current : Except Unit ResolutionPolicy) : Prop :=
  ∀ skipOptionalTransforms, ∃ client,
    plexClientFromDepot config request.plex
        (requestDepot services.currentIdentity config runtime request uri.path
          skipOptionalTransforms) = .ok client ∧
      client.context = request.plex ∧
      currentPolicy services.currentIdentity runtime client = current

variable {services config runtime parts request uri upstream}
variable {current : Except Unit ResolutionPolicy} {bad : MetaData → Prop}

theorem hides_without_container (status : StatusCode) :
    Response.Hides bad { status } := by
  intro container has
  cases has

theorem hides_some {status : StatusCode} {container : MediaContainer} :
    Response.Hides bad { status, container := some container } ↔
      Avoids bad container.items := by
  constructor
  · intro hides
    exact hides container rfl
  · intro avoids other has
    cases has
    exact avoids

theorem Serves.withClient (serves : Serves services config runtime request uri
    current) (rendering : Rendering) :
    ∃ client : PlexClient,
      presentationFor (config.displaying rendering.settings) rendering.lookups
          client = rendering.presentation request.plex ∧
        currentPolicy services.currentIdentity runtime client = current ∧
        ∀ serve, Replex.withClient (config.displaying rendering.settings)
          (requestDepot services.currentIdentity
            (config.displaying rendering.settings) runtime request uri.path
            rendering.skipOptionalTransforms) serve = serve client := by
  obtain ⟨client, built, context, policy⟩ :=
    serves rendering.skipOptionalTransforms
  refine ⟨client, ?_, policy, ?_⟩
  · simp [presentationFor, Rendering.presentation, context,
      Config.displaying]
  · intro serve
    have built : plexClientFromDepot (config.displaying rendering.settings)
        request.plex (requestDepot services.currentIdentity
          (config.displaying rendering.settings) runtime request uri.path
          rendering.skipOptionalTransforms) = .ok client := built
    have present : (requestDepot services.currentIdentity
        (config.displaying rendering.settings) runtime request uri.path
        rendering.skipOptionalTransforms).requestContext = some request := rfl
    simp only [Replex.withClient, present, built]

def Upstream.Delivers (upstream : Upstream) (payload : MediaContainer) :
    Prop :=
  upstream.status = 200 ∧ upstream.container = some payload

theorem hides_cachedHubsResponse_iff (stable : Stable bad)
    (serves : Serves services config runtime request uri current)
    (slots : Bool) :
    (∀ rendering : Rendering, (rendering.answer services config runtime parts
        request uri upstream (.cachedHubsResponse slots)).Hides bad) ↔
      ∀ payload, upstream.Delivers payload →
        Avoids bad (visibleItems current payload) := by
  constructor
  · intro hidden payload delivers
    obtain ⟨client, -, policy, served⟩ := serves.withClient plainRendering
    have hides := hidden plainRendering
    unfold Rendering.answer respond at hides
    simp only [served] at hides
    simp only [servesEmptySlot, requestDepot, plainRendering, delivers.1,
      delivers.2, policy, Bool.not_true, Bool.false_and, Bool.and_false,
      Bool.false_eq_true, if_false] at hides
    rw [hides_some, items_cachedHubsContainer_skipped] at hides
    exact hides
  · intro clean rendering
    obtain ⟨client, -, policy, served⟩ := serves.withClient rendering
    unfold Rendering.answer respond
    simp only [served, policy]
    split
    · exact hides_some.mpr avoids_nil
    · split
      · rename_i payload ok has
        apply hides_some.mpr
        apply (clean payload ⟨ok, has⟩).of_derived stable
        exact derived_cachedHubsContainer current _ _ payload
      · exact hides_without_container 500

theorem hides_defaultTransform_iff (byMedia : ByMedia bad)
    (serves : Serves services config runtime request uri current)
    (style : Option Style) :
    (∀ rendering : Rendering, (rendering.answer services config runtime parts
        request uri upstream (.defaultTransform style)).Hides bad) ↔
      (style.isSome = true → ∀ payload, upstream.Delivers payload →
        Avoids bad payload.items) := by
  constructor
  · intro hidden known payload delivers
    obtain ⟨style, rfl⟩ := Option.isSome_iff_exists.mp known
    apply (avoids_defaultTransformContainer_iff byMedia request.plex style
      payload).mp
    intro rendering
    obtain ⟨client, presented, -, served⟩ := serves.withClient rendering
    have hides := hidden rendering
    unfold Rendering.answer respond at hides
    simp only [served, presented, delivers.1, delivers.2] at hides
    exact hides_some.mp hides
  · intro clean rendering
    obtain ⟨client, presented, -, served⟩ := serves.withClient rendering
    unfold Rendering.answer respond
    simp only [served, presented]
    split
    · rename_i style payload ok has
      apply hides_some.mpr
      exact (avoids_defaultTransformContainer_iff byMedia request.plex style
        payload).mpr (clean rfl payload ⟨ok, has⟩) rendering
    · exact hides_without_container 500

theorem hides_getCollectionsChildren_iff (stable : Stable bad)
    (serves : Serves services config runtime request uri current)
    (ids : String) :
    (∀ rendering : Rendering, (rendering.answer services config runtime parts
        request uri upstream (.getCollectionsChildren ids)).Hides bad) ↔
      CleanPages bad request.plex upstream.children (readIds ids) := by
  rw [← avoids_collectionsChildrenContainer_iff stable]
  apply forall_congr'
  intro rendering
  obtain ⟨client, presented, -, served⟩ := serves.withClient rendering
  unfold Rendering.answer respond
  simp only [served, presented]
  exact hides_some

theorem hides_playback_iff (enforced : Bool) :
    (∀ rendering : Rendering, (rendering.answer services config runtime parts
        request uri upstream (.playback enforced)).Hides bad) ↔
      ∀ next, playbackGate services config runtime parts
          (requestDepot services.currentIdentity config runtime request
            uri.path false) uri enforced = .forward next →
        upstream.raw.Hides bad := by
  constructor
  · intro hidden next forwarded
    have hides := hidden plainRendering
    unfold Rendering.answer respond at hides
    have same : playbackGate services (config.displaying plainSettings) runtime
        parts (requestDepot services.currentIdentity
          (config.displaying plainSettings) runtime request uri.path true) uri
          enforced = .forward next := forwarded
    simp only [plainRendering, same] at hides
    exact hides
  · intro clean rendering
    unfold Rendering.answer respond
    simp only
    split
    · exact hides_without_container _
    · rename_i next forwarded
      split
      · exact hides_without_container _
      · exact clean next forwarded

theorem hides_transformPolicyResponse_iff
    (serves : Serves services config runtime request uri current) :
    (∀ rendering : Rendering, (rendering.answer services config runtime parts
        request uri upstream .transformPolicyResponse).Hides bad) ↔
      if upstream.status = 200 then
        ∀ payload, upstream.container = some payload →
          Avoids bad (applyPolicyTransforms current runtime.failClosed
            payload).items
      else
        upstream.raw.Hides bad := by
  refine Iff.trans (forall_congr' fun rendering => ?_) (forall_const Rendering)
  obtain ⟨client, -, policy, served⟩ := serves.withClient rendering
  unfold Rendering.answer respond
  simp only [served, policy]
  by_cases ok : upstream.status = 200
  · simp only [ok, ne_eq, not_true_eq_false, if_false, if_true]
    cases upstream.container with
    | none => simp [hides_without_container]
    | some payload => simp [hides_some]
  · simp only [ok, ne_eq, not_false_eq_true, if_true, if_false]

end

/-! A home screen. -/

/-- Matches the patterns without parameters, and the last one. -/
def literalMatch (pattern path : String) : Option Params :=
  if pattern = path then some []
  else if pattern = "<**rest>" then some [("**rest", path)]
  else none

def homeUri : Uri where
  origin := "http://replex"
  path := "/hubs/home"
  queries := ⟨[]⟩

def homeUpstream (media : List Media) : Upstream where
  status := 200
  container := some
    { size := some 1
      hub :=
        [{ title := "Recently Added Movies"
           hubIdentifier := some "home.movies.recent"
           metadata := [{ title := "Dune", type := "movie", media }] }] }
  children _ _ _ := none

theorem selectHandler_home :
    selectHandler literalMatch viewerConfig .get homeUri.path =
      .cachedHubsResponse false := by
  decide

end Replex
