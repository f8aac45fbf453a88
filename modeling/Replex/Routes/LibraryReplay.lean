import Replex.Routes.LibraryCache
import Replex.Routes.PolicyCoverage

namespace Replex

open Data MetaData

/-! What a stored payload is replayed as, next to how it was answered live. -/

/-! Items and containers in which the policy finds nothing to do. -/

theorem pruneChildren_eq_self_iff {policy : ResolutionPolicy}
    {children : List MetaData} :
    pruneChildren policy children = children ↔
      ∀ child ∈ children, filterMediaRecursive policy child = child ∧
        survivesPruning child = true := by
  have whole : ((children.filter fun _ => true).map
        (filterMediaRecursive policy)).filter survivesPruning = children ↔ _ :=
    Sweep.filter_map_filter_eq_self_iff
  rw [pruneChildren_eq]
  simpa using whole

theorem filterMediaRecursive_eq_self_iff (policy : ResolutionPolicy)
    (item : MetaData) :
    filterMediaRecursive policy item = item ↔
      ∀ node ∈ item.nodes,
        (∀ version ∈ node.media, mediaAllowed version policy = true) ∧
          ∀ child ∈ node.childNodes, survivesPruning child = true := by
  induction item using tree_induction with
  | node item children =>
      have parts : filterMediaRecursive policy item = item ↔
          allowedMedia item.media policy = item.media ∧
            pruneChildren policy item.metadata = item.metadata ∧
            pruneChildren policy item.directory = item.directory ∧
            pruneChildren policy item.video = item.video := by
        rw [filterMediaRecursive_eq]
        cases item
        simp
        grind
      have below : (∀ child ∈ item.childNodes,
            filterMediaRecursive policy child = child ∧
              survivesPruning child = true) ↔
          pruneChildren policy item.metadata = item.metadata ∧
            pruneChildren policy item.directory = item.directory ∧
            pruneChildren policy item.video = item.video := by
        simp only [pruneChildren_eq_self_iff, childNodes, List.mem_append]
        grind
      have media : allowedMedia item.media policy = item.media ↔
          ∀ version ∈ item.media, mediaAllowed version policy = true :=
        List.filter_eq_self
      rw [parts, ← below, media, forall_mem_nodes]
      constructor
      · rintro ⟨allowed, each⟩
        refine ⟨⟨allowed, fun child listed => (each child listed).2⟩, ?_⟩
        intro child listed
        exact (children child listed).mp (each child listed).1
      · rintro ⟨⟨allowed, survives⟩, deeper⟩
        refine ⟨allowed, fun child listed => ?_⟩
        exact ⟨(children child listed).mpr (deeper child listed),
          survives child listed⟩

theorem clearMediaRecursive_eq_self_iff (item : MetaData) :
    clearMediaRecursive item = item ↔ ∀ node ∈ item.nodes, node.media = [] := by
  induction item using tree_induction with
  | node item children =>
      have parts : clearMediaRecursive item = item ↔
          item.media = [] ∧
            ∀ child ∈ item.childNodes, clearMediaRecursive child = child := by
        have each (list : List MetaData) :
            list.map clearMediaRecursive = list ↔
              ∀ child ∈ list, clearMediaRecursive child = child := by
          conv_lhs => rhs; rw [← List.map_id list]
          exact List.map_inj_left
        rw [clearMediaRecursive_eq]
        cases item
        simp [childNodes, each]
        grind
      rw [parts, forall_mem_nodes]
      apply and_congr_right
      intro none
      exact forall₂_congr children

/-- The policy has nothing to take from the item, or is not in force. -/
def LeftAlone (current : Except Unit ResolutionPolicy) (failClosed : Bool)
    (item : MetaData) : Prop :=
  match current with
  | .error _ => failClosed = true → ∀ node ∈ item.nodes, node.media = []
  | .ok policy =>
      isHidden item policy = false ∧
        (policy.isUnrestricted = false → ∀ node ∈ item.nodes,
          (∀ version ∈ node.media, mediaAllowed version policy = true) ∧
            ∀ child ∈ node.childNodes, survivesPruning child = true)

/-- Only the list that the passes see counts, and the size that was reported
for it. -/
structure NothingToRemove (current : Except Unit ResolutionPolicy)
    (failClosed : Bool) (container : MediaContainer) : Prop where
  items : ∀ item ∈ container.children, LeftAlone current failClosed item
  size : ∀ size, container.size = some size →
    size = sizeOfLength64 container.children.length

theorem leftAlone_iff (current : Except Unit ResolutionPolicy)
    (failClosed : Bool) (item : MetaData) :
    LeftAlone current failClosed item ↔
      policyFilterMetadata current failClosed item = true ∧
        policyTransformMetadata current failClosed item = item ∧
        visibilityFilterMetadata current item = true := by
  cases current with
  | error failure =>
      cases failClosed with
      | false =>
          simp [LeftAlone, policyFilterMetadata, policyTransformMetadata,
            visibilityFilterMetadata]
      | true =>
          have top : clearMediaRecursive item = item → item.media = [] :=
            fun same => (clearMediaRecursive_eq_self_iff item).mp same item
              (self_mem_nodes item)
          simp only [LeftAlone, ← clearMediaRecursive_eq_self_iff]
          simpa [policyFilterMetadata, policyTransformMetadata,
            visibilityFilterMetadata] using top
  | ok policy =>
      rw [policyFilterMetadata_ok]
      cases limited : policy.isUnrestricted with
      | true =>
          have kept : keptByPolicy policy item = true := by
            rw [← policyFilterMetadata_ok policy failClosed]
            simp [policyFilterMetadata, limited]
          simp [LeftAlone, policyTransformMetadata, visibilityFilterMetadata,
            limited, kept]
      | false =>
          have top : filterMediaRecursive policy item = item →
              keptByPolicy policy item = true := by
            intro same
            have allowed := ((filterMediaRecursive_eq_self_iff policy item).mp
              same item (self_mem_nodes item)).1
            unfold keptByPolicy
            cases versions : item.media with
            | nil => rfl
            | cons version rest =>
                have first := allowed version (versions ▸ List.mem_cons_self)
                simp [first]
          simp only [LeftAlone, limited, true_implies,
            ← filterMediaRecursive_eq_self_iff]
          simp only [policyTransformMetadata, visibilityFilterMetadata, limited,
            Bool.false_eq_true, if_false, Bool.not_eq_true']
          constructor
          · rintro ⟨shown, same⟩
            exact ⟨top same, same, shown⟩
          · rintro ⟨-, same, shown⟩
            exact ⟨shown, same⟩

theorem current_lists (container : MediaContainer) :
    Sweep.current container.lists = container.children := by
  unfold MediaContainer.lists MediaContainer.children Sweep.current
  grind [Sweep.current]

theorem applyPolicyTransforms_eq (current : Except Unit ResolutionPolicy)
    (failClosed : Bool) (payload : MediaContainer) :
    applyPolicyTransforms current failClosed payload =
      (payload.withLists
        (Sweep.sweep (visibilityFilterMetadata current) id
          (Sweep.sweep (policyFilterMetadata current failClosed)
            (policyTransformMetadata current failClosed)
            payload.lists))).resize := by
  have versions := apply_of_plain
    (resolutionPolicyTransform current failClosed) rfl payload
  have lists : ((resolutionPolicyTransform current failClosed).apply
      payload).lists = _ := lists_apply rfl payload
  have four : payload.lists.length = 4 := rfl
  unfold applyPolicyTransforms applyTo
  rw [List.foldl_cons, List.foldl_cons, List.foldl_nil,
    apply_of_plain (collectionVisibilityTransform current) rfl,
    lists, versions, withLists_withLists]
  · rfl
  · rw [Sweep.length_sweep, four]
  · rw [Sweep.length_sweep, Sweep.length_sweep, four]

theorem applyPolicyTransforms_eq_self_iff
    (current : Except Unit ResolutionPolicy) (failClosed : Bool)
    (payload : MediaContainer) :
    applyPolicyTransforms current failClosed payload = payload ↔
      NothingToRemove current failClosed payload := by
  have resized (lists : List (List MetaData)) (four : lists.length = 4) :
      (payload.withLists lists).resize = payload ↔
        lists = payload.lists ∧
          ∀ size, payload.size = some size →
            size = sizeOfLength64 payload.children.length := by
    constructor
    · intro same
      have equal : lists = payload.lists :=
        calc
          lists = (payload.withLists lists).resize.lists :=
            (lists_withLists four).symm
          _ = payload.lists := congrArg MediaContainer.lists same
      subst equal
      refine ⟨rfl, fun size reported => ?_⟩
      have sizes := congrArg MediaContainer.size same
      rw [withLists_lists] at sizes
      simp only [MediaContainer.resize, reported, Option.map_some,
        Option.some.injEq] at sizes
      exact sizes.symm
    · rintro ⟨rfl, size⟩
      have unchanged : (payload.size.map fun _ =>
          sizeOfLength64 payload.children.length) = payload.size := by
        cases reported : payload.size with
        | none => rfl
        | some value => simp [size value reported]
      rw [withLists_lists, MediaContainer.resize, unchanged]
  have four : payload.lists.length = 4 := rfl
  rw [applyPolicyTransforms_eq, resized, Sweep.sweep_sweep_eq_self_iff,
    current_lists]
  · simp only [← leftAlone_iff]
    constructor
    · rintro ⟨items, size⟩
      exact ⟨items, size⟩
    · rintro ⟨items, size⟩
      exact ⟨items, size⟩
  · rw [Sweep.length_sweep, Sweep.length_sweep, four]

/-! One reply, answered live and replayed from the disk. -/

section

variable {identity : PlexClient → Except IdentityError ResolvedIdentity}
  {config : Config} {runtime : PolicySnapshot} {depot : Depot}
  {fromBytes : Bytes → Option MediaContainer}

theorem policyTransformed_eq_some_iff {container : Option MediaContainer}
    {result : MediaContainer} :
    policyTransformed identity config runtime depot container = some result ↔
      ∃ payload request client, container = some payload ∧
        depot.requestContext = some request ∧
        plexClientFromDepot config request.plex depot = .ok client ∧
        applyPolicyTransforms (currentPolicy identity runtime client)
          runtime.failClosed payload = result := by
  unfold policyTransformed
  cases container with
  | none => simp
  | some payload =>
      cases depot.requestContext with
      | none => simp
      | some request =>
          cases built : plexClientFromDepot config request.plex depot with
          | error error => simp [built]
          | ok client => simp [built]

theorem lookup_after_store {reply : LibraryReply}
    (success : reply.isSuccess = true) (nonempty : reply.body ≠ [])
    (key : String) (fetch : LibraryFetch) (disk : DiskCache)
    {entry : LibraryEntry} {container : MediaContainer} :
    (libraryCacheLookup identity config runtime depot fromBytes key
        (libraryCacheStore key fetch reply disk)).1 = some (entry, container) ↔
      entry = { body := reply.body, fetch } ∧
        policyTransformed identity config runtime depot
          (fromBytes reply.body) = some container := by
  have stored : (libraryCacheStore key fetch reply disk).lookup key =
      some { body := reply.body, fetch } := by
    simp [libraryCacheStore, success, nonempty]
  unfold libraryCacheLookup
  simp only [stored]
  cases policyTransformed identity config runtime depot
      (fromBytes reply.body) with
  | none => simp
  | some result => simp [eq_comm]

/-- A stored reply is replayed as it was answered exactly when its status was
200, the one status the live path filters, or the policy has nothing to
remove. -/
theorem replayed_as_answered_iff (reply : LibraryReply)
    (success : reply.isSuccess = true) (nonempty : reply.body ≠ [])
    (key : String) (fetch : LibraryFetch) (disk : DiskCache) :
    (∀ entry container,
        (libraryCacheLookup identity config runtime depot fromBytes key
          (libraryCacheStore key fetch reply disk)).1 =
            some (entry, container) →
        (transformPolicyResponse identity config runtime depot reply.status
          (fromBytes reply.body)).container = some container) ↔
      reply.status = 200 ∨
        ∀ payload request client, fromBytes reply.body = some payload →
          depot.requestContext = some request →
          plexClientFromDepot config request.plex depot = .ok client →
          NothingToRemove (currentPolicy identity runtime client)
            runtime.failClosed payload := by
  simp only [lookup_after_store success nonempty]
  by_cases ok : reply.status = 200
  · apply iff_of_true
    · rintro entry container ⟨-, transformed⟩
      simp [transformPolicyResponse, ok, transformed]
    · exact .inl ok
  · have raw : (transformPolicyResponse identity config runtime depot
        reply.status (fromBytes reply.body)).container =
          fromBytes reply.body := by
      simp [transformPolicyResponse, ok]
    rw [raw, or_iff_right ok]
    constructor
    · intro agree payload request client parsed present built
      apply (applyPolicyTransforms_eq_self_iff _ _ payload).mp
      have transformed : policyTransformed identity config runtime depot
          (fromBytes reply.body) = some _ :=
        policyTransformed_eq_some_iff.mpr
          ⟨payload, request, client, parsed, present, built, rfl⟩
      have same := agree _ _ ⟨rfl, transformed⟩
      rw [parsed] at same
      exact (Option.some.inj same).symm
    · rintro nothing entry container ⟨-, transformed⟩
      obtain ⟨payload, request, client, parsed, present, built, rfl⟩ :=
        policyTransformed_eq_some_iff.mp transformed
      rw [parsed, (applyPolicyTransforms_eq_self_iff _ _ payload).mpr
        (nothing payload request client parsed present built)]

end

/-! A library page with one movie above the limit. -/

def uhdPage : MediaContainer where
  metadata := [{ type := "movie", media := [uhdVersion] }]

def pageBytes (body : Bytes) : Option MediaContainer :=
  if body = [123, 125] then some uhdPage else none

def pageFetch : LibraryFetch where
  token := some "jodie-token"
  canonicalPath := "library:http://x/library/sections/6/all?"

def pageHit (status : StatusCode) : Option (LibraryEntry × MediaContainer) :=
  (libraryCacheLookup noIdentity viewerConfig viewerRuntime
    (viewerDepot fullHdPolicy) pageBytes "page"
    (libraryCacheStore "page" pageFetch { status, body := [123, 125] }
      Store.empty)).1

def pageAnswer (status : StatusCode) : Response :=
  transformPolicyResponse noIdentity viewerConfig viewerRuntime
    (viewerDepot fullHdPolicy) status (pageBytes [123, 125])

theorem replayed_as_answered_iff_ok :
    (pageAnswer 200).container = (pageHit 200).map Prod.snd :=
  (replayed_as_answered_iff { status := 200, body := [123, 125] }
    (by decide) (by decide) "page" pageFetch Store.empty).mpr (.inl rfl)
      { body := [123, 125], fetch := pageFetch } _ rfl

theorem partial_page_replayed_filtered :
    ∃ entry container, pageHit 206 = some (entry, container) ∧
      (pageAnswer 206).container ≠ some container := by
  refine ⟨_, _, rfl, ?_⟩
  intro same
  have sizes := congrArg (Option.map fun container : MediaContainer =>
    container.metadata.length) same
  revert sizes
  decide

end Replex
