import Replex.Routes.Disclosure

namespace Replex

open Data MetaData

/-! Which containers the visibility passes rid of hidden collections at every
depth. -/

def Hidden (policy : ResolutionPolicy) (node : MetaData) : Prop :=
  isHidden node policy = true

instance (policy : ResolutionPolicy) : DecidablePred (Hidden policy) :=
  fun _ => inferInstanceAs (Decidable (_ = true))

theorem stable_hidden (policy : ResolutionPolicy) : Stable (Hidden policy) := by
  intro origin result restyled hidden
  unfold Hidden isHidden isCollectionHub isHub at *
  rw [restyled.title, restyled.context, restyled.hubIdentifier] at hidden
  rcases restyled.type with same | other
  · rw [same] at hidden
    exact hidden
  · have untyped : (result.type == "collection") = false := by simpa using other
    rw [untyped, Bool.or_false] at hidden
    simp only [Bool.and_eq_true, Bool.or_eq_true] at hidden ⊢
    exact ⟨.inl hidden.1, hidden.2⟩

/-! What pruning leaves below an item. -/

mutual
/-- Whether a child outlasts the pruning, as the child itself says: playable
kinds need a permitted version or a child that outlasts it. -/
def survives (policy : ResolutionPolicy) (item : MetaData) : Bool :=
  match item with
  | item@{ metadata, directory, video, .. } =>
      policy.isUnrestricted ||
        !(["movie", "episode", "clip", "track"].contains item.type) ||
        item.media.any (mediaAllowed · policy) ||
        anySurvives policy metadata || anySurvives policy directory ||
        anySurvives policy video

def anySurvives (policy : ResolutionPolicy) : List MetaData → Bool
  | [] => false
  | child :: rest => survives policy child || anySurvives policy rest
end

mutual
def keptNodes (policy : ResolutionPolicy) (item : MetaData) : List MetaData :=
  match item with
  | item@{ metadata, directory, video, .. } =>
      item :: (keptBelow policy metadata ++ keptBelow policy directory ++
        keptBelow policy video)

def keptBelow (policy : ResolutionPolicy) : List MetaData → List MetaData
  | [] => []
  | child :: rest =>
      (if survives policy child then keptNodes policy child else []) ++
        keptBelow policy rest
end

theorem anySurvives_eq (policy : ResolutionPolicy) (list : List MetaData) :
    anySurvives policy list = list.any (survives policy) := by
  induction list with
  | nil => rfl
  | cons child rest hypothesis => simp [anySurvives, hypothesis]

theorem survives_eq (policy : ResolutionPolicy) (item : MetaData) :
    survives policy item =
      (policy.isUnrestricted ||
        !(["movie", "episode", "clip", "track"].contains item.type) ||
        item.media.any (mediaAllowed · policy) ||
        item.childNodes.any (survives policy)) := by
  cases item
  simp only [survives, anySurvives_eq, childNodes, List.any_append,
    Bool.or_assoc]

theorem mem_keptBelow {policy : ResolutionPolicy} {list : List MetaData}
    {node : MetaData} :
    node ∈ keptBelow policy list ↔
      ∃ child ∈ list, survives policy child = true ∧
        node ∈ keptNodes policy child := by
  induction list with
  | nil => simp [keptBelow]
  | cons child rest hypothesis =>
      cases kept : survives policy child with
      | true => simp [keptBelow, hypothesis, kept]
      | false => simp [keptBelow, hypothesis, kept]

theorem mem_keptNodes {policy : ResolutionPolicy} {item node : MetaData} :
    node ∈ keptNodes policy item ↔
      node = item ∨ ∃ child ∈ item.childNodes,
        survives policy child = true ∧ node ∈ keptNodes policy child := by
  cases item
  simp only [keptNodes, childNodes, List.mem_cons, List.mem_append,
    mem_keptBelow]
  grind

theorem keptNodes_of_unrestricted {policy : ResolutionPolicy}
    (unrestricted : policy.isUnrestricted = true) {item node : MetaData} :
    node ∈ keptNodes policy item ↔ node ∈ item.nodes := by
  induction item using tree_induction with
  | node item children =>
      rw [mem_keptNodes, mem_nodes]
      have all (child : MetaData) : survives policy child = true := by
        simp [survives_eq, unrestricted]
      grind

/-- The pruning looks at the filtered child, and sees what the child itself
says. -/
theorem survivesPruning_filterMediaRecursive {policy : ResolutionPolicy}
    (limited : policy.isUnrestricted = false) (item : MetaData) :
    survivesPruning (filterMediaRecursive policy item) =
      survives policy item := by
  induction item using tree_induction with
  | node item children =>
      have below (list : List MetaData)
          (part : ∀ child ∈ list, child ∈ item.childNodes) :
          (pruneChildren policy list).isEmpty =
            !list.any (survives policy) := by
        rw [pruneChildren_eq, List.filter_map, List.isEmpty_map]
        have same : list.filter (survivesPruning ∘
            filterMediaRecursive policy) = list.filter (survives policy) := by
          apply List.filter_congr
          intro child listed
          exact children child (part child listed)
        rw [same]
        induction list with
        | nil => rfl
        | cons child rest hypothesis => grind
      have metadata := below item.metadata (by simp [childNodes]; grind)
      have directory := below item.directory (by simp [childNodes]; grind)
      have video := below item.video (by simp [childNodes]; grind)
      have media : (allowedMedia item.media policy).isEmpty =
          !item.media.any (mediaAllowed · policy) := by
        unfold allowedMedia
        induction item.media with
        | nil => rfl
        | cons version rest hypothesis => grind
      rw [filterMediaRecursive_eq, survives_eq, survivesPruning]
      simp only [metadata, directory, video, media, limited, childNodes,
        List.any_append, Bool.false_or, Bool.not_not]
      grind

theorem isHidden_filterMediaRecursive (policy : ResolutionPolicy)
    (item : MetaData) :
    isHidden (filterMediaRecursive policy item) policy =
      isHidden item policy := by
  rw [filterMediaRecursive_eq]
  rfl

theorem avoids_hidden_filterMediaRecursive_iff {policy : ResolutionPolicy}
    (limited : policy.isUnrestricted = false) (item : MetaData) :
    Avoids (Hidden policy) [filterMediaRecursive policy item] ↔
      ∀ node ∈ keptNodes policy item, ¬ Hidden policy node := by
  induction item using tree_induction with
  | node item children =>
      have pruned (list : List MetaData) :
          pruneChildren policy list =
            (list.filter (survives policy)).map
              (filterMediaRecursive policy) := by
        rw [pruneChildren_eq, List.filter_map]
        congr 2
        funext child
        exact survivesPruning_filterMediaRecursive limited child
      have nodes : (filterMediaRecursive policy item).childNodes =
          (item.childNodes.filter (survives policy)).map
            (filterMediaRecursive policy) := by
        rw [filterMediaRecursive_eq]
        simp only [childNodes, pruned, List.filter_append, List.map_append]
      have top : Hidden policy (filterMediaRecursive policy item) ↔
          Hidden policy item := by
        unfold Hidden
        rw [isHidden_filterMediaRecursive]
      rw [avoids_singleton, top, nodes, avoids_iff]
      constructor
      · rintro ⟨shown, below⟩ node listed
        rcases mem_keptNodes.mp listed with rfl | ⟨child, among, kept, under⟩
        · exact shown
        · apply (children child among).mp ?_ node under
          apply below
          exact List.mem_map.mpr
            ⟨child, List.mem_filter.mpr ⟨among, kept⟩, rfl⟩
      · intro every
        refine ⟨every item (mem_keptNodes.mpr (.inl rfl)), ?_⟩
        intro changed listed
        obtain ⟨child, among, rfl⟩ := List.mem_map.mp listed
        obtain ⟨part, kept⟩ := List.mem_filter.mp among
        apply (children child part).mpr
        intro node under
        exact every node (mem_keptNodes.mpr (.inr ⟨child, part, kept, under⟩))

theorem avoids_hidden_policyTransformMetadata_iff (policy : ResolutionPolicy)
    (failClosed : Bool) (item : MetaData) :
    Avoids (Hidden policy)
        [policyTransformMetadata (.ok policy) failClosed item] ↔
      ∀ node ∈ keptNodes policy item, ¬ Hidden policy node := by
  simp only [policyTransformMetadata]
  cases limited : policy.isUnrestricted with
  | true =>
      rw [if_pos rfl]
      unfold Avoids
      simp only [listNodes, List.append_nil, keptNodes_of_unrestricted limited]
  | false =>
      rw [if_neg Bool.false_ne_true]
      exact avoids_hidden_filterMediaRecursive_iff limited item

/-! Where a payload may have hidden collections. -/

/-- Only at the top of the first list that has something else to show. -/
def HiddenOnTopOnly (policy : ResolutionPolicy) :
    List (List MetaData) → Prop
  | [] => True
  | list :: rest =>
      if list.all (isHidden · policy) then
        HiddenOnTopOnly policy rest
      else
        (∀ item ∈ list, ¬ Hidden policy item →
          Avoids (Hidden policy) item.childNodes) ∧
        Avoids (Hidden policy) rest.flatten

/-- The same, as far as the items and children without a permitted version
are left out. -/
def HiddenOnTopOfKept (policy : ResolutionPolicy) :
    List (List MetaData) → Prop
  | [] => True
  | list :: rest =>
      let kept := list.filter (keptByPolicy policy)
      if kept.isEmpty then
        HiddenOnTopOfKept policy rest
      else if kept.all (isHidden · policy) then
        HiddenOnTopOnly policy rest
      else
        (∀ item ∈ kept, ¬ Hidden policy item →
          ∀ child ∈ item.childNodes, survives policy child = true →
            ∀ node ∈ keptNodes policy child, ¬ Hidden policy node) ∧
        Avoids (Hidden policy) rest.flatten

theorem avoids_visible_iff (policy : ResolutionPolicy)
    (lists : List (List MetaData)) :
    Avoids (Hidden policy)
        (Sweep.reached (fun item => !isHidden item policy) lists ++
          Sweep.unreached (fun item => !isHidden item policy) lists) ↔
      HiddenOnTopOnly policy lists := by
  induction lists with
  | nil => simp [Sweep.reached, Sweep.unreached, HiddenOnTopOnly]
  | cons list rest hypothesis =>
      have empty : (list.filter fun item => !isHidden item policy).isEmpty =
          list.all (isHidden · policy) := by
        induction list with
        | nil => rfl
        | cons item items hypothesis => grind
      unfold Sweep.reached Sweep.unreached HiddenOnTopOnly
      rw [empty]
      split
      · exact hypothesis
      · rw [avoids_append]
        apply and_congr_left'
        rw [avoids_iff]
        constructor
        · intro each item listed shown
          exact (avoids_singleton.mp (each item (List.mem_filter.mpr
            ⟨listed, by simpa [Hidden] using shown⟩))).2
        · intro each item among
          obtain ⟨listed, visible⟩ := List.mem_filter.mp among
          have shown : ¬ Hidden policy item := by simpa [Hidden] using visible
          exact avoids_singleton.mpr ⟨shown, each item listed shown⟩

theorem avoids_filtered_iff (policy : ResolutionPolicy) (failClosed : Bool)
    (lists : List (List MetaData)) :
    Avoids (Hidden policy)
        ((filteredItems policy lists).map
            (policyTransformMetadata (.ok policy) failClosed) ++
          unfilteredItems policy lists) ↔
      HiddenOnTopOfKept policy lists := by
  induction lists with
  | nil => simp [filteredItems, unfilteredItems, HiddenOnTopOfKept]
  | cons list rest hypothesis =>
      unfold filteredItems unfilteredItems HiddenOnTopOfKept
      simp only
      split
      · exact hypothesis
      · have every : (list.filter (keptByPolicy policy)).all
              (isHidden · policy) =
            !(list.filter (keptByPolicy policy)).any
              fun item => !isHidden item policy := by
          rw [List.not_any_eq_all_not]
          simp
        rw [every]
        split
        next shown =>
            rw [shown, Bool.not_true, if_neg Bool.false_ne_true, avoids_append]
            apply and_congr_left'
            rw [avoids_iff]
            constructor
            · intro each item among visible child below kept node under
              have changed := each _ (List.mem_map.mpr ⟨item,
                List.mem_filter.mpr ⟨among, by simpa [Hidden] using visible⟩,
                rfl⟩)
              exact (avoids_hidden_policyTransformMetadata_iff policy
                failClosed item).mp changed node
                (mem_keptNodes.mpr (.inr ⟨child, below, kept, under⟩))
            · intro each changed listed
              obtain ⟨item, among, rfl⟩ := List.mem_map.mp listed
              obtain ⟨part, visible⟩ := List.mem_filter.mp among
              have shown : ¬ Hidden policy item := by
                simpa [Hidden] using visible
              apply (avoids_hidden_policyTransformMetadata_iff policy
                failClosed item).mpr
              intro node under
              rcases mem_keptNodes.mp under with
                rfl | ⟨child, below, kept, deeper⟩
              · exact shown
              · exact each item part shown child below kept node deeper
        next hidden =>
            have none : (list.filter (keptByPolicy policy)).filter
                (fun item => !isHidden item policy) = [] := by
              apply List.filter_eq_nil_iff.mpr
              intro item listed visible
              exact hidden (List.any_eq_true.mpr ⟨item, listed, visible⟩)
            rw [Bool.not_eq_true] at hidden
            rw [hidden, Bool.not_false, if_pos rfl, none, List.map_nil,
              List.nil_append]
            exact avoids_visible_iff policy rest

/-- The policy routes, and the hub surface under every presentation, show no
hidden collection at any depth exactly when the payload has them nowhere but
where the passes look. -/
theorem hidden_at_every_depth_iff (policy : ResolutionPolicy)
    (payload : MediaContainer) :
    ((∀ failClosed, Avoids (Hidden policy)
        (applyPolicyTransforms (.ok policy) failClosed payload).items) ↔
      HiddenOnTopOfKept policy payload.lists) ∧
    ((∀ presentation skipOptionalTransforms, Avoids (Hidden policy)
        (cachedHubsContainer (.ok policy) presentation skipOptionalTransforms
          payload).items) ↔
      HiddenOnTopOnly policy payload.lists) := by
  constructor
  · simp only [items_applyPolicyTransforms, avoids_filtered_iff,
      forall_const]
  · have visible : visibleItems (.ok policy) payload =
        Sweep.reached (fun item => !isHidden item policy) payload.lists ++
          Sweep.unreached (fun item => !isHidden item policy) payload.lists :=
      rfl
    rw [← avoids_visible_iff, ← visible]
    constructor
    · intro every
      have skipped := every (plainRendering.presentation {}) true
      rwa [items_cachedHubsContainer_skipped] at skipped
    · intro avoids presentation skipOptionalTransforms
      exact avoids.of_derived (stable_hidden policy)
        (derived_cachedHubsContainer _ presentation skipOptionalTransforms
          payload)

/-! A collection inside a row, and one in a list behind the rows. -/

def lateNight : MetaData where
  type := "collection"
  title := "Late Night"

theorem hidden_collection_inside_row :
    let policy : ResolutionPolicy :=
      { limit := .unlimited, maxBitrate := none,
        hiddenCollections := ["Late Night"] }
    let payload : MediaContainer :=
      { hub := [{ type := "mixed", title := "Recently Added",
                  metadata := [lateNight] }] }
    (∃ node ∈ listNodes
        (applyPolicyTransforms (.ok policy) true payload).items,
      Hidden policy node) ∧
    ∃ node ∈ listNodes (cachedHubsContainer (.ok policy)
        (plainRendering.presentation {}) false payload).items,
      Hidden policy node := by
  decide

end Replex
