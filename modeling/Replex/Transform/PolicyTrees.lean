import Replex.Transform.ResolutionPolicy

namespace Replex

open Data MetaData

/-! What filtering under a policy leaves of a tree. -/

theorem childNodes_filterMediaRecursive (policy : ResolutionPolicy)
    (item : MetaData) :
    (filterMediaRecursive policy item).childNodes =
      pruneChildren policy item.childNodes := by
  rw [filterMediaRecursive_eq]
  simp only [childNodes, pruneChildren_eq, List.map_append, List.filter_append]

def isPlayableKind (item : MetaData) : Bool :=
  ["movie", "episode", "clip", "track"].contains item.type

theorem survivesPruning_eq (child : MetaData) :
    survivesPruning child =
      (!isPlayableKind child || !child.media.isEmpty ||
        !child.childNodes.isEmpty) := by
  have empty : child.childNodes.isEmpty =
      (child.metadata.isEmpty && child.directory.isEmpty &&
        child.video.isEmpty) := by
    rw [Bool.eq_iff_iff]
    simp [childNodes, and_assoc]
  unfold survivesPruning isPlayableKind
  rw [empty]
  cases child.media <;> simp [Bool.or_assoc]

theorem exists_mem_nodes {item : MetaData} {property : MetaData → Prop} :
    (∃ node ∈ item.nodes, property node) ↔
      property item ∨
        ∃ child ∈ item.childNodes, ∃ node ∈ child.nodes, property node := by
  have none := @forall_mem_nodes item fun node => ¬ property node
  grind

/-- A reason to stay in the tree, for a node and for everything above it. -/
def Outlasts (policy : ResolutionPolicy) (node : MetaData) : Prop :=
  isPlayableKind node = false ∨
    ∃ version ∈ node.media, mediaAllowed version policy = true

theorem survivesPruning_iff (policy : ResolutionPolicy) (item : MetaData) :
    survivesPruning (filterMediaRecursive policy item) = true ↔
      ∃ node ∈ item.nodes, Outlasts policy node := by
  induction item using tree_induction with
  | node item children =>
      have kind : isPlayableKind (filterMediaRecursive policy item) =
          isPlayableKind item := by
        rw [filterMediaRecursive_eq]
        rfl
      have below : pruneChildren policy item.childNodes ≠ [] ↔
          ∃ child ∈ item.childNodes, ∃ node ∈ child.nodes,
            Outlasts policy node := by
        rw [pruneChildren_eq, Ne, List.filter_eq_nil_iff]
        simp only [List.mem_map, forall_exists_index, and_imp,
          forall_apply_eq_imp_iff₂, not_forall, not_not]
        constructor
        · rintro ⟨child, listed, stays⟩
          exact ⟨child, listed, (children child listed).mp stays⟩
        · rintro ⟨child, listed, stays⟩
          exact ⟨child, listed, (children child listed).mpr stays⟩
      have versions : (allowedMedia item.media policy) ≠ [] ↔
          ∃ version ∈ item.media, mediaAllowed version policy = true := by
        rw [Ne, allowedMedia, List.filter_eq_nil_iff]
        simp only [not_forall, not_not, exists_prop]
      rw [exists_mem_nodes, ← below, survivesPruning_eq, kind,
        media_filterMediaRecursive, childNodes_filterMediaRecursive, Outlasts,
        ← versions]
      simp only [Bool.or_eq_true, Bool.not_eq_true', List.isEmpty_eq_false_iff]

/-! Two policies, one after the other. -/

def stricter (first second : ResolutionPolicy) : ResolutionPolicy :=
  if first.limit ≤ second.limit then first else second

theorem mediaAllowed_mono {strict lax : ResolutionPolicy}
    (laxer : strict.limit ≤ lax.limit) {version : Media}
    (allowed : mediaAllowed version strict = true) :
    mediaAllowed version lax = true := by
  unfold mediaAllowed at allowed ⊢
  cases unlimited : lax.isUnrestricted with
  | true => rfl
  | false =>
      have limited : strict.isUnrestricted = false := by
        rw [ResolutionPolicy.isUnrestricted_eq_false_iff] at unlimited ⊢
        rintro equal
        rw [equal] at laxer
        apply unlimited
        revert laxer
        cases lax.limit <;> decide
      rw [limited, Bool.false_or] at allowed
      rw [Bool.false_or]
      cases known : classify version with
      | none => simp [known] at allowed
      | some limit =>
          simp only [known, decide_eq_true_eq] at allowed ⊢
          exact le_trans allowed laxer

theorem mediaAllowed_stricter (first second : ResolutionPolicy)
    (version : Media) :
    mediaAllowed version (stricter first second) =
      (mediaAllowed version second && mediaAllowed version first) := by
  rw [Bool.eq_iff_iff, Bool.and_eq_true]
  unfold stricter
  split
  next strict =>
    constructor
    · intro allowed
      exact ⟨mediaAllowed_mono strict allowed, allowed⟩
    · exact fun both => both.2
  next lax =>
    have strict := le_of_lt (not_le.mp lax)
    constructor
    · intro allowed
      exact ⟨allowed, mediaAllowed_mono strict allowed⟩
    · exact fun both => both.1

theorem Outlasts.of_stricter {first second : ResolutionPolicy}
    {node : MetaData} (stays : Outlasts (stricter first second) node) :
    Outlasts second node := by
  rcases stays with kind | ⟨version, listed, allowed⟩
  · exact .inl kind
  · rw [mediaAllowed_stricter, Bool.and_eq_true] at allowed
    exact .inr ⟨version, listed, allowed.1⟩

theorem filterMediaRecursive_filterMediaRecursive
    (first second : ResolutionPolicy) (item : MetaData) :
    filterMediaRecursive first (filterMediaRecursive second item) =
      filterMediaRecursive (stricter first second) item := by
  induction item using tree_induction with
  | node item children =>
      have versions : allowedMedia (allowedMedia item.media second) first =
          allowedMedia item.media (stricter first second) := by
        unfold allowedMedia
        rw [List.filter_filter]
        apply List.filter_congr
        intro version _
        rw [mediaAllowed_stricter, Bool.and_comm]
      have pruned (list : List MetaData)
          (part : ∀ child ∈ list, child ∈ item.childNodes) :
          pruneChildren first (pruneChildren second list) =
            pruneChildren (stricter first second) list := by
        induction list with
        | nil => rfl
        | cons child rest hypothesis =>
            have same := children child (part child List.mem_cons_self)
            have later := hypothesis fun other listed =>
              part other (List.mem_cons_of_mem child listed)
            -- What the stricter policy keeps, the second one has kept before.
            have stays : survivesPruning
                  (filterMediaRecursive (stricter first second) child) = true →
                survivesPruning (filterMediaRecursive second child) = true := by
              rw [survivesPruning_iff, survivesPruning_iff]
              rintro ⟨node, listed, stays⟩
              exact ⟨node, listed, stays.of_stricter⟩
            simp only [pruneChildren]
            by_cases kept :
                survivesPruning (filterMediaRecursive second child) = true
            · rw [if_pos kept, pruneChildren]
              simp only [same, later]
            · rw [if_neg kept, later, if_neg fun both => kept (stays both)]
      rw [filterMediaRecursive_eq first, filterMediaRecursive_eq second,
        filterMediaRecursive_eq (stricter first second)]
      dsimp only
      rw [versions, pruned, pruned, pruned] <;> simp [childNodes] <;> grind

/-! Every node that is left, next to the one it was. -/

mutual
inductive Trimmed (policy : ResolutionPolicy) : MetaData → MetaData → Prop
  | node {item : MetaData} {metadata directory video : List MetaData}
      (inMetadata : TrimmedList policy item.metadata metadata)
      (inDirectory : TrimmedList policy item.directory directory)
      (inVideo : TrimmedList policy item.video video) :
      Trimmed policy item
        { item with
          media := item.media.filter (mediaAllowed · policy)
          metadata, directory, video }

inductive TrimmedList (policy : ResolutionPolicy) :
    List MetaData → List MetaData → Prop
  | nil : TrimmedList policy [] []
  | kept {child result : MetaData} {rest results : List MetaData}
      (below : Trimmed policy child result)
      (later : TrimmedList policy rest results) :
      TrimmedList policy (child :: rest) (result :: results)
  | dropped {child : MetaData} {rest results : List MetaData}
      (later : TrimmedList policy rest results) :
      TrimmedList policy (child :: rest) results
end

theorem trimmed_filterMediaRecursive (policy : ResolutionPolicy)
    (item : MetaData) :
    Trimmed policy item (filterMediaRecursive policy item) := by
  induction item using tree_induction with
  | node item children =>
      have pruned (list : List MetaData)
          (part : ∀ child ∈ list, child ∈ item.childNodes) :
          TrimmedList policy list (pruneChildren policy list) := by
        induction list with
        | nil => exact .nil
        | cons child rest hypothesis =>
            have later := hypothesis fun other listed =>
              part other (List.mem_cons_of_mem child listed)
            rw [pruneChildren]
            split
            · exact .kept (children child (part child List.mem_cons_self)) later
            · exact .dropped later
      rw [filterMediaRecursive_eq]
      apply Trimmed.node
      · exact pruned _ (by simp [childNodes]; grind)
      · exact pruned _ (by simp [childNodes]; grind)
      · exact pruned _ (by simp [childNodes]; grind)

/-- Only what a policy allows matters to the filter. -/
theorem filterMediaRecursive_congr {policy other : ResolutionPolicy}
    (alike : ∀ version,
      mediaAllowed version policy = mediaAllowed version other)
    (item : MetaData) :
    filterMediaRecursive policy item = filterMediaRecursive other item := by
  induction item using tree_induction with
  | node item children =>
      have pruned (list : List MetaData)
          (part : ∀ child ∈ list, child ∈ item.childNodes) :
          pruneChildren policy list = pruneChildren other list := by
        rw [pruneChildren_eq, pruneChildren_eq]
        congr 1
        apply List.map_congr_left
        intro child listed
        exact children child (part child listed)
      have versions :
          allowedMedia item.media policy = allowedMedia item.media other := by
        apply List.filter_congr
        intro version _
        exact alike version
      rw [filterMediaRecursive_eq policy, filterMediaRecursive_eq other]
      rw [versions, pruned, pruned, pruned] <;> simp [childNodes] <;> grind

/-- Filtering twice is filtering once under the stricter policy, and what is
left has the versions it may have, in their order. -/
theorem filtering_composes (first second : ResolutionPolicy)
    (item : MetaData) :
    filterMediaRecursive first (filterMediaRecursive second item) =
        filterMediaRecursive (stricter first second) item ∧
      filterMediaRecursive first (filterMediaRecursive first item) =
        filterMediaRecursive first item ∧
      filterMediaRecursive first (filterMediaRecursive second item) =
        filterMediaRecursive second (filterMediaRecursive first item) ∧
      Trimmed first item (filterMediaRecursive first item) := by
  refine ⟨filterMediaRecursive_filterMediaRecursive first second item, ?_, ?_,
    trimmed_filterMediaRecursive first item⟩
  · rw [filterMediaRecursive_filterMediaRecursive, stricter, if_pos le_rfl]
  · rw [filterMediaRecursive_filterMediaRecursive,
      filterMediaRecursive_filterMediaRecursive]
    apply filterMediaRecursive_congr
    intro version
    rw [mediaAllowed_stricter, mediaAllowed_stricter, Bool.and_comm]

/-! The condition at the top and the one inside a tree. -/

/-- Whether an item is kept does not depend on where it stands. -/
structure DepthIndependent (policy : ResolutionPolicy) (failClosed : Bool)
    (item : MetaData) : Prop where
  alike : policyFilterMetadata (.ok policy) failClosed item =
    survivesPruning (filterMediaRecursive policy item)
  withoutMedia : item.media = [] →
    policyFilterMetadata (.ok policy) failClosed item = true ∧
      survivesPruning (filterMediaRecursive policy item) = true
  prohibited : item.media ≠ [] →
    (∀ version ∈ item.media, mediaAllowed version policy = false) →
      policyFilterMetadata (.ok policy) failClosed item = false ∧
        survivesPruning (filterMediaRecursive policy item) = false

theorem policyFilterMetadata_restricted {policy : ResolutionPolicy}
    (restricted : policy.isUnrestricted = false) (failClosed : Bool)
    (item : MetaData) :
    policyFilterMetadata (.ok policy) failClosed item = true ↔
      item.media = [] ∨
        ∃ version ∈ item.media, mediaAllowed version policy = true := by
  simp [policyFilterMetadata, restricted]

/-- At the top an item stays for want of versions; below it stays for its kind
or for what it still holds. -/
theorem depth_independent_iff {policy : ResolutionPolicy}
    (restricted : policy.isUnrestricted = false) (failClosed : Bool)
    (item : MetaData) :
    DepthIndependent policy failClosed item ↔
      (∃ version ∈ item.media, mediaAllowed version policy = true) ∨
        (item.media = [] ↔ ∃ node ∈ item.nodes, Outlasts policy node) := by
  have top := policyFilterMetadata_restricted restricted failClosed item
  have below := survivesPruning_iff policy item
  constructor
  · intro independent
    by_cases permitted :
        ∃ version ∈ item.media, mediaAllowed version policy = true
    · exact .inl permitted
    · right
      rw [← below, ← independent.alike, top]
      exact ⟨.inl, fun stays => stays.resolve_right permitted⟩
  · rintro (⟨version, listed, allowed⟩ | same)
    · have outlasts : Outlasts policy item := .inr ⟨version, listed, allowed⟩
      have kept := top.mpr (.inr ⟨version, listed, allowed⟩)
      have stays := below.mpr ⟨item, self_mem_nodes item, outlasts⟩
      refine ⟨kept.trans stays.symm, fun _ => ⟨kept, stays⟩, ?_⟩
      intro _ none
      rw [none version listed] at allowed
      cases allowed
    · rw [← below] at same
      refine ⟨?_, ?_, ?_⟩
      · rw [Bool.eq_iff_iff, top, ← same]
        constructor
        · rintro (none | ⟨version, listed, allowed⟩)
          · exact none
          · exact same.mpr (below.mpr
              ⟨item, self_mem_nodes item, .inr ⟨version, listed, allowed⟩⟩)
        · exact .inl
      · intro none
        exact ⟨top.mpr (.inl none), same.mp none⟩
      · intro some prohibited
        rw [Bool.eq_false_iff, Bool.eq_false_iff, Ne, Ne, top, ← same]
        refine ⟨?_, some⟩
        rintro (none | ⟨version, listed, allowed⟩)
        · exact some none
        · rw [prohibited version listed] at allowed
          cases allowed

def bothVersions : List Media :=
  [{ id := 1, videoResolution := some "4k" },
    { id := 2, videoResolution := some "1080" }]

def prohibitedEpisode : MetaData where
  type := "episode"
  media := [{ id := 3, videoResolution := some "4k" }]

/-- One episode is prohibited, the other one has a permitted version. -/
def mixedShow : MetaData where
  type := "show"
  metadata :=
    [{ type := "season"
       metadata :=
        [prohibitedEpisode, { type := "episode", media := bothVersions }] }]

theorem mixed_show_alike_at_every_depth :
    DepthIndependent { limit := .p1080 } true mixedShow ∧
      DepthIndependent { limit := .p1080 } true
        { type := "movie", media := bothVersions } ∧
      DepthIndependent { limit := .p1080 } true prohibitedEpisode := by
  have restricted : ResolutionPolicy.isUnrestricted { limit := .p1080 } =
      false := rfl
  refine ⟨(depth_independent_iff restricted true _).mpr (.inr ?_),
    (depth_independent_iff restricted true _).mpr (.inl ?_),
    (depth_independent_iff restricted true _).mpr (.inr ?_)⟩
  · exact iff_of_true rfl
      ⟨mixedShow, self_mem_nodes _, .inl (by decide +kernel)⟩
  · exact ⟨_, List.mem_cons_of_mem _ List.mem_cons_self, by decide +kernel⟩
  · refine iff_of_false (List.cons_ne_nil _ _) ?_
    rintro ⟨node, listed, outlasts⟩
    cases List.mem_singleton.mp listed
    revert outlasts
    unfold Outlasts
    decide +kernel

/-- A film that came without versions stays in a row and goes from a hub. -/
theorem film_without_versions_is_kept_only_at_the_top :
    ¬ ∀ (policy : ResolutionPolicy) (failClosed : Bool) (item : MetaData),
      policy.isUnrestricted = false →
        DepthIndependent policy failClosed item := by
  intro every
  have independent := every { limit := .p1080 } true { type := "movie" } rfl
  have nested := (independent.withoutMedia rfl).2
  revert nested
  decide +kernel

end Replex
