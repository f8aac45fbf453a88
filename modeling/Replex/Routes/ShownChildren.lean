import Replex.Routes.Renderings

namespace Replex

open Data MetaData

/-! Which children a row shows, whatever is displayed of them. -/

def Presentation.hiding (presentation : Presentation)
    (leafCount userState : Bool) : Presentation :=
  { presentation with
    settings :=
      { presentation.settings with
        disableLeafCount := leafCount
        disableUserState := userState } }

def MetaData.mapLists (view : MetaData → MetaData) (item : MetaData) :
    MetaData :=
  { item with
    metadata := item.metadata.map view
    directory := item.directory.map view
    video := item.video.map view }

/-- An item up to its style. -/
def unstyled (item : MetaData) : MetaData :=
  { item with
    type := "", art := none, thumb := none, images := []
    style := none, «meta» := none, size := none }

def unstyledRow (hub : MetaData) : MetaData :=
  unstyled (hub.mapLists unstyled)

/-- An item up to everything that display settings rewrite. -/
def identityOf (item : MetaData) : MetaData :=
  { unstyled item with userState := none, leafCount := none }

def rowOf (hub : MetaData) : MetaData :=
  { identityOf (hub.mapLists identityOf) with key := none }

def rowsOf (container : MediaContainer) : List (List MetaData) :=
  container.lists.map (List.map rowOf)

/-- The rows without what counts as watched in the payload as received. -/
def unwatchedOf (presentation : Presentation) (payload : MediaContainer) :
    MediaContainer :=
  applyTo
    [hubRestrictionTransform presentation, hubWatchedTransform presentation]
    payload

/-- Neither setting changes which children are left, and those are the ones
that were received as unwatched. -/
structure ShownAlike (current : Except Unit ResolutionPolicy)
    (presentation : Presentation) (skipOptionalTransforms : Bool)
    (style : Style) (payload : MediaContainer) : Prop where
  cachedHubs : ∀ leafCount userState,
    rowsOf (cachedHubsContainer current
        (presentation.hiding leafCount userState) skipOptionalTransforms
        payload) =
      rowsOf (cachedHubsContainer current presentation
        skipOptionalTransforms payload)
  -- The steps of the cached handler up to its watched filter.
  cachedWatched : ∀ leafCount userState,
    rowsOf (applyTo
        ((hubTransforms (presentation.hiding leafCount userState)).take 3)
        (applyTo [collectionVisibilityTransform current] payload)) =
      rowsOf (unwatchedOf presentation
        (applyTo [collectionVisibilityTransform current] payload))
  default : ∀ leafCount userState,
    rowsOf (defaultTransformContainer
        (presentation.hiding leafCount userState) style payload) =
      rowsOf (unwatchedOf presentation payload)

/-- Without its count of leaves, a child is judged by its views and by whether
any leaf was viewed. -/
def JudgedAlike (child : MetaData) : Prop :=
  ∀ leaves, child.leafCount = some leaves →
    (child.viewedLeafCount = some leaves ↔
      child.viewedLeafCount = some 0 ∨
        ∃ views, child.viewCount = some views ∧ 0 < views)

def LeafCountsIrrelevant (presentation : Presentation)
    (payload : MediaContainer) : Prop :=
  ∀ hub ∈ Sweep.reached (hubRestrictionFilter presentation) payload.lists,
    hub.isHub = true → excludeWatched presentation hub = true →
      ∀ child ∈ hub.childrenMut, JudgedAlike child

/-! Rows seen through a view. -/

section

variable {item : MetaData} {view : MetaData → MetaData}

theorem mapLists_modifyChildren {change seen : List MetaData → List MetaData}
    (changes : ∀ list, (change list).map view = seen (list.map view)) :
    (item.modifyChildren change).mapLists view =
      (item.mapLists view).modifyChildren seen := by
  unfold modifyChildren mapLists
  simp only [List.isEmpty_map]
  split
  · rw [changes]
  · split
    · rw [changes]
    · split
      · rw [changes]
      · rw [changes]

theorem mapLists_mapLists (inner outer : MetaData → MetaData) :
    (item.mapLists inner).mapLists outer = item.mapLists (outer ∘ inner) := by
  simp [mapLists]

theorem childrenMut_mapLists :
    (item.mapLists view).childrenMut = item.childrenMut.map view := by
  unfold childrenMut mapLists
  simp only [List.isEmpty_map]
  split
  · rfl
  · split
    · rfl
    · split
      · rfl
      · rfl

theorem modifyChildren_modifyChildren (later : List MetaData → List MetaData)
    (change : MetaData → MetaData) :
    (item.modifyChildren (List.map change)).modifyChildren later =
      item.modifyChildren fun list => later (list.map change) := by
  unfold modifyChildren
  by_cases metadata : item.metadata.isEmpty = true
  · by_cases video : item.video.isEmpty = true
    · by_cases directory : item.directory.isEmpty = true
      · simp [metadata, video, directory]
      · simp [metadata, video, directory]
    · simp [metadata, video]
  · simp [metadata]

end

theorem unstyled_modifyChildren (change : List MetaData → List MetaData)
    (item : MetaData) :
    unstyled (item.modifyChildren change) =
      (unstyled item).modifyChildren change := by
  unfold modifyChildren
  simp only [unstyled]
  grind

theorem rowOf_modifyChildren {change seen : List MetaData → List MetaData}
    (changes : ∀ list,
      (change list).map identityOf = seen (list.map identityOf))
    (hub : MetaData) :
    rowOf (hub.modifyChildren change) = (rowOf hub).modifyChildren seen := by
  rw [rowOf, mapLists_modifyChildren changes]
  unfold modifyChildren
  simp only [rowOf, identityOf, unstyled]
  grind

theorem childrenMut_rowOf (hub : MetaData) :
    (rowOf hub).childrenMut = hub.childrenMut.map identityOf :=
  childrenMut_mapLists

theorem rowOf_modifyChildren_eq_iff
    {first second : List MetaData → List MetaData} {hub : MetaData} :
    rowOf (hub.modifyChildren first) = rowOf (hub.modifyChildren second) ↔
      (first hub.childrenMut).map identityOf =
        (second hub.childrenMut).map identityOf := by
  unfold modifyChildren childrenMut
  split
  · simp [rowOf, mapLists, identityOf, unstyled]
  · split
    · simp [rowOf, mapLists, identityOf, unstyled]
    · split
      · simp [rowOf, mapLists, identityOf, unstyled]
      · simp [rowOf, mapLists, identityOf, unstyled]

theorem rowOf_unstyledRow (hub : MetaData) :
    rowOf (unstyledRow hub) = rowOf hub := by
  calc rowOf (unstyledRow hub)
      = { identityOf ((hub.mapLists unstyled).mapLists identityOf) with
          key := none } := rfl
    _ = rowOf hub := by
        rw [mapLists_mapLists]
        rfl

/-! What each step shows of a row. -/

section

variable (presentation : Presentation)

theorem unstyled_mediaStyleMetadata (options : PlexContext) (style : Style)
    (item : MetaData) :
    unstyled (mediaStyleMetadata options style item) = unstyled item := by
  cases style with
  | shelf => rfl
  | hero =>
      simp only [mediaStyleMetadata]
      split
      · rfl
      · rfl

theorem unstyledRow_mediaStyleMetadata (options : PlexContext) (style : Style)
    (item : MetaData) :
    unstyledRow (mediaStyleMetadata options style item) =
      unstyledRow item := by
  cases style with
  | shelf => rfl
  | hero =>
      simp only [mediaStyleMetadata]
      split
      · rfl
      · rfl

theorem unstyled_heroChild (options : PlexContext) (child : MetaData) :
    unstyled (heroChild options child) = unstyled child :=
  unstyled_mediaStyleMetadata options .hero _

theorem unstyledRow_hubStyleMetadata (item : MetaData) :
    unstyledRow (hubStyleMetadata presentation item) = unstyledRow item := by
  have children (list : List MetaData) :
      (list.map (heroChild presentation.options)).map unstyled =
        list.map unstyled := by
    rw [List.map_map]
    exact List.map_congr_left fun child _ => unstyled_heroChild _ child
  unfold hubStyleMetadata
  split
  · unfold unstyledRow setChildren MetaData.children mapLists
    by_cases metadata : item.metadata.isEmpty = true
    · by_cases directory : item.directory.isEmpty = true
      · by_cases video : item.video.isEmpty = true
        · simp [metadata, directory, video, unstyled]
        · simp [metadata, directory, video, unstyled, children]
      · simp [metadata, directory, unstyled, children]
    · simp [metadata, unstyled, children]
  · rfl

theorem unstyledRow_hubWatched (item : MetaData) :
    unstyledRow ((hubWatchedTransform presentation).transformMetadata item) =
      (hubWatchedTransform presentation).transformMetadata
        (unstyledRow item) := by
  have same : ((unstyledRow item).isHub &&
      excludeWatched presentation (unstyledRow item)) =
        (item.isHub && excludeWatched presentation item) := rfl
  simp only [hubWatchedTransform, same]
  split
  · have kept (list : List MetaData) :
        (list.filter fun child => !child.isWatched).map unstyled =
          (list.map unstyled).filter fun child => !child.isWatched := by
      rw [List.filter_map]
      rfl
    rw [unstyledRow, mapLists_modifyChildren kept, unstyled_modifyChildren]
    rfl
  · rfl

theorem unstyledRow_userState (item : MetaData) :
    unstyledRow ((userStateTransform presentation).transformMetadata item) =
      (userStateTransform presentation).transformMetadata
        (unstyledRow item) := by
  have same : (unstyledRow item).isHub = item.isHub := rfl
  simp only [userStateTransform, same]
  split
  · have marked (list : List MetaData) :
        (list.map (hideUserState presentation)).map unstyled =
          (list.map unstyled).map (hideUserState presentation) := by
      rw [List.map_map, List.map_map]
      rfl
    rw [unstyledRow, mapLists_modifyChildren marked, unstyled_modifyChildren]
    rfl
  · rfl

theorem rowOf_userState (item : MetaData) :
    rowOf ((userStateTransform presentation).transformMetadata item) =
      rowOf item := by
  simp only [userStateTransform]
  split
  · have same : rowOf (item.modifyChildren
        (·.map (hideUserState presentation))) =
          rowOf (item.modifyChildren id) := by
      apply rowOf_modifyChildren_eq_iff.mpr
      rw [List.map_map]
      rfl
    rw [same, modifyChildren_id]
  · rfl

theorem rowOf_hubKey (item : MetaData) :
    rowOf (hubKeyTransform.transformMetadata item) = rowOf item := by
  simp only [hubKeyTransform]
  split
  · split
    · rfl
    · rfl
  · rfl

theorem rowOf_hubWatched_styled {item styled : MetaData}
    (same : unstyledRow styled = unstyledRow item) :
    rowOf ((hubWatchedTransform presentation).transformMetadata styled) =
      rowOf ((hubWatchedTransform presentation).transformMetadata item) := by
  rw [← rowOf_unstyledRow, unstyledRow_hubWatched, same,
    ← unstyledRow_hubWatched, rowOf_unstyledRow]

theorem excludeWatched_modifyChildren
    (change : List MetaData → List MetaData) (hub : MetaData) :
    excludeWatched presentation (hub.modifyChildren change) =
      excludeWatched presentation hub := by
  obtain ⟨_, _, _, same⟩ := exists_modifyChildren change hub
  rw [same]
  rfl

theorem isHub_modifyChildren (change : List MetaData → List MetaData)
    (hub : MetaData) : (hub.modifyChildren change).isHub = hub.isHub := by
  obtain ⟨_, _, _, same⟩ := exists_modifyChildren change hub
  rw [same]
  rfl

theorem isHub_userState (item : MetaData) :
    ((userStateTransform presentation).transformMetadata item).isHub =
      item.isHub := by
  simp only [userStateTransform]
  split
  · exact isHub_modifyChildren _ item
  · rfl

theorem excludeWatched_userState (item : MetaData) :
    excludeWatched presentation
        ((userStateTransform presentation).transformMetadata item) =
      excludeWatched presentation item := by
  simp only [userStateTransform]
  split
  · exact excludeWatched_modifyChildren presentation _ item
  · rfl

end

theorem judgedAlike_iff {child : MetaData} :
    JudgedAlike child ↔
      isWatched { child with leafCount := none } = isWatched child := by
  unfold JudgedAlike isWatched
  cases child.leafCount with
  | none => simp
  | some leaves =>
      cases child.viewedLeafCount <;> cases child.viewCount <;>
        simp <;> grind

section

variable {presentation : Presentation}

theorem hubWatched_of_excluded {item : MetaData} (hub : item.isHub = true)
    (excludes : excludeWatched presentation item = true) :
    (hubWatchedTransform presentation).transformMetadata item =
      item.modifyChildren (·.filter fun child => !child.isWatched) := by
  simp only [hubWatchedTransform, hub, excludes, Bool.and_self, if_true]

theorem hubWatched_of_not_excluded {item : MetaData}
    (not : ¬ (item.isHub = true ∧ excludeWatched presentation item = true)) :
    (hubWatchedTransform presentation).transformMetadata item = item := by
  simp only [hubWatchedTransform]
  rw [if_neg (by simpa using not)]

/-- Whether a marked child is dropped, when its count of leaves is hidden. -/
theorem isWatched_hideUserState (userState : Bool) (child : MetaData) :
    (hideUserState (presentation.hiding true userState) child).isWatched =
      isWatched { child with leafCount := none } :=
  rfl

theorem filter_hideUserState (leafCount userState : Bool)
    (list : List MetaData) :
    ((list.map (hideUserState (presentation.hiding leafCount userState))).filter
        fun child => !child.isWatched).map identityOf =
      (list.filter fun child =>
        !(hideUserState (presentation.hiding leafCount userState)
          child).isWatched).map identityOf := by
  rw [List.filter_map, List.map_map]
  rfl

theorem hubWatched_userState {item : MetaData} (hub : item.isHub = true)
    (excludes : excludeWatched presentation item = true)
    (leafCount userState : Bool) :
    rowOf ((hubWatchedTransform presentation).transformMetadata
        ((userStateTransform
          (presentation.hiding leafCount userState)).transformMetadata item)) =
        rowOf ((hubWatchedTransform presentation).transformMetadata item) ↔
      (item.childrenMut.filter fun child =>
          !(hideUserState (presentation.hiding leafCount userState)
            child).isWatched).map identityOf =
        (item.childrenMut.filter fun child =>
          !child.isWatched).map identityOf := by
  have first : (userStateTransform
      (presentation.hiding leafCount userState)).transformMetadata item =
        item.modifyChildren
          (·.map (hideUserState (presentation.hiding leafCount userState))) := by
    simp only [userStateTransform, hub, if_true]
  rw [first, hubWatched_of_excluded hub excludes, hubWatched_of_excluded,
    modifyChildren_modifyChildren, rowOf_modifyChildren_eq_iff,
    filter_hideUserState]
  · rwa [isHub_modifyChildren]
  · rwa [excludeWatched_modifyChildren]

theorem rowOf_hubWatched_userState_iff {item : MetaData} :
    (∀ leafCount userState,
        rowOf ((hubWatchedTransform presentation).transformMetadata
          ((userStateTransform
            (presentation.hiding leafCount userState)).transformMetadata
              item)) =
          rowOf
            ((hubWatchedTransform presentation).transformMetadata item)) ↔
      (item.isHub = true → excludeWatched presentation item = true →
        ∀ child ∈ item.childrenMut, JudgedAlike child) := by
  by_cases filtered :
      item.isHub = true ∧ excludeWatched presentation item = true
  · obtain ⟨hub, excludes⟩ := filtered
    simp only [hubWatched_userState hub excludes]
    have judged (userState : Bool) :
        (item.childrenMut.filter fun child =>
            !(hideUserState (presentation.hiding true userState)
              child).isWatched).map identityOf =
            (item.childrenMut.filter fun child =>
              !child.isWatched).map identityOf ↔
          ∀ child ∈ item.childrenMut, JudgedAlike child := by
      have judges (child : MetaData) :
          (!(hideUserState (presentation.hiding true userState)
            child).isWatched) = !(identityOf child).isWatched := rfl
      rw [Sweep.map_filter_eq_iff (fun child => !MetaData.isWatched child)
        judges]
      apply forall₂_congr
      intro child _
      rw [judgedAlike_iff, isWatched_hideUserState, Bool.not_inj_iff]
    constructor
    · intro same _ _
      exact (judged true).mp (same true true)
    · intro alike leafCount userState
      cases leafCount with
      | false => rfl
      | true => exact (judged userState).mpr (alike hub excludes)
  · constructor
    · intro _ hub excludes
      exact absurd ⟨hub, excludes⟩ filtered
    · intro _ leafCount userState
      rw [hubWatched_of_not_excluded filtered, hubWatched_of_not_excluded,
        rowOf_userState]
      rw [isHub_userState]
      have same := excludeWatched_userState
        (presentation.hiding leafCount userState) item
      rwa [show excludeWatched presentation = excludeWatched
        (presentation.hiding leafCount userState) from rfl, same]

/-! What a whole handler shows. -/

theorem lists_apply_of_all {transform : Transform}
    (keeps : transform.filterMetadata = fun _ => true)
    (plain : ∀ container : MediaContainer,
      (transform.transformMediacontainer container).lists = container.lists)
    (container : MediaContainer) :
    (transform.apply container).lists =
      Sweep.modifyCurrent (List.map transform.transformMetadata)
        container.lists := by
  rw [Transform.apply, plain, lists_withLists_loop, keeps,
    Sweep.sweep_of_all fun _ => rfl]

theorem lists_modifyChildren {change : List MetaData → List MetaData}
    (empty : change [] = []) (container : MediaContainer) :
    (container.modifyChildren change).lists =
      Sweep.modifyCurrent change container.lists := by
  unfold MediaContainer.modifyChildren MediaContainer.lists
  by_cases metadata : container.metadata.isEmpty = true
  · by_cases hub : container.hub.isEmpty = true
    · by_cases video : container.video.isEmpty = true
      · by_cases directory : container.directory.isEmpty = true
        · simp_all [Sweep.modifyCurrent]
        · simp_all [Sweep.modifyCurrent]
      · simp_all [Sweep.modifyCurrent]
    · simp_all [Sweep.modifyCurrent]
  · simp_all [Sweep.modifyCurrent]

def limitRows (count : Int32) (rows : List MetaData) : List MetaData :=
  rows.map fun row =>
    if 0 ≤ count.toInt ∧ count.toInt.toNat < row.childrenMut.length then
      row.modifyChildren (·.take count.toInt.toNat)
    else
      row

theorem map_limitChildren (count : Int32) (hubs : List MetaData) :
    (hubs.map (limitChildren count)).map rowOf =
      limitRows count (hubs.map rowOf) := by
  rw [limitRows, List.map_map, List.map_map]
  apply List.map_congr_left
  intro hub _
  rw [Function.comp_apply, Function.comp_apply, limitChildren,
    childrenMut_rowOf, List.length_map]
  split
  · rw [← rowOf_modifyChildren fun list => List.map_take]
    rfl
  · rfl

/-- Shaping reads nothing of a hub but its row. -/
theorem rowsOf_shapeCanonicalHubs_congr {left right : MediaContainer}
    (same : rowsOf left = rowsOf right) (options : PlexContext) :
    rowsOf (shapeCanonicalHubs options left) =
      rowsOf (shapeCanonicalHubs options right) := by
  let shape (hubs : List MetaData) : List MetaData :=
    if options.excludeContinueWatching then
      hubs.filter fun hub =>
        !hub.hubIdentifier.any (Text.startsWith · "home.continue")
    else
      hubs
  have shaped (hubs : List MetaData) :
      (shape hubs).map rowOf = shape (hubs.map rowOf) := by
    simp only [shape]
    split
    · rw [List.filter_map]
      rfl
    · rfl
  unfold rowsOf at same ⊢
  unfold shapeCanonicalHubs
  cases options.count with
  | none =>
      have dropped := Sweep.map_modifyCurrent shaped
      have none : shape [] = [] := by simp [shape]
      rw [lists_modifyChildren none, lists_modifyChildren none, dropped, same,
        dropped]
  | some count =>
      have limited (hubs : List MetaData) :
          ((shape hubs).map (limitChildren count)).map rowOf =
            limitRows count (shape (hubs.map rowOf)) := by
        rw [map_limitChildren, shaped]
      have dropped := @Sweep.map_modifyCurrent _ _ rowOf
        (fun hubs => (shape hubs).map (limitChildren count))
        (fun rows => limitRows count (shape rows)) limited
      have none : (shape []).map (limitChildren count) = [] := by simp [shape]
      rw [lists_modifyChildren none, lists_modifyChildren none, dropped, same,
        dropped]

theorem rowsOf_applyTo (transforms : List Transform)
    (container : MediaContainer) :
    rowsOf (applyTo transforms container) =
      rowsOf (transforms.foldl
        (fun container transform => transform.apply container) container) :=
  rfl

theorem rowsOf_userState (container : MediaContainer) :
    rowsOf ((userStateTransform presentation).apply container) =
      rowsOf container := by
  have marked : (userStateTransform presentation).filterMetadata =
      fun _ => true := rfl
  rw [rowsOf, lists_apply_of_all marked fun _ => rfl,
    Sweep.map_modifyCurrent_of_same (rowOf_userState presentation), rowsOf]

theorem rowsOf_hubKey (container : MediaContainer) :
    rowsOf (hubKeyTransform.apply container) = rowsOf container := by
  have keyed : hubKeyTransform.filterMetadata = fun _ => true := rfl
  rw [rowsOf, lists_apply_of_all keyed fun _ => rfl,
    Sweep.map_modifyCurrent_of_same rowOf_hubKey, rowsOf]

section

variable (leafCount userState : Bool)

@[simp] theorem hubRestriction_hiding :
    hubRestrictionTransform (presentation.hiding leafCount userState) =
      hubRestrictionTransform presentation :=
  rfl

@[simp] theorem hubStyle_hiding :
    hubStyleTransform (presentation.hiding leafCount userState) =
      hubStyleTransform presentation :=
  rfl

@[simp] theorem mediaStyle_hiding (style : Style) :
    mediaStyleTransform (presentation.hiding leafCount userState) style =
      mediaStyleTransform presentation style :=
  rfl

@[simp] theorem hubWatched_hiding :
    hubWatchedTransform (presentation.hiding leafCount userState) =
      hubWatchedTransform presentation :=
  rfl

@[simp] theorem hubInterleave_hiding :
    hubInterleaveTransform (presentation.hiding leafCount userState) =
      hubInterleaveTransform presentation :=
  rfl

theorem rowsOf_hubTransforms (container : MediaContainer) :
    rowsOf (applyTo
        (hubTransforms (presentation.hiding leafCount userState)) container) =
      rowsOf (applyTo (hubTransforms presentation) container) := by
  simp only [rowsOf_applyTo, hubTransforms, List.foldl_cons, List.foldl_nil,
    rowsOf_hubKey, rowsOf_userState, hubRestriction_hiding, hubStyle_hiding,
    hubWatched_hiding, hubInterleave_hiding]

theorem rowsOf_cachedHubs (current : Except Unit ResolutionPolicy)
    (skip : Bool) (payload : MediaContainer) :
    rowsOf (cachedHubsContainer current
        (presentation.hiding leafCount userState) skip payload) =
      rowsOf (cachedHubsContainer current presentation skip payload) := by
  unfold cachedHubsContainer
  cases skip with
  | true => simp only [if_true]
  | false =>
      apply rowsOf_shapeCanonicalHubs_congr
      exact rowsOf_hubTransforms leafCount userState _

theorem rowsOf_cachedWatched (payload : MediaContainer) :
    rowsOf (applyTo
        ((hubTransforms (presentation.hiding leafCount userState)).take 3)
        payload) =
      rowsOf (unwatchedOf presentation payload) := by
  have styled : (hubStyleTransform presentation).filterMetadata =
      fun _ => true := rfl
  have watched : (hubWatchedTransform presentation).filterMetadata =
      fun _ => true := rfl
  simp only [unwatchedOf, rowsOf_applyTo, hubTransforms, List.take_succ_cons,
    List.take_zero, List.foldl_cons, List.foldl_nil, hubRestriction_hiding,
    hubStyle_hiding, hubWatched_hiding]
  rw [rowsOf, rowsOf, lists_apply_of_all watched fun _ => rfl,
    lists_apply_of_all styled fun _ => rfl,
    lists_apply_of_all watched fun _ => rfl, Sweep.modifyCurrent_map_map]
  apply Sweep.map_modifyCurrent_eq_iff.mpr
  intro item _
  exact rowOf_hubWatched_styled presentation
    (unstyledRow_hubStyleMetadata presentation item)

theorem rowsOf_default_iff (style : Style) (payload : MediaContainer) :
    rowsOf (defaultTransformContainer
          (presentation.hiding leafCount userState) style payload) =
        rowsOf (unwatchedOf presentation payload) ↔
      ∀ hub ∈ Sweep.reached (hubRestrictionFilter presentation) payload.lists,
        rowOf ((hubWatchedTransform presentation).transformMetadata
            ((userStateTransform
              (presentation.hiding leafCount userState)).transformMetadata
                hub)) =
          rowOf ((hubWatchedTransform presentation).transformMetadata hub) := by
  have styled : (mediaStyleTransform presentation style).filterMetadata =
      fun _ => true := rfl
  have marked : (userStateTransform (presentation.hiding leafCount
      userState)).filterMetadata = fun _ => true := rfl
  have watched : (hubWatchedTransform presentation).filterMetadata =
      fun _ => true := rfl
  have plain (container : MediaContainer) :
      ((mediaStyleTransform presentation style).transformMediacontainer
        container).lists = container.lists := by
    cases style with
    | hero => rfl
    | shelf => rfl
  have visible : Sweep.current
      ((hubRestrictionTransform presentation).apply payload).lists =
        Sweep.reached (hubRestrictionFilter presentation) payload.lists := by
    rw [lists_apply rfl]
    exact Sweep.current_sweep_id _ _
  simp only [defaultTransformContainer, unwatchedOf, rowsOf_applyTo,
    List.foldl_cons, List.foldl_nil, rowsOf_hubKey, hubRestriction_hiding,
    mediaStyle_hiding, hubWatched_hiding]
  rw [rowsOf, rowsOf, lists_apply_of_all watched fun _ => rfl,
    lists_apply_of_all marked fun _ => rfl, lists_apply_of_all styled plain,
    lists_apply_of_all watched fun _ => rfl, Sweep.modifyCurrent_map_map,
    Sweep.modifyCurrent_map_map, Sweep.map_modifyCurrent_eq_iff, visible]
  apply forall₂_congr
  intro hub _
  have restyled := rowOf_hubWatched_styled presentation (calc
    unstyledRow
        ((userStateTransform (presentation.hiding leafCount
          userState)).transformMetadata
            (mediaStyleMetadata presentation.options style hub))
      = unstyledRow
          ((userStateTransform (presentation.hiding leafCount
            userState)).transformMetadata hub) := by
        rw [unstyledRow_userState, unstyledRow_mediaStyleMetadata,
          ← unstyledRow_userState])
  rw [← restyled]
  rfl

end

theorem shown_alike_iff {current : Except Unit ResolutionPolicy}
    {skipOptionalTransforms : Bool} {style : Style}
    {payload : MediaContainer} :
    ShownAlike current presentation skipOptionalTransforms style payload ↔
      LeafCountsIrrelevant presentation payload := by
  constructor
  · intro alike hub listed
    apply rowOf_hubWatched_userState_iff.mp
    intro leafCount userState
    exact (rowsOf_default_iff leafCount userState style payload).mp
      (alike.default leafCount userState) hub listed
  · intro irrelevant
    constructor
    · intro leafCount userState
      exact rowsOf_cachedHubs leafCount userState current _ payload
    · intro leafCount userState
      exact rowsOf_cachedWatched leafCount userState _
    · intro leafCount userState
      apply (rowsOf_default_iff leafCount userState style payload).mpr
      intro hub listed
      exact rowOf_hubWatched_userState_iff.mpr (irrelevant hub listed)
        leafCount userState

end

/-- The default settings of a client that tells nothing of itself. -/
def plainPresentation : Presentation where
  settings := {}
  options := {}
  collection _ := none
  sectionCollections _ := none

/-- A show of which nothing was seen goes with the row's watched ones, for its
count of leaves is gone when it is judged. -/
theorem unseen_show_is_dropped :
    ¬ ∀ (current : Except Unit ResolutionPolicy) (presentation : Presentation)
      (skipOptionalTransforms : Bool) (style : Style)
      (payload : MediaContainer),
      ShownAlike current presentation skipOptionalTransforms style payload := by
  intro every
  let unseen : MetaData :=
    { title := "Dark", leafCount := some 10, viewedLeafCount := some 0 }
  let hub : MetaData :=
    { hubIdentifier := some "tv.recentlyadded", metadata := [unseen] }
  have alike := (every (.error ()) plainPresentation false .shelf
    { hub := [hub] }).default true false
  have counts := congrArg
    (List.map (List.map fun row => row.childrenMut.length)) alike
  revert counts
  decide +kernel

end Replex
