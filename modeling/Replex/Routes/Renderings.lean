import Replex.Routes.Surfaces

namespace Replex

open Data MetaData

/-! What the handlers can show of a payload, over all renderings. -/

/-- What may vary between two answers to one request: settings that shape the
display, lookups, and what the client is spared. -/
structure Rendering where
  settings : DisplaySettings
  lookups : Lookups
  skipOptionalTransforms : Bool
  optionalHoops : Uri → HoopOutcome

def plainSettings : DisplaySettings where
  hubRestrictions := false
  interleave := false
  excludeWatched := false
  disableUserState := false
  disableLeafCount := false

/-- The rendering that leaves a payload alone as far as any can. -/
def plainRendering : Rendering where
  settings := plainSettings
  lookups := { collection := fun _ => none, sectionCollections := fun _ => none }
  skipOptionalTransforms := true
  optionalHoops := .forward

instance : Inhabited Rendering := ⟨plainRendering⟩

def Rendering.presentation (rendering : Rendering) (options : PlexContext) :
    Presentation where
  toLookups := rendering.lookups
  settings := rendering.settings
  options := options

/-! The hub surface. -/

theorem mem_items_modifyChildren {container : MediaContainer}
    {change : List MetaData → List MetaData} {item : MetaData}
    (listed : item ∈ (container.modifyChildren change).items) :
    item ∈ container.items ∨
      ∃ list, item ∈ change list ∧ list ⊆ container.items := by
  unfold MediaContainer.items MediaContainer.lists
    MediaContainer.modifyChildren at *
  grind

theorem derived_container_modifyChildren
    {change : List MetaData → List MetaData}
    (each : ∀ list, Derived list (change list)) (container : MediaContainer) :
    Derived container.items (container.modifyChildren change).items := by
  apply derived_iff.mpr
  intro item listed
  rcases mem_items_modifyChildren listed with had | ⟨list, made, part⟩
  · apply derived_of_subset
    simpa using had
  · exact (derived_iff.mp (each list) item made).mono part

theorem derived_limitChildren (count : Int32) (hub : MetaData) :
    Derived [hub] [limitChildren count hub] := by
  unfold limitChildren
  split
  · have shorter := derived_modifyChildren (fun list =>
      derived_of_subset (List.take_subset count.toInt.toNat list)) hub
    exact shorter.trans
      (derived_of_restyled ⟨rfl, rfl, rfl, rfl, .inl rfl⟩ rfl)
  · exact derived_self hub

theorem derived_shapeCanonicalHubs (options : PlexContext)
    (container : MediaContainer) :
    Derived container.items (shapeCanonicalHubs options container).items := by
  apply derived_container_modifyChildren
  intro hubs
  have kept : Derived hubs
      (if options.excludeContinueWatching then
        hubs.filter fun hub =>
          !hub.hubIdentifier.any (Text.startsWith · "home.continue")
      else hubs) := by
    split
    · exact derived_of_subset (List.filter_subset_self hubs)
    · exact derived_of_subset (List.Subset.refl hubs)
  simp only
  split
  · exact kept.trans (derived_map (derived_limitChildren _) _)
  · exact kept

theorem presents_hubTransforms (presentation : Presentation) :
    ∀ transform ∈ hubTransforms presentation, transform.Presents := by
  intro transform listed
  simp only [hubTransforms, List.mem_cons, List.not_mem_nil, or_false]
    at listed
  rcases listed with rfl | rfl | rfl | rfl | rfl | rfl
  · exact presents_of_filter _
  · exact presents_hubStyle presentation
  · exact presents_hubWatched presentation
  · exact presents_hubInterleave presentation
  · exact presents_userState presentation
  · exact presents_hubKey

def visibleItems (current : Except Unit ResolutionPolicy)
    (payload : MediaContainer) : List MetaData :=
  Sweep.reached (visibilityFilterMetadata current) payload.lists ++
    Sweep.unreached (visibilityFilterMetadata current) payload.lists

theorem items_visibility (current : Except Unit ResolutionPolicy)
    (payload : MediaContainer) :
    (applyTo [collectionVisibilityTransform current] payload).items =
      visibleItems current payload := by
  rw [items_applyTo]
  · simp [Sweep.flatten_sweep, collectionVisibilityTransform, visibleItems]
  · intro transform listed
    cases List.mem_singleton.mp listed
    rfl

theorem derived_cachedHubsContainer (current : Except Unit ResolutionPolicy)
    (presentation : Presentation) (skipOptionalTransforms : Bool)
    (payload : MediaContainer) :
    Derived (visibleItems current payload)
      (cachedHubsContainer current presentation skipOptionalTransforms
        payload).items := by
  rw [← items_visibility]
  unfold cachedHubsContainer
  simp only
  split
  · exact derived_of_subset (List.Subset.refl _)
  · apply Derived.trans ?_ (derived_shapeCanonicalHubs _ _)
    exact derived_applyTo (presents_hubTransforms presentation) _

theorem items_cachedHubsContainer_skipped
    (current : Except Unit ResolutionPolicy) (presentation : Presentation)
    (payload : MediaContainer) :
    (cachedHubsContainer current presentation true payload).items =
      visibleItems current payload := by
  rw [← items_visibility]
  rfl

/-! Versions that no transform hides. -/

/-- A kind of node told by its versions alone. -/
def ByMedia (bad : MetaData → Prop) : Prop :=
  ∀ left right : MetaData, left.media = right.media → (bad left ↔ bad right)

theorem ByMedia.stable {bad : MetaData → Prop} (byMedia : ByMedia bad) :
    Stable bad := by
  intro origin result restyled found
  exact (byMedia result origin restyled.media).mp found

/-- What is bad in a container still shows after the transform. -/
structure Transform.Reveals (bad : MetaData → Prop) (transform : Transform) :
    Prop where
  keeps : ∀ item, transform.filterMetadata item = true
  item : ∀ item, Avoids bad [transform.transformMetadata item] →
    Avoids bad [item]
  container : ∀ container : MediaContainer,
    Avoids bad (transform.transformMediacontainer container).items →
      Avoids bad container.items

section

variable {bad : MetaData → Prop}

theorem Avoids.of_apply {transform : Transform}
    (reveals : transform.Reveals bad) {container : MediaContainer}
    (avoids : Avoids bad (transform.apply container).items) :
    Avoids bad container.items := by
  have looped := reveals.container _ avoids
  rw [MediaContainer.items, lists_withLists_loop, Sweep.flatten_sweep,
    avoids_append] at looped
  rw [MediaContainer.items,
    ← Sweep.reached_append_unreached reveals.keeps container.lists,
    avoids_append]
  refine ⟨?_, looped.2⟩
  apply avoids_iff.mpr
  intro item listed
  apply reveals.item
  exact avoids_iff.mp looped.1 _ (List.mem_map_of_mem listed)

theorem Avoids.of_applyTo {transforms : List Transform}
    (reveals : ∀ transform ∈ transforms, transform.Reveals bad)
    {container : MediaContainer}
    (avoids : Avoids bad (applyTo transforms container).items) :
    Avoids bad container.items := by
  unfold applyTo at avoids
  rw [items_resize] at avoids
  induction transforms generalizing container with
  | nil => exact avoids
  | cons transform transforms hypothesis =>
      apply Avoids.of_apply (reveals transform List.mem_cons_self)
      apply hypothesis ?_ avoids
      intro other listed
      exact reveals other (List.mem_cons_of_mem transform listed)

theorem reveals_of_metadata (byMedia : ByMedia bad)
    {change : MetaData → MetaData}
    (media : ∀ item, (change item).media = item.media)
    (children : ∀ item, (change item).childNodes = item.childNodes) :
    Transform.Reveals bad { transformMetadata := change } where
  keeps _ := rfl
  item item avoids := by
    obtain ⟨top, below⟩ := avoids_singleton.mp avoids
    rw [children item] at below
    exact avoids_singleton.mpr
      ⟨fun found => top ((byMedia _ _ (media item)).mpr found), below⟩
  container _ avoids := avoids

/-- Settings under which no row is dropped and no item masked. -/
structure DisplaySettings.Lenient (settings : DisplaySettings) : Prop where
  restrictions : settings.hubRestrictions = false
  userState : settings.disableUserState = false
  leafCount : settings.disableLeafCount = false

theorem lenient_plain : plainSettings.Lenient :=
  ⟨rfl, rfl, rfl⟩

variable {presentation : Presentation}

theorem reveals_hubRestriction (lenient : presentation.settings.Lenient) :
    (hubRestrictionTransform presentation).Reveals bad where
  keeps item := by
    simp [hubRestrictionTransform, hubRestrictionFilter, lenient.restrictions]
  item _ avoids := avoids
  container _ avoids := avoids

theorem modifyChildren_id (item : MetaData) :
    item.modifyChildren id = item := by
  cases item
  simp [MetaData.modifyChildren]

theorem hideUserState_lenient (lenient : presentation.settings.Lenient) :
    hideUserState presentation = id := by
  funext item
  cases item
  simp [hideUserState, lenient.userState, lenient.leafCount]

theorem reveals_userState (lenient : presentation.settings.Lenient) :
    (userStateTransform presentation).Reveals bad where
  keeps _ := rfl
  item item avoids := by
    have same : (userStateTransform presentation).transformMetadata item =
        item := by
      simp only [userStateTransform, hideUserState_lenient lenient]
      rw [List.map_id_fun]
      split
      · exact modifyChildren_id item
      · rfl
    rwa [same] at avoids
  container _ avoids := avoids

theorem reveals_mediaStyle (byMedia : ByMedia bad) (style : Style) :
    (mediaStyleTransform presentation style).Reveals bad where
  keeps _ := rfl
  item := (reveals_of_metadata byMedia
    (fun item => (restyled_mediaStyleMetadata presentation.options style
      item).media)
    (childNodes_mediaStyleMetadata presentation.options style)).item
  container container avoids := by
    cases style with
    | hero => exact avoids
    | shelf => exact avoids

theorem reveals_hubKey (byMedia : ByMedia bad) :
    hubKeyTransform.Reveals bad := by
  apply reveals_of_metadata byMedia
  · intro item
    grind
  · intro item
    unfold childNodes
    grind

theorem reveals_hubWatched
    (watched : presentation.settings.excludeWatched = false)
    (unknown : ∀ id, presentation.collection id = none) :
    (hubWatchedTransform presentation).Reveals bad where
  keeps _ := rfl
  item item avoids := by
    have shows : excludeWatched presentation item = false := by
      unfold excludeWatched
      simp only [watched, unknown]
      grind
    simpa [hubWatchedTransform, shows] using avoids
  container _ avoids := avoids

theorem avoids_defaultTransformContainer_iff (byMedia : ByMedia bad)
    (options : PlexContext) (style : Style) (payload : MediaContainer) :
    (∀ rendering : Rendering, Avoids bad
      (defaultTransformContainer (rendering.presentation options) style
        payload).items) ↔
      Avoids bad payload.items := by
  constructor
  · intro hidden
    apply Avoids.of_applyTo ?_ (hidden plainRendering)
    intro transform listed
    simp only [List.mem_cons, List.not_mem_nil, or_false] at listed
    rcases listed with rfl | rfl | rfl | rfl | rfl
    · exact reveals_hubRestriction lenient_plain
    · exact reveals_mediaStyle byMedia style
    · exact reveals_userState lenient_plain
    · exact reveals_hubWatched rfl fun _ => rfl
    · exact reveals_hubKey byMedia
  · intro clean rendering
    apply clean.of_derived byMedia.stable
    apply derived_applyTo
    intro transform listed
    simp only [List.mem_cons, List.not_mem_nil, or_false] at listed
    rcases listed with rfl | rfl | rfl | rfl | rfl
    · exact presents_of_filter _
    · exact presents_mediaStyle _ style
    · exact presents_userState _
    · exact presents_hubWatched _
    · exact presents_hubKey

/-! The children of merged collections. -/

theorem mem_foldl_interleave {rows : List (List MetaData)}
    {start : List MetaData} {item : MetaData} :
    item ∈ rows.foldl interleave start ↔
      item ∈ start ∨ ∃ row ∈ rows, item ∈ row := by
  induction rows generalizing start with
  | nil => simp
  | cons row rows hypothesis =>
      rw [List.foldl_cons, hypothesis, mem_interleave]
      simp [or_assoc]

theorem items_libraryInterleave (load : ChildrenLoader) (ids : List Nat)
    (offset limit : Int32) :
    ((libraryInterleaveTransform presentation load ids offset limit).apply
        { size := some 0, offset := some offset }).items =
      if presentation.settings.interleave then
        (ids.map fun id => collectionRow presentation load id offset
          limit).foldl interleave []
      else
        [] := by
  unfold Transform.apply libraryInterleaveTransform
  cases presentation.settings.interleave with
  | false => rfl
  | true =>
      simp [MediaContainer.items, MediaContainer.lists,
        MediaContainer.withLists, Sweep.loop, Sweep.size]

/-- No page of the collections that the client can be shown, with or without
watched items, holds a bad node. -/
def CleanPages (bad : MetaData → Prop) (options : PlexContext)
    (load : ChildrenLoader) (ids : List Nat) : Prop :=
  ∀ id ∈ ids, ∀ excludeWatched labelled children,
    load id (childrenOffset excludeWatched options)
        (childrenLimit excludeWatched options) = some children →
      Avoids bad (shownChildren (excludeWatched || labelled) children)

theorem CleanPages.collectionRow {options : PlexContext}
    {load : ChildrenLoader} {ids : List Nat}
    (clean : CleanPages bad options load ids) {id : Nat} (listed : id ∈ ids)
    (rendering : Rendering) :
    Avoids bad (collectionRow (rendering.presentation options) load id
      (childrenOffset rendering.settings.excludeWatched options)
      (childrenLimit rendering.settings.excludeWatched options)) := by
  unfold Replex.collectionRow
  split
  · rename_i children _ loaded
    exact clean id listed rendering.settings.excludeWatched _ children loaded
  · exact avoids_nil

def mergedRendering (excludeWatched labelled : Bool) : Rendering where
  settings := { plainSettings with interleave := true, excludeWatched }
  lookups :=
    { collection := fun _ => some
        { metadata :=
            [{ labels :=
                if labelled then [⟨"REPLEX_EXCLUDE_WATCHED"⟩] else [] }] }
      sectionCollections := fun _ => none }
  skipOptionalTransforms := true
  optionalHoops := .forward

theorem lenient_merged (excludeWatched labelled : Bool) :
    (mergedRendering excludeWatched labelled).settings.Lenient :=
  ⟨rfl, rfl, rfl⟩

theorem collectionRow_merged {options : PlexContext} {load : ChildrenLoader}
    {id : Nat} {offset limit : Int32} {children : MediaContainer}
    (loaded : load id offset limit = some children)
    (excludeWatched labelled : Bool) :
    collectionRow
        ((mergedRendering excludeWatched labelled).presentation options) load
        id offset limit =
      shownChildren (excludeWatched || labelled) children := by
  unfold collectionRow
  rw [loaded]
  cases labelled with
  | false => rfl
  | true => rfl

theorem reveals_collectionStyle_merged (excludeWatched labelled : Bool)
    (options : PlexContext) (ids : List Nat) :
    (collectionStyleTransform
      ((mergedRendering excludeWatched labelled).presentation options)
      ids).Reveals bad where
  keeps _ := rfl
  item _ avoids := avoids
  container container avoids := by
    have plain (id : Nat) :
        labelledHero ((mergedRendering excludeWatched labelled).lookups.collection
          (Int32.ofNat id)) = false := by
      cases labelled with
      | false => rfl
      | true => rfl
    cases ids with
    | nil => exact avoids
    | cons id ids =>
        simpa [collectionStyleTransform, Rendering.presentation, plain id]
          using avoids

/-- What is applied to the merged rows. -/
def rowTransforms (presentation : Presentation) (ids : List Nat) :
    List Transform :=
  [hubRestrictionTransform presentation,
    collectionStyleTransform presentation ids, userStateTransform presentation]

theorem presents_rowTransforms (presentation : Presentation)
    (ids : List Nat) :
    ∀ transform ∈ rowTransforms presentation ids, transform.Presents := by
  intro transform listed
  simp only [rowTransforms, List.mem_cons, List.not_mem_nil, or_false]
    at listed
  rcases listed with rfl | rfl | rfl
  · exact presents_of_filter _
  · exact presents_collectionStyle presentation ids
  · exact presents_userState presentation

theorem reveals_rowTransforms (excludeWatched labelled : Bool)
    (options : PlexContext) (ids : List Nat) :
    ∀ transform ∈ rowTransforms
      ((mergedRendering excludeWatched labelled).presentation options) ids,
        transform.Reveals bad := by
  have lenient := lenient_merged excludeWatched labelled
  intro transform listed
  simp only [rowTransforms, List.mem_cons, List.not_mem_nil, or_false]
    at listed
  rcases listed with rfl | rfl | rfl
  · exact reveals_hubRestriction lenient
  · exact reveals_collectionStyle_merged excludeWatched labelled options ids
  · exact reveals_userState lenient

theorem avoids_collectionsChildrenContainer_iff (stable : Stable bad)
    (options : PlexContext) (load : ChildrenLoader) (ids : List Nat) :
    (∀ rendering : Rendering, Avoids bad
      (collectionsChildrenContainer (rendering.presentation options) load
        ids).items) ↔
      CleanPages bad options load ids := by
  constructor
  · intro hidden id listed excludeWatched labelled children loaded
    have rows := Avoids.of_applyTo
      (reveals_rowTransforms excludeWatched labelled options ids)
      (hidden (mergedRendering excludeWatched labelled))
    rw [items_libraryInterleave] at rows
    apply rows.mono
    intro item shown
    apply mem_foldl_interleave.mpr
    right
    refine ⟨_, List.mem_map_of_mem listed, ?_⟩
    exact (collectionRow_merged loaded excludeWatched labelled).symm ▸ shown
  · intro clean rendering
    apply Avoids.of_derived ?_ stable
      (derived_applyTo (presents_rowTransforms _ ids) _)
    rw [items_libraryInterleave]
    split
    · apply avoids_iff.mpr
      intro item shown
      rcases mem_foldl_interleave.mp shown with none | ⟨row, among, shown⟩
      · cases none
      · obtain ⟨id, listed, rfl⟩ := List.mem_map.mp among
        exact avoids_iff.mp (clean.collectionRow listed rendering) item shown
    · exact avoids_nil

end

end Replex
