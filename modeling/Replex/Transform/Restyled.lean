import Replex.Transform.Presentation

namespace Replex

open Data MetaData

/-! Presentation makes no content: whatever a transform renders was in its
payload, with the same versions and the same title. -/

structure Restyled (origin result : MetaData) : Prop where
  media : result.media = origin.media
  title : result.title = origin.title
  context : result.context = origin.context
  hubIdentifier : result.hubIdentifier = origin.hubIdentifier
  type : result.type = origin.type ∨ result.type ≠ "collection"

theorem Restyled.refl (item : MetaData) : Restyled item item :=
  ⟨rfl, rfl, rfl, rfl, .inl rfl⟩

theorem Restyled.trans {first second third : MetaData}
    (left : Restyled first second) (right : Restyled second third) :
    Restyled first third where
  media := right.media.trans left.media
  title := right.title.trans left.title
  context := right.context.trans left.context
  hubIdentifier := right.hubIdentifier.trans left.hubIdentifier
  type := by
    rcases right.type with same | other
    · rw [same]
      exact left.type
    · exact .inr other

/-- Every node of the results is a restyled node of the sources. -/
def Derived (sources results : List MetaData) : Prop :=
  ∀ node ∈ listNodes results, ∃ origin ∈ listNodes sources,
    Restyled origin node

theorem Derived.trans {first second third : List MetaData}
    (left : Derived first second) (right : Derived second third) :
    Derived first third := by
  intro node listed
  obtain ⟨middle, among, restyled⟩ := right node listed
  obtain ⟨origin, source, earlier⟩ := left middle among
  exact ⟨origin, source, earlier.trans restyled⟩

theorem derived_iff {sources results : List MetaData} :
    Derived sources results ↔ ∀ item ∈ results, Derived sources [item] := by
  constructor
  · intro derived item listed node below
    apply derived node
    simp only [listNodes, List.append_nil] at below
    exact mem_listNodes.mpr ⟨item, listed, below⟩
  · intro each node listed
    obtain ⟨item, among, below⟩ := mem_listNodes.mp listed
    apply each item among node
    simpa [listNodes] using below

theorem derived_of_subset {sources results : List MetaData}
    (subset : results ⊆ sources) : Derived sources results := by
  intro node listed
  obtain ⟨item, among, below⟩ := mem_listNodes.mp listed
  exact ⟨node, mem_listNodes.mpr ⟨item, subset among, below⟩, .refl node⟩

theorem derived_self (item : MetaData) : Derived [item] [item] :=
  derived_of_subset (List.Subset.refl _)

theorem Derived.mono {sources more results : List MetaData}
    (derived : Derived sources results) (subset : sources ⊆ more) :
    Derived more results :=
  (derived_of_subset subset).trans derived

theorem derived_map {change : MetaData → MetaData}
    (each : ∀ item, Derived [item] [change item]) (items : List MetaData) :
    Derived items (items.map change) := by
  apply derived_iff.mpr
  intro result listed
  obtain ⟨item, among, rfl⟩ := List.mem_map.mp listed
  apply (each item).mono
  simpa using among

/-- An item keeps what it is, and each of its children is one it had or is
itself derived. -/
theorem derived_of_parts {sources : List MetaData} {item result : MetaData}
    (self : Derived sources [item]) (restyled : Restyled item result)
    (children : ∀ child ∈ result.childNodes,
      child ∈ item.childNodes ∨ Derived sources [child]) :
    Derived sources [result] := by
  intro node listed
  simp only [listNodes, List.append_nil] at listed
  rcases mem_nodes.mp listed with rfl | ⟨child, among, below⟩
  · obtain ⟨origin, source, earlier⟩ := self item (by
      simpa [listNodes] using self_mem_nodes item)
    exact ⟨origin, source, earlier.trans restyled⟩
  · rcases children child among with had | derived
    · apply self node
      simp only [listNodes, List.append_nil]
      exact mem_nodes.mpr (.inr ⟨child, had, below⟩)
    · apply derived node
      simpa [listNodes] using below

theorem derived_of_restyled {item result : MetaData}
    (restyled : Restyled item result)
    (same : result.childNodes = item.childNodes) :
    Derived [item] [result] := by
  apply derived_of_parts (derived_self item) restyled
  intro child among
  exact .inl (same ▸ among)

theorem mem_childNodes_of_mem_children {item child : MetaData}
    (listed : child ∈ item.children) : child ∈ item.childNodes := by
  unfold children at listed
  unfold childNodes
  grind

theorem derived_children (item : MetaData) :
    Derived [item] item.children := by
  intro node listed
  obtain ⟨child, among, below⟩ := mem_listNodes.mp listed
  refine ⟨node, ?_, .refl node⟩
  simp only [listNodes, List.append_nil]
  exact mem_nodes.mpr
    (.inr ⟨child, mem_childNodes_of_mem_children among, below⟩)

theorem mem_childNodes_setChildren {item child : MetaData}
    {value : List MetaData}
    (listed : child ∈ (item.setChildren value).childNodes) :
    child ∈ item.childNodes ∨ child ∈ value := by
  unfold setChildren childNodes at listed
  unfold childNodes
  grind

theorem derived_setChildren {sources value : List MetaData}
    {item : MetaData} (self : Derived sources [item])
    (values : Derived sources value) :
    Derived sources [item.setChildren value] := by
  apply derived_of_parts self
  · unfold setChildren
    constructor <;> grind
  · intro child listed
    rcases mem_childNodes_setChildren listed with had | among
    · exact .inl had
    · exact .inr (derived_iff.mp values child among)

theorem mem_childNodes_modifyChildren {item child : MetaData}
    {change : List MetaData → List MetaData}
    (listed : child ∈ (item.modifyChildren change).childNodes) :
    child ∈ item.childNodes ∨
      ∃ list, child ∈ change list ∧ list ⊆ item.childNodes := by
  unfold modifyChildren childNodes at listed
  unfold childNodes
  grind

theorem derived_modifyChildren {change : List MetaData → List MetaData}
    (each : ∀ list, Derived list (change list)) (item : MetaData) :
    Derived [item] [item.modifyChildren change] := by
  apply derived_of_parts (derived_self item)
  · unfold modifyChildren
    constructor <;> grind
  · intro child listed
    rcases mem_childNodes_modifyChildren listed with had | ⟨list, made, part⟩
    · exact .inl had
    · right
      apply Derived.trans ?_ (derived_iff.mp (each list) child made)
      intro node below
      obtain ⟨parent, among, under⟩ := mem_listNodes.mp below
      refine ⟨node, ?_, .refl node⟩
      simp only [listNodes, List.append_nil]
      exact mem_nodes.mpr (.inr ⟨parent, part among, under⟩)

/-! Containers without a kind of node, at any depth. -/

def Avoids (bad : MetaData → Prop) (items : List MetaData) : Prop :=
  ∀ node ∈ listNodes items, ¬ bad node

instance (bad : MetaData → Prop) [DecidablePred bad] (items : List MetaData) :
    Decidable (Avoids bad items) :=
  inferInstanceAs (Decidable (∀ node ∈ listNodes items, ¬ bad node))

/-- A kind of node that restyling does not make. -/
def Stable (bad : MetaData → Prop) : Prop :=
  ∀ origin result, Restyled origin result → bad result → bad origin

section

variable {bad : MetaData → Prop}

@[simp] theorem avoids_nil : Avoids bad [] := by
  intro node listed
  cases listed

theorem avoids_iff {items : List MetaData} :
    Avoids bad items ↔ ∀ item ∈ items, Avoids bad [item] := by
  simp only [Avoids, listNodes, List.append_nil, mem_listNodes]
  grind

@[simp] theorem avoids_append {left right : List MetaData} :
    Avoids bad (left ++ right) ↔ Avoids bad left ∧ Avoids bad right := by
  constructor
  · intro avoids
    have each := avoids_iff.mp avoids
    constructor
    · apply avoids_iff.mpr
      intro item listed
      exact each item (List.mem_append_left right listed)
    · apply avoids_iff.mpr
      intro item listed
      exact each item (List.mem_append_right left listed)
  · intro avoids
    apply avoids_iff.mpr
    intro item listed
    rcases List.mem_append.mp listed with first | second
    · exact avoids_iff.mp avoids.1 item first
    · exact avoids_iff.mp avoids.2 item second

theorem Avoids.mono {items fewer : List MetaData} (avoids : Avoids bad items)
    (subset : fewer ⊆ items) : Avoids bad fewer := by
  apply avoids_iff.mpr
  intro item listed
  exact avoids_iff.mp avoids item (subset listed)

theorem avoids_singleton {item : MetaData} :
    Avoids bad [item] ↔ ¬ bad item ∧ Avoids bad item.childNodes := by
  unfold Avoids
  simp only [listNodes, List.append_nil]
  constructor
  · intro avoids
    refine ⟨avoids item (self_mem_nodes item), ?_⟩
    intro node listed
    exact avoids node (mem_nodes.mpr (.inr (mem_listNodes.mp listed)))
  · intro avoids node listed
    obtain ⟨top, below⟩ := avoids
    rcases mem_nodes.mp listed with rfl | deeper
    · exact top
    · exact below node (mem_listNodes.mpr deeper)

theorem Avoids.of_derived {sources results : List MetaData}
    (avoids : Avoids bad sources) (stable : Stable bad)
    (derived : Derived sources results) : Avoids bad results := by
  intro node listed found
  obtain ⟨origin, source, restyled⟩ := derived node listed
  exact avoids origin source (stable origin node restyled found)

end

/-! The transforms, one by one. -/

structure Transform.Presents (transform : Transform) : Prop where
  item : ∀ item, Derived [item] [transform.transformMetadata item]
  container : ∀ container : MediaContainer,
    Derived container.items (transform.transformMediacontainer container).items

theorem derived_apply {transform : Transform} (presents : transform.Presents)
    (container : MediaContainer) :
    Derived container.items (transform.apply container).items := by
  apply Derived.trans ?_ (presents.container _)
  unfold MediaContainer.items
  rw [lists_withLists_loop, Sweep.flatten_sweep]
  apply derived_iff.mpr
  intro item listed
  rcases List.mem_append.mp listed with visited | untouched
  · obtain ⟨origin, among, rfl⟩ := List.mem_map.mp visited
    apply (presents.item origin).mono
    simpa using (Sweep.mem_of_mem_reached among).1
  · apply derived_of_subset
    simpa using Sweep.mem_of_mem_unreached untouched

theorem derived_applyTo {transforms : List Transform}
    (presents : ∀ transform ∈ transforms, transform.Presents)
    (container : MediaContainer) :
    Derived container.items (applyTo transforms container).items := by
  unfold applyTo
  rw [items_resize]
  induction transforms generalizing container with
  | nil => exact derived_of_subset (List.Subset.refl _)
  | cons transform transforms hypothesis =>
      apply (derived_apply (presents transform List.mem_cons_self)
        container).trans
      apply hypothesis
      intro other listed
      exact presents other (List.mem_cons_of_mem transform listed)

theorem presents_of_filter (keep : MetaData → Bool) :
    Transform.Presents { filterMetadata := keep } where
  item := derived_self
  container _ := derived_of_subset (List.Subset.refl _)

theorem presents_of_metadata {change : MetaData → MetaData}
    (each : ∀ item, Derived [item] [change item]) :
    Transform.Presents { transformMetadata := change } where
  item := each
  container _ := derived_of_subset (List.Subset.refl _)

theorem items_setChildren_subset (container : MediaContainer)
    (value : List MetaData) :
    (container.setChildren value).items ⊆ container.items ++ value := by
  intro item listed
  unfold MediaContainer.items MediaContainer.lists
    MediaContainer.setChildren at *
  grind

theorem children_subset_items (container : MediaContainer) :
    container.children ⊆ container.items := by
  intro item listed
  unfold MediaContainer.items MediaContainer.lists
  unfold MediaContainer.children at listed
  grind

theorem derived_container_setChildren {container : MediaContainer}
    {value : List MetaData} (values : Derived container.items value) :
    Derived container.items (container.setChildren value).items := by
  apply derived_iff.mpr
  intro item listed
  rcases List.mem_append.mp
    (items_setChildren_subset container value listed) with had | among
  · apply derived_of_subset
    simpa using had
  · exact derived_iff.mp values item among

section

variable (presentation : Presentation)

theorem childType_ne_collection (context : PlexContext) :
    ∀ type, (ClientHeroStyle.fromContext context).childType = some type →
      type ≠ "collection" := by
  intro type chosen
  unfold ClientHeroStyle.fromContext at chosen
  grind

theorem type_ne_collection (context : PlexContext) :
    (ClientHeroStyle.fromContext context).type ≠ "collection" := by
  unfold ClientHeroStyle.fromContext
  grind

theorem retyped (context : PlexContext) (type : String) :
    (ClientHeroStyle.fromContext context).childType.getD type = type ∨
      (ClientHeroStyle.fromContext context).childType.getD type ≠
        "collection" := by
  cases chosen : (ClientHeroStyle.fromContext context).childType with
  | none => exact .inl rfl
  | some childType =>
      exact .inr (childType_ne_collection context childType chosen)

theorem restyled_mediaStyleMetadata (options : PlexContext) (style : Style)
    (item : MetaData) :
    Restyled item (mediaStyleMetadata options style item) := by
  cases style with
  | shelf => exact .refl item
  | hero =>
      have type := retyped options item.type
      simp only [mediaStyleMetadata]
      split
      · exact ⟨rfl, rfl, rfl, rfl, type⟩
      · exact ⟨rfl, rfl, rfl, rfl, type⟩

theorem childNodes_mediaStyleMetadata (options : PlexContext) (style : Style)
    (item : MetaData) :
    (mediaStyleMetadata options style item).childNodes = item.childNodes := by
  cases style with
  | shelf => rfl
  | hero =>
      simp only [mediaStyleMetadata]
      split
      · rfl
      · rfl

theorem derived_heroChild (options : PlexContext) (child : MetaData) :
    Derived [child] [heroChild options child] := by
  apply derived_of_restyled
  · apply Restyled.trans ?_ (restyled_mediaStyleMetadata options .hero _)
    exact ⟨rfl, rfl, rfl, rfl, retyped options child.type⟩
  · rw [heroChild, childNodes_mediaStyleMetadata]
    rfl

theorem presents_mediaStyle (style : Style) :
    (mediaStyleTransform presentation style).Presents where
  item item := derived_of_restyled
    (restyled_mediaStyleMetadata presentation.options style item)
    (childNodes_mediaStyleMetadata presentation.options style item)
  container container := by
    cases style with
    | hero => exact derived_of_subset (List.Subset.refl _)
    | shelf => exact derived_of_subset (List.Subset.refl _)

theorem presents_hubStyle : (hubStyleTransform presentation).Presents := by
  apply presents_of_metadata
  intro item
  unfold hubStyleMetadata
  split
  · apply derived_setChildren
    · apply derived_of_restyled
      · exact ⟨rfl, rfl, rfl, rfl, .inr (type_ne_collection _)⟩
      · rfl
    · apply (derived_children item).trans
      exact derived_map (derived_heroChild presentation.options) item.children
  · exact derived_self item

theorem presents_hubWatched :
    (hubWatchedTransform presentation).Presents := by
  apply presents_of_metadata
  intro item
  split
  · apply derived_modifyChildren
    intro list
    exact derived_of_subset (List.filter_subset_self list)
  · exact derived_self item

theorem presents_userState : (userStateTransform presentation).Presents := by
  have hidden (item : MetaData) :
      Derived [item] [hideUserState presentation item] :=
    derived_of_restyled ⟨rfl, rfl, rfl, rfl, .inl rfl⟩ rfl
  apply presents_of_metadata
  intro item
  split
  · exact derived_modifyChildren (derived_map hidden) item
  · exact hidden item

theorem presents_hubKey : hubKeyTransform.Presents := by
  apply presents_of_metadata
  intro item
  split
  · split
    · exact derived_self item
    · exact derived_of_restyled ⟨rfl, rfl, rfl, rfl, .inl rfl⟩ rfl
  · exact derived_self item

theorem derived_interleaveHub {sources newHubs : List MetaData}
    {hub : MetaData} (rows : Derived sources newHubs)
    (row : Derived sources [hub]) :
    Derived sources (interleaveHub newHubs hub) := by
  have pushed : Derived sources (newHubs ++ [hub]) := by
    apply derived_iff.mpr
    intro item listed
    rcases List.mem_append.mp listed with had | added
    · exact derived_iff.mp rows item had
    · cases List.mem_singleton.mp added
      exact row
  unfold interleaveHub
  split
  · exact rows
  · split
    · exact pushed
    · split
      · exact pushed
      next index found =>
          split
          · exact rows
          next earlier same =>
              split
              · have base := derived_iff.mp rows earlier
                  (List.mem_of_getElem? same)
                apply derived_iff.mpr
                intro item listed
                rcases List.mem_or_eq_of_mem_set listed with had | rfl
                · exact derived_iff.mp rows item had
                · apply derived_setChildren
                  · apply base.trans
                    exact derived_of_restyled
                      ⟨rfl, rfl, rfl, rfl, .inl rfl⟩ rfl
                  · apply derived_iff.mpr
                    intro child among
                    rcases mem_interleave.mp among with left | right
                    · exact derived_iff.mp
                        (base.trans (derived_children earlier)) child left
                    · exact derived_iff.mp
                        (row.trans (derived_children hub)) child right
              · exact pushed

theorem derived_interleaveHubs {sources hubs newHubs : List MetaData}
    (rows : Derived sources newHubs)
    (each : ∀ hub ∈ hubs, Derived sources [hub]) :
    Derived sources (hubs.foldl interleaveHub newHubs) := by
  induction hubs generalizing newHubs with
  | nil => exact rows
  | cons hub hubs hypothesis =>
      rw [List.foldl_cons]
      apply hypothesis
      · exact derived_interleaveHub rows (each hub List.mem_cons_self)
      · intro other listed
        exact each other (List.mem_cons_of_mem hub listed)

theorem presents_hubInterleave :
    (hubInterleaveTransform presentation).Presents where
  item := derived_self
  container container := by
    simp only [hubInterleaveTransform]
    split
    · apply derived_container_setChildren
      apply derived_interleaveHubs
      · exact derived_of_subset (List.nil_subset _)
      · intro hub listed
        apply derived_of_subset
        simpa using children_subset_items container listed
    · exact derived_of_subset (List.Subset.refl _)

theorem presents_collectionStyle (ids : List Nat) :
    (collectionStyleTransform presentation ids).Presents where
  item := derived_self
  container container := by
    simp only [collectionStyleTransform]
    split
    · exact derived_of_subset (List.Subset.refl _)
    · split
      · apply derived_container_setChildren
        apply Derived.mono ?_ (children_subset_items container)
        exact derived_map (derived_heroChild presentation.options)
          container.children
      · exact derived_of_subset (List.Subset.refl _)

end

end Replex
