import Replex.Transform.FilterLoop

namespace Replex

open Data

/-! Which titles of the configured list ever hide a collection. -/

def PolicySnapshot.hiddenFrom (snapshot : PolicySnapshot)
    (value : Option String) : PolicySnapshot :=
  { snapshot with
    hiddenCollections := (deserializeCommaSeperatedString value).getD [] }

def visibleCollectionsOf (policies : List PolicyEntry)
    (identity : UserIdentity) : List String :=
  ((matchedEntry policies identity).map PolicyEntry.visibleCollections).getD []

def isCollection (item : MetaData) : Bool :=
  item.isCollectionHub || item.type == "collection"

/-- The title with or without whitespace around it. -/
def Titled (title : String) (item : MetaData) : Prop :=
  ∃ before after : String, Text.Blank before.toList ∧
    Text.Blank after.toList ∧ item.title = before ++ title ++ after

/-- The transform drops every collection of the title, and leaves none among
the children of a container. -/
def HidesTitle (policy : ResolutionPolicy) (title : String) : Prop :=
  ∀ item, isCollection item = true → Titled title item →
    visibilityFilterMetadata (.ok policy) item = false ∧
      ∀ container : MediaContainer,
        item ∉ (applyTo [collectionVisibilityTransform (.ok policy)]
          container).children

theorem children_applyTo_visibility (current : Except Unit ResolutionPolicy)
    (container : MediaContainer) :
    (applyTo [collectionVisibilityTransform current] container).children =
      Sweep.reached (visibilityFilterMetadata current) container.lists := by
  let transform := collectionVisibilityTransform current
  have resized (left : MediaContainer) :
      left.resize.children = left.children := rfl
  calc
    _ = (transform.apply container).children := resized _
    _ = Sweep.current (transform.apply container).lists := by
      rw [← MediaContainer.childrenMut_eq_children, childrenMut_eq_current]
    _ = Sweep.current (Sweep.sweep (visibilityFilterMetadata current) id
        container.lists) := congrArg Sweep.current (lists_apply rfl container)
    _ = _ := Sweep.current_sweep_id _ _

theorem trim_of_titled {title : String} {item : MetaData}
    (titled : Titled title item) :
    Text.trim item.title = Text.trim title := by
  obtain ⟨before, after, leading, trailing, same⟩ := titled
  rw [same, Text.trim_append leading trailing]

theorem hidesTitle_iff (policy : ResolutionPolicy) (title : String) :
    HidesTitle policy title ↔
      Text.trim title ∈ policy.hiddenCollections := by
  constructor
  · intro hides
    let item : MetaData := { type := "collection", title }
    have titled : Titled title item := by
      refine ⟨"", "", nofun, nofun, ?_⟩
      simp [item]
    have hidden := (hides item rfl titled).1
    simpa [visibilityFilterMetadata, isHidden, item] using hidden
  · intro listed item collection titled
    have hidden : isHidden item policy = true := by
      unfold isHidden
      rw [trim_of_titled titled]
      simpa [isCollection, listed] using collection
    have dropped : visibilityFilterMetadata (.ok policy) item = false := by
      simp [visibilityFilterMetadata, hidden]
    refine ⟨dropped, ?_⟩
    intro container member
    rw [children_applyTo_visibility] at member
    have kept := (Sweep.mem_of_mem_reached member).2
    rw [dropped] at kept
    cases kept

theorem hiddenCollections_resolve {snapshot : PolicySnapshot}
    {identity : UserIdentity}
    (noException : visibleCollectionsOf snapshot.entries identity = []) :
    (snapshot.resolve identity).hiddenCollections =
      snapshot.hiddenCollections := by
  unfold visibleCollectionsOf at noException
  simp [PolicySnapshot.resolve, resolvePolicy, noException]

/-- A title takes effect exactly when the list has it without whitespace
around it. -/
theorem hidden_title_takes_effect_iff (titles title : String)
    (snapshot : PolicySnapshot) {identity : UserIdentity}
    (noException : visibleCollectionsOf snapshot.entries identity = []) :
    HidesTitle ((snapshot.hiddenFrom (some titles)).resolve identity) title ↔
      Text.trim title ∈ Text.split ',' titles := by
  have same := @hiddenCollections_resolve
    (snapshot.hiddenFrom (some titles)) identity noException
  rw [hidesTitle_iff, same]
  rfl

def hidingSnapshot : PolicySnapshot where
  enabled := true
  entries := []
  defaultLimit := .unlimited
  failClosed := true
  hiddenCollections := []
  generation := 0

theorem listed_title_takes_effect :
    HidesTitle ((hidingSnapshot.hiddenFrom (some "Family 4K,Adults")).resolve
        ⟨2, "mini", "Mini"⟩) "Adults" ↔
      Text.trim "Adults" ∈ Text.split ',' "Family 4K,Adults" :=
  hidden_title_takes_effect_iff "Family 4K,Adults" "Adults" hidingSnapshot rfl

/-- After `", "` a title never hides anything. -/
theorem spaced_title_takes_no_effect :
    ¬ ∀ (titles : String) (snapshot : PolicySnapshot) (identity : UserIdentity),
      ∀ title ∈ Text.split ',' titles, Text.trim title ≠ "" →
        visibleCollectionsOf snapshot.entries identity = [] →
          HidesTitle ((snapshot.hiddenFrom (some titles)).resolve identity)
            title := by
  intro always
  have hides := always "Family 4K, Adults" hidingSnapshot ⟨2, "mini", "Mini"⟩
    " Adults" (by decide +kernel) (by decide +kernel) rfl
  rw [hidesTitle_iff, hiddenCollections_resolve rfl] at hides
  revert hides
  decide +kernel

end Replex
