import Replex.Data.Sweep
import Replex.Transform.ResolutionPolicy

namespace Replex

open Data

/-! Chains of transforms over a container. -/

structure Transform where
  filterMetadata : MetaData → Bool := fun _ => true
  transformMetadata : MetaData → MetaData := id
  transformMediacontainer : MediaContainer → MediaContainer := id

def MediaContainer.items (container : MediaContainer) : List MetaData :=
  container.lists.flatten

/-- One transform: the index loop over the visible list, then the container
as a whole. -/
def Transform.apply (transform : Transform) (container : MediaContainer) :
    MediaContainer :=
  transform.transformMediacontainer
    (container.withLists
      (Sweep.loop transform.filterMetadata transform.transformMetadata
        (Sweep.size container.lists) 0 container.lists))

/-- A size that was reported is reported anew. -/
def MediaContainer.resize (container : MediaContainer) : MediaContainer :=
  { container with
    size := container.size.map fun _ =>
      sizeOfLength64 container.children.length }

def applyTo (transforms : List Transform) (container : MediaContainer) :
    MediaContainer :=
  (transforms.foldl (fun container transform => transform.apply container)
    container).resize

def resolutionPolicyTransform (current : Except Unit ResolutionPolicy)
    (failClosed : Bool) : Transform where
  filterMetadata := policyFilterMetadata current failClosed
  transformMetadata := policyTransformMetadata current failClosed

def collectionVisibilityTransform (current : Except Unit ResolutionPolicy) :
    Transform where
  filterMetadata := visibilityFilterMetadata current

@[simp] theorem items_resize (container : MediaContainer) :
    container.resize.items = container.items :=
  rfl

theorem lists_withLists {container : MediaContainer}
    {lists : List (List MetaData)} (four : lists.length = 4) :
    (container.withLists lists).lists = lists := by
  match lists, four with
  | [metadata, hub, video, directory], _ => rfl

theorem withLists_withLists (container : MediaContainer)
    {first second : List (List MetaData)} (firstFour : first.length = 4)
    (secondFour : second.length = 4) :
    (container.withLists first).withLists second =
      container.withLists second := by
  match first, firstFour, second, secondFour with
  | [_, _, _, _], _, [_, _, _, _], _ => rfl

theorem withLists_lists (container : MediaContainer) :
    container.withLists container.lists = container :=
  rfl

theorem lists_withLists_loop (transform : Transform)
    (container : MediaContainer) :
    (container.withLists
      (Sweep.loop transform.filterMetadata transform.transformMetadata
        (Sweep.size container.lists) 0 container.lists)).lists =
      Sweep.sweep transform.filterMetadata transform.transformMetadata
        container.lists := by
  rw [Sweep.loop_eq_sweep _ _ _ _ (Nat.le_refl _)]
  exact lists_withLists (Sweep.length_sweep ..)

theorem apply_of_plain (transform : Transform)
    (plain : transform.transformMediacontainer = id)
    (container : MediaContainer) :
    transform.apply container =
      container.withLists
        (Sweep.sweep transform.filterMetadata transform.transformMetadata
          container.lists) := by
  rw [Transform.apply, plain, Sweep.loop_eq_sweep _ _ _ _ (Nat.le_refl _)]
  rfl

/-- A transform of the container as a whole leaves the lists to it. -/
theorem apply_of_whole {transform : Transform}
    (keeps : transform.filterMetadata = fun _ => true)
    (same : transform.transformMetadata = id) (container : MediaContainer) :
    transform.apply container = transform.transformMediacontainer container := by
  rw [Transform.apply, Sweep.loop_eq_sweep _ _ _ _ (Nat.le_refl _), keeps,
    same, Sweep.sweep_id (fun _ => rfl)]
  rfl

theorem lists_apply {transform : Transform}
    (plain : transform.transformMediacontainer = id)
    (container : MediaContainer) :
    (transform.apply container).lists =
      Sweep.sweep transform.filterMetadata transform.transformMetadata
        container.lists := by
  rw [Transform.apply, plain]
  exact lists_withLists_loop transform container

theorem items_applyTo {transforms : List Transform}
    (plain : ∀ transform ∈ transforms, transform.transformMediacontainer = id)
    (container : MediaContainer) :
    (applyTo transforms container).items =
      (transforms.foldl (fun lists transform =>
        Sweep.sweep transform.filterMetadata transform.transformMetadata lists)
        container.lists).flatten := by
  unfold applyTo
  rw [items_resize, MediaContainer.items]
  apply congrArg List.flatten
  induction transforms generalizing container with
  | nil => rfl
  | cons transform transforms hypothesis =>
      rw [List.foldl_cons, List.foldl_cons,
        ← lists_apply (plain transform List.mem_cons_self)]
      apply hypothesis
      intro other listed
      exact plain other (List.mem_cons_of_mem transform listed)

end Replex
