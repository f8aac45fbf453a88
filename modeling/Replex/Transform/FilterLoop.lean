import Replex.Data.Loops
import Replex.Transform.Builder

namespace Replex

open Data

/-! The index loop of `apply_to` as it runs: every access goes through the
accessor anew, an index may be out of bounds, and filters and transforms act
on what surrounds them. -/

/-- Besides its item a transform sees and changes the world it runs in: caches,
the clock, the policy of the moment. -/
structure EffectfulTransform (ω : Type) where
  filterMetadata : MetaData → ω → Bool × ω
  transformMetadata : MetaData → ω → MetaData × ω
  transformMediacontainer : MediaContainer → ω → MediaContainer × ω

inductive IndexError where
  | outOfBounds (index length : Nat)
  deriving DecidableEq

namespace MediaContainer

/-- The list that `children_mut` exposes. -/
def childrenMut (container : MediaContainer) : List MetaData :=
  if !container.metadata.isEmpty then container.metadata
  else if !container.hub.isEmpty then container.hub
  else if !container.video.isEmpty then container.video
  else if !container.directory.isEmpty then container.directory
  else container.metadata

theorem childrenMut_eq_children (container : MediaContainer) :
    container.childrenMut = container.children := by
  unfold childrenMut children
  by_cases metadata : container.metadata = []
  · by_cases directory : container.directory = []
    · simp [metadata, directory]
    · simp [directory]
  · simp [metadata]

variable (container : MediaContainer) (index : Nat)

def childAt : Except IndexError MetaData :=
  match container.childrenMut[index]? with
  | some item => .ok item
  | none => .error (.outOfBounds index container.childrenMut.length)

def removeChild : Except IndexError MediaContainer :=
  if index < container.childrenMut.length then
    .ok (container.modifyChildren (·.eraseIdx index))
  else
    .error (.outOfBounds index container.childrenMut.length)

end MediaContainer

section

variable {ω : Type}

structure FilterState (ω : Type) where
  index : Nat
  container : MediaContainer
  world : ω

def filterRound (transform : EffectfulTransform ω) (state : FilterState ω) :
    Except IndexError (Round (FilterState ω) (MediaContainer × ω)) :=
  if state.index < state.container.childrenMut.length then do
    let item ← state.container.childAt state.index
    let kept := transform.filterMetadata item state.world
    if !kept.1 then
      let container ← state.container.removeChild state.index
      return .again { state with container, world := kept.2 }
    else
      let item ← state.container.childAt state.index
      let changed := transform.transformMetadata item kept.2
      return .again
        { index := state.index + 1
          container := state.container.modifyChildren
            (·.set state.index changed.1)
          world := changed.2 }
  else
    return .done (state.container, state.world)

/-- The transforms in turn, each loop for as many rounds. -/
def applyAllIn (rounds : Nat) :
    List (EffectfulTransform ω) → MediaContainer → ω →
      Option (Except IndexError (MediaContainer × ω))
  | [], container, world => some (.ok (container, world))
  | transform :: transforms, container, world =>
      match Loops.run (filterRound transform) rounds
          { index := 0, container, world } with
      | none => none
      | some (.error error) => some (.error error)
      | some (.ok left) =>
          let whole := transform.transformMediacontainer left.1 left.2
          applyAllIn rounds transforms whole.1 whole.2

def applyToIn (rounds : Nat) (transforms : List (EffectfulTransform ω))
    (container : MediaContainer) (world : ω) :
    Option (Except IndexError (MediaContainer × ω)) :=
  (applyAllIn rounds transforms container world).map fun outcome =>
    outcome.map fun (container, world) => (container.resize, world)

/-! What is left of the items. -/

/-- The items that the filter keeps, each transformed right after it. -/
def filterThenMap (transform : EffectfulTransform ω) :
    List MetaData → ω → List MetaData × ω
  | [], world => ([], world)
  | item :: items, world =>
      let kept := transform.filterMetadata item world
      if kept.1 then
        let changed := transform.transformMetadata item kept.2
        let rest := filterThenMap transform items changed.2
        (changed.1 :: rest.1, rest.2)
      else
        filterThenMap transform items kept.2

/-- The transforms in turn; `whole` is the container around the items. -/
def filterThenMapAll (whole : List MetaData → MediaContainer) :
    List (EffectfulTransform ω) → List MetaData → ω → List MetaData × ω
  | [], items, world => (items, world)
  | transform :: transforms, items, world =>
      let left := filterThenMap transform items world
      filterThenMapAll whole transforms left.1
        (transform.transformMediacontainer (whole left.1) left.2).2

end

/-! Containers with one list. -/

inductive ChildList where
  | metadata | hub | video | directory
  deriving DecidableEq

namespace MediaContainer

def get (container : MediaContainer) : ChildList → List MetaData
  | .metadata => container.metadata
  | .hub => container.hub
  | .video => container.video
  | .directory => container.directory

def put (container : MediaContainer) (list : ChildList)
    (items : List MetaData) : MediaContainer :=
  match list with
  | .metadata => { container with metadata := items }
  | .hub => { container with hub := items }
  | .video => { container with video := items }
  | .directory => { container with directory := items }

/-- No list but this one has children. -/
def Alone (list : ChildList) (container : MediaContainer) : Prop :=
  ∀ other, other ≠ list → container.get other = []

variable {container : MediaContainer} {list : ChildList}

@[simp] theorem get_put (items : List MetaData) :
    (container.put list items).get list = items := by
  cases list <;> rfl

@[simp] theorem put_put (items others : List MetaData) :
    (container.put list items).put list others =
      container.put list others := by
  cases list <;> rfl

@[simp] theorem put_get : container.put list (container.get list) = container := by
  cases list <;> rfl

theorem Alone.put (alone : container.Alone list) (items : List MetaData) :
    (container.put list items).Alone list := by
  intro other different
  rw [← alone other different]
  cases list <;> cases other <;> first | rfl | exact absurd rfl different

theorem Alone.childrenMut (alone : container.Alone list) :
    container.childrenMut = container.get list := by
  have metadata := alone .metadata
  have hub := alone .hub
  have video := alone .video
  have directory := alone .directory
  clear alone
  unfold MediaContainer.childrenMut
  cases list <;> simp_all [get]

theorem Alone.modifyChildren (alone : container.Alone list)
    (visible : container.get list ≠ [])
    (change : List MetaData → List MetaData) :
    container.modifyChildren change =
      container.put list (change (container.get list)) := by
  have metadata := alone .metadata
  have hub := alone .hub
  have video := alone .video
  clear alone
  unfold MediaContainer.modifyChildren
  cases list <;> simp_all [get, MediaContainer.put]

@[simp] theorem resize_put (items : List MetaData) :
    (container.put list items).resize.get list = items := by
  cases list <;> rfl

end MediaContainer

/-! One round, and the loop. -/

section

variable {ω : Type} {transform : EffectfulTransform ω}
  {container : MediaContainer} {list : ChildList}

theorem filterRound_end {index : Nat}
    (passed : container.childrenMut.length ≤ index) (world : ω) :
    filterRound transform ⟨index, container, world⟩ =
      .ok (.done (container, world)) := by
  unfold filterRound
  rw [if_neg (Nat.not_lt.mpr passed)]
  rfl

/-- Within the list a round looks at one item, and no access fails. -/
theorem filterRound_at {index : Nat} {item : MetaData}
    (found : container.childrenMut[index]? = some item) (world : ω) :
    filterRound transform ⟨index, container, world⟩ =
      let kept := transform.filterMetadata item world
      if kept.1 then
        let changed := transform.transformMetadata item kept.2
        .ok (.again
          ⟨index + 1, container.modifyChildren (·.set index changed.1),
            changed.2⟩)
      else
        .ok (.again
          ⟨index, container.modifyChildren (·.eraseIdx index), kept.2⟩) := by
  have inside : index < container.childrenMut.length :=
    (List.getElem?_eq_some_iff.mp found).1
  unfold filterRound
  rw [if_pos inside]
  simp only [MediaContainer.childAt, found, MediaContainer.removeChild,
    if_pos inside, bind, pure, Except.bind, Except.pure]
  cases (transform.filterMetadata item world).1 <;> rfl

/-- In a container of one list a round deals with the first item that waits. -/
theorem filterRound_put (alone : container.Alone list)
    (visited waiting : List MetaData) (item : MetaData) (world : ω) :
    filterRound transform
        ⟨visited.length, container.put list (visited ++ item :: waiting),
          world⟩ =
      let kept := transform.filterMetadata item world
      if kept.1 then
        let changed := transform.transformMetadata item kept.2
        .ok (.again
          ⟨(visited ++ [changed.1]).length,
            container.put list ((visited ++ [changed.1]) ++ waiting),
            changed.2⟩)
      else
        .ok (.again
          ⟨visited.length, container.put list (visited ++ waiting),
            kept.2⟩) := by
  have found : (container.put list
      (visited ++ item :: waiting)).childrenMut[visited.length]? =
        some item := by
    rw [(alone.put _).childrenMut, MediaContainer.get_put]
    simp
  have modified (change : List MetaData → List MetaData) :
      (container.put list (visited ++ item :: waiting)).modifyChildren
          change =
        container.put list (change (visited ++ item :: waiting)) := by
    rw [(alone.put _).modifyChildren (by simp)]
    simp
  simp only [filterRound_at found, modified]
  simp [List.eraseIdx_append_of_length_le]

/-- From wherever it stands the loop keeps what it has passed, and does to the
rest what `filterThenMap` does. -/
theorem filterLoop_returns (alone : container.Alone list)
    (waiting visited : List MetaData) (world : ω) :
    Loops.Returns (filterRound transform)
      ⟨visited.length, container.put list (visited ++ waiting), world⟩
      (container.put list
          (visited ++ (filterThenMap transform waiting world).1),
        (filterThenMap transform waiting world).2) := by
  induction waiting generalizing visited world with
  | nil =>
      apply Loops.returns_of_done
      simp only [List.append_nil, filterThenMap]
      apply filterRound_end
      rw [(alone.put visited).childrenMut, MediaContainer.get_put]
  | cons item waiting hypothesis =>
      have round := @filterRound_put ω transform container list alone visited
        waiting item world
      cases kept : (transform.filterMetadata item world).1 with
      | true =>
          simp only [kept, if_true] at round
          let changed := transform.transformMetadata item
            (transform.filterMetadata item world).2
          have rest := hypothesis (visited ++ [changed.1]) changed.2
          simp only [filterThenMap, kept, if_true]
          rw [List.append_cons visited changed.1]
          exact Loops.returns_of_again round rest
      | false =>
          simp only [kept, Bool.false_eq_true, if_false] at round
          have rest := hypothesis visited
            (transform.filterMetadata item world).2
          simp only [filterThenMap, kept, Bool.false_eq_true, if_false]
          exact Loops.returns_of_again round rest

/-- The container step gives back the container that it was given. -/
def EffectfulTransform.Plain (transform : EffectfulTransform ω) : Prop :=
  ∀ container world,
    (transform.transformMediacontainer container world).1 = container

theorem applyAllIn_returns (alone : container.Alone list)
    {transforms : List (EffectfulTransform ω)}
    (plain : ∀ transform ∈ transforms, transform.Plain)
    (items : List MetaData) (world : ω) :
    ∃ enough, ∀ rounds, enough ≤ rounds →
      applyAllIn rounds transforms (container.put list items) world =
        some (.ok (container.put list
            (filterThenMapAll (container.put list) transforms items world).1,
          (filterThenMapAll (container.put list) transforms items
            world).2)) := by
  induction transforms generalizing items world with
  | nil => exact ⟨0, fun _ _ => rfl⟩
  | cons transform transforms hypothesis =>
      obtain ⟨first, loop⟩ := @filterLoop_returns ω transform container list
        alone items [] world
      let left := filterThenMap transform items world
      have same : ∀ whole world,
          (transform.transformMediacontainer whole world).1 = whole :=
        plain transform List.mem_cons_self
      obtain ⟨later, rest⟩ := hypothesis
        (fun other listed => plain other (List.mem_cons_of_mem _ listed))
        left.1 (transform.transformMediacontainer
          (container.put list left.1) left.2).2
      refine ⟨max first later, ?_⟩
      intro rounds enough
      have run := loop rounds (Nat.le_trans (Nat.le_max_left _ _) enough)
      have runs := rest rounds (Nat.le_trans (Nat.le_max_right _ _) enough)
      simp only [List.nil_append, List.length_nil] at run
      simp only [applyAllIn, run, filterThenMapAll, same]
      exact runs

theorem length_filterThenMap (items : List MetaData) (world : ω) :
    (filterThenMap transform items world).1.length ≤ items.length := by
  induction items generalizing world with
  | nil => exact Nat.le_refl _
  | cons item items hypothesis =>
      simp only [filterThenMap]
      split
      · exact Nat.succ_le_succ (hypothesis _)
      · exact Nat.le_succ_of_le (hypothesis _)

theorem length_filterThenMapAll (whole : List MetaData → MediaContainer)
    (transforms : List (EffectfulTransform ω)) (items : List MetaData)
    (world : ω) :
    (filterThenMapAll whole transforms items world).1.length ≤
      items.length := by
  induction transforms generalizing items world with
  | nil => exact Nat.le_refl _
  | cons transform transforms hypothesis =>
      exact (hypothesis _ _).trans (length_filterThenMap items world)

end

theorem toInt_sizeOfLength64 {length : Nat} (fits : length < 2 ^ 63) :
    (sizeOfLength64 length).toInt = length := by
  rw [sizeOfLength64, if_pos fits]
  exact Int64.toInt_ofNat_of_lt fits

/-! Transforms that see their item only. -/

def Transform.effectful (transform : Transform) : EffectfulTransform Unit where
  filterMetadata item _ := (transform.filterMetadata item, ())
  transformMetadata item _ := (transform.transformMetadata item, ())
  transformMediacontainer container _ :=
    (transform.transformMediacontainer container, ())

theorem filterThenMap_effectful (transform : Transform)
    (items : List MetaData) :
    filterThenMap transform.effectful items () =
      ((items.filter transform.filterMetadata).map
        transform.transformMetadata, ()) := by
  induction items with
  | nil => rfl
  | cons item items hypothesis =>
      cases kept : transform.filterMetadata item with
      | true =>
          have same : filterThenMap transform.effectful (item :: items) () =
              (transform.transformMetadata item ::
                (filterThenMap transform.effectful items ()).1, ()) := by
            simp [filterThenMap, Transform.effectful, kept]
          rw [same, hypothesis, List.filter_cons_of_pos kept]
          rfl
      | false =>
          have same : filterThenMap transform.effectful (item :: items) () =
              filterThenMap transform.effectful items () := by
            simp [filterThenMap, Transform.effectful, kept]
          rw [same, hypothesis, List.filter_cons_of_neg (by simp [kept])]

theorem childrenMut_eq_current (container : MediaContainer) :
    container.childrenMut = Sweep.current container.lists := by
  unfold MediaContainer.childrenMut MediaContainer.lists
  simp only [Sweep.current]
  by_cases metadata : container.metadata = []
  · by_cases directory : container.directory = []
    · simp [metadata, directory]
    · simp [metadata, directory]
  · simp [metadata]

theorem modifyChildren_eq_withLists {container : MediaContainer}
    (visible : container.childrenMut ≠ [])
    (change : List MetaData → List MetaData) :
    container.modifyChildren change =
      container.withLists (Sweep.modifyCurrent change container.lists) := by
  unfold MediaContainer.childrenMut at visible
  unfold MediaContainer.modifyChildren MediaContainer.lists
  grind [Sweep.modifyCurrent, MediaContainer.withLists]

/-- The loop of a transform that sees its item only computes what the loop over
the lists computes. -/
theorem filterLoop_effectful (transform : Transform) (fuel index : Nat)
    (container : MediaContainer)
    (enough : Sweep.size container.lists ≤ index + fuel) :
    Loops.Returns (filterRound transform.effectful)
      ⟨index, container, ()⟩
      (container.withLists (Sweep.loop transform.filterMetadata
        transform.transformMetadata fuel index container.lists), ()) := by
  induction fuel generalizing index container with
  | zero =>
      apply Loops.returns_of_done
      apply filterRound_end
      rw [childrenMut_eq_current]
      exact Nat.le_trans (Sweep.length_current_le container.lists) enough
  | succ fuel hypothesis =>
      have current := childrenMut_eq_current container
      cases found : container.childrenMut[index]? with
      | none =>
          have passed := List.getElem?_eq_none_iff.mp found
          rw [Sweep.loop, ← current, found]
          exact Loops.returns_of_done (filterRound_end passed ())
      | some item =>
          have inside : index < container.childrenMut.length :=
            (List.getElem?_eq_some_iff.mp found).1
          have visible : container.childrenMut ≠ [] :=
            List.ne_nil_of_length_pos (by omega)
          have rest (change : List MetaData → List MetaData) (later : Nat)
              (fewer : (change container.childrenMut).length + index + 1 ≤
                container.childrenMut.length + later) :
              Loops.Returns (filterRound transform.effectful)
                ⟨later, container.modifyChildren change, ()⟩
                (container.withLists (Sweep.loop transform.filterMetadata
                  transform.transformMetadata fuel later
                  (Sweep.modifyCurrent change container.lists)), ()) := by
            have four : (Sweep.modifyCurrent change container.lists).length =
                4 := Sweep.length_modifyCurrent change container.lists
            have size := @Sweep.size_modifyCurrent _ container.lists
              (by rwa [← current]) change
            rw [← current] at size
            have later := hypothesis later
              (container.withLists
                (Sweep.modifyCurrent change container.lists))
            rw [lists_withLists four, withLists_withLists container four
              (by rw [Sweep.length_loop, four])] at later
            rw [modifyChildren_eq_withLists visible]
            exact later (by omega)
          rw [Sweep.loop, ← current, found]
          have round := @filterRound_at _ transform.effectful _ _ _ found ()
          cases kept : transform.filterMetadata item with
          | true =>
              simp only [Transform.effectful, kept, if_true] at round
              simp only [kept, if_true]
              exact Loops.returns_of_again round (rest _ _ (by
                rw [List.length_set]
                omega))
          | false =>
              simp only [Transform.effectful, kept, Bool.false_eq_true,
                if_false] at round
              simp only [kept, Bool.false_eq_true, if_false]
              exact Loops.returns_of_again round (rest _ _ (by
                rw [List.length_eraseIdx_of_lt inside]
                omega))

/-- On every container, one list or several, such transforms come to what
`applyTo` says. -/
theorem applyToIn_effectful (transforms : List Transform)
    (container : MediaContainer) :
    ∃ enough, ∀ rounds, enough ≤ rounds →
      applyToIn rounds (transforms.map Transform.effectful) container () =
        some (.ok (applyTo transforms container, ())) := by
  have all : ∃ enough, ∀ rounds, enough ≤ rounds →
      applyAllIn rounds (transforms.map Transform.effectful) container () =
        some (.ok (transforms.foldl
          (fun container transform => transform.apply container) container,
          ())) := by
    induction transforms generalizing container with
    | nil => exact ⟨0, fun _ _ => rfl⟩
    | cons transform transforms hypothesis =>
        obtain ⟨first, loop⟩ := filterLoop_effectful transform
          (Sweep.size container.lists) 0 container (by omega)
        obtain ⟨later, rest⟩ := hypothesis (transform.apply container)
        refine ⟨max first later, ?_⟩
        intro rounds enough
        have run := loop rounds (Nat.le_trans (Nat.le_max_left _ _) enough)
        have runs := rest rounds (Nat.le_trans (Nat.le_max_right _ _) enough)
        rw [List.map_cons, List.foldl_cons, applyAllIn, run]
        exact runs
  obtain ⟨enough, returns⟩ := all
  refine ⟨enough, ?_⟩
  intro rounds many
  rw [applyToIn, returns rounds many]
  rfl

/-! What the transforms leave of one list. -/

/-- The loop ends without leaving its list, and what it leaves there is what
the filters keep, transformed; a size that was given counts it. No vector has
2^63 items. -/
theorem apply_to_filters_then_maps {ω : Type} {container : MediaContainer}
    {list : ChildList} (visible : container.get list ≠ [])
    (alone : container.Alone list)
    (bounded : (container.get list).length < 2 ^ 63)
    {transforms : List (EffectfulTransform ω)}
    (plain : ∀ transform ∈ transforms, transform.Plain) (world : ω) :
    ∃ enough, ∀ rounds, enough ≤ rounds →
      ∃ final left,
        applyToIn rounds transforms container world =
            some (.ok (final, left)) ∧
          (final.childrenMut, left) =
            filterThenMapAll (container.put list) transforms
              container.childrenMut world ∧
          final.Alone list ∧
          final.size.map Int64.toInt =
            container.size.map fun _ => (final.childrenMut.length : Int) := by
  obtain ⟨enough, returns⟩ := applyAllIn_returns alone plain
    (container.get list) world
  refine ⟨enough, ?_⟩
  intro rounds many
  have run := returns rounds many
  rw [MediaContainer.put_get] at run
  generalize outcome : filterThenMapAll (container.put list) transforms
    (container.get list) world = left at run
  have stays : (container.put list left.1).resize.Alone list :=
    alone.put left.1
  have shown : (container.put list left.1).resize.childrenMut = left.1 := by
    rw [stays.childrenMut, MediaContainer.resize_put]
  refine ⟨(container.put list left.1).resize, left.2, ?_, ?_, stays, ?_⟩
  · rw [applyToIn, run]
    rfl
  · rw [shown, alone.childrenMut, outcome]
  · have fits : left.1.length < 2 ^ 63 := by
      rw [← outcome]
      exact Nat.lt_of_le_of_lt (length_filterThenMapAll ..) bounded
    have counted : (container.put list left.1).children.length =
        left.1.length := by
      rw [← MediaContainer.childrenMut_eq_children,
        (alone.put left.1).childrenMut, MediaContainer.get_put]
    have same : (container.put list left.1).size = container.size := by
      cases list <;> rfl
    rw [shown, MediaContainer.resize, Option.map_map, same, counted]
    apply congrArg (container.size.map ·)
    rw [← toInt_sizeOfLength64 fits]
    rfl

/-- A size of two becomes a size of zero. -/
def watchedDirectory : MediaContainer where
  size := some 2
  directory :=
    [{ title := "Heat", viewCount := some 1 },
      { title := "Ronin", viewCount := some 2 }]

def watchedTransform : Transform where
  filterMetadata item := !item.isWatched

theorem apply_to_empties_watched_directory :
    ∃ enough, ∀ rounds, enough ≤ rounds →
      ∃ final,
        applyToIn rounds [watchedTransform.effectful] watchedDirectory () =
            some (.ok (final, ())) ∧
          final.childrenMut = [] ∧
          final.size.map Int64.toInt = some 0 := by
  have visible : watchedDirectory.get .directory ≠ [] := List.cons_ne_nil _ _
  have alone : watchedDirectory.Alone .directory := by
    intro other different
    cases other with
    | directory => exact absurd rfl different
    | _ => rfl
  have plain : ∀ transform ∈ [watchedTransform.effectful],
      transform.Plain := by
    intro transform listed container world
    rw [List.mem_singleton.mp listed]
    rfl
  obtain ⟨enough, returns⟩ :=
    apply_to_filters_then_maps visible alone (by decide) plain ()
  refine ⟨enough, ?_⟩
  intro rounds many
  obtain ⟨final, left, run, items, -, size⟩ := returns rounds many
  have emptied : filterThenMapAll (watchedDirectory.put .directory)
      [watchedTransform.effectful] watchedDirectory.childrenMut () =
        ([], ()) := by rfl
  rw [emptied] at items
  have none : final.childrenMut = [] := congrArg Prod.fst items
  rw [none] at size
  exact ⟨final, run, none, size⟩

end Replex
