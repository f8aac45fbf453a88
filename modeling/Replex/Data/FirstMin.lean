import Mathlib.Data.List.MinMax
import Mathlib.Data.List.Nodup

namespace Replex.Data.FirstMin

/-! The first item of least key, as an iterator's minimum picks it. -/

variable {α : Type}

section

variable {β : Type} [LinearOrder β]

/-- The entry at a position has the least key and is the first to have it. -/
structure FirstLeast (key : α → β) (list : List α) (index : Nat)
    (item : α) : Prop where
  found : list[index]? = some item
  least : ∀ {position : Nat} {other : α}, list[position]? = some other →
    key item ≤ key other
  first : ∀ {position : Nat} {other : α}, list[position]? = some other →
    key other = key item → index ≤ position

variable {key : α → β} {list : List α}

theorem FirstLeast.unique {index position : Nat} {item other : α}
    (left : FirstLeast key list index item)
    (right : FirstLeast key list position other) :
    index = position ∧ item = other := by
  have equal : key item = key other :=
    le_antisymm (left.least right.found) (right.least left.found)
  have same : index = position :=
    Nat.le_antisymm (left.first right.found equal.symm)
      (right.first left.found equal)
  have found := left.found
  rw [same, right.found] at found
  exact ⟨same, (Option.some.inj found).symm⟩

theorem FirstLeast.head {head : α} {rest : List α}
    (least : ∀ other ∈ rest, key head ≤ key other) :
    FirstLeast key (head :: rest) 0 head where
  found := rfl
  least := by
    intro position other found
    cases position with
    | zero =>
        cases found
        exact le_rfl
    | succ position =>
        exact least other (List.mem_of_getElem? found)
  first := fun _ _ => Nat.zero_le _

theorem FirstLeast.tail {head item : α} {rest : List α} {index : Nat}
    (chosen : FirstLeast key rest index item) (less : key item < key head) :
    FirstLeast key (head :: rest) (index + 1) item where
  found := chosen.found
  least := by
    intro position other found
    cases position with
    | zero =>
        cases found
        exact less.le
    | succ position => exact chosen.least found
  first := by
    intro position other found equal
    cases position with
    | zero =>
        cases found
        exact absurd equal less.ne'
    | succ position => exact Nat.succ_le_succ (chosen.first found equal)

theorem idxOf_zipIdx [DecidableEq (α × Nat)] {position : Nat} {item : α}
    (found : list[position]? = some item) :
    list.zipIdx.idxOf (item, position) = position := by
  have positions : list.zipIdx.Nodup := by
    apply List.Nodup.of_map Prod.snd
    rw [List.zipIdx_map_snd]
    exact List.nodup_range'
  obtain ⟨bound, rfl⟩ := List.getElem?_eq_some_iff.mp found
  have within : position < list.zipIdx.length := by simpa using bound
  have entry : list.zipIdx[position] = (list[position], position) := by simp
  rw [← entry]
  exact positions.idxOf_getElem position within

theorem argmin_zipIdx_eq_some_iff {index : Nat} {item : α} :
    (list.zipIdx.argmin fun entry => key entry.1) = some (item, index) ↔
      FirstLeast key list index item := by
  have : DecidableEq (α × Nat) := Classical.decEq _
  rw [← Option.mem_def, List.mem_argmin_iff]
  constructor
  · rintro ⟨listed, least, first⟩
    have found : list[index]? = some item :=
      List.mem_zipIdx_iff_getElem?.mp listed
    refine ⟨found, ?_, ?_⟩
    · intro position other elsewhere
      exact least (other, position)
        (List.mem_zipIdx_iff_getElem?.mpr elsewhere)
    · intro position other elsewhere equal
      have order := first (other, position)
        (List.mem_zipIdx_iff_getElem?.mpr elsewhere) equal.le
      rwa [idxOf_zipIdx found, idxOf_zipIdx elsewhere] at order
  · intro chosen
    refine ⟨List.mem_zipIdx_iff_getElem?.mpr chosen.found, ?_, ?_⟩
    · rintro ⟨other, position⟩ listed
      exact chosen.least (List.mem_zipIdx_iff_getElem?.mp listed)
    · rintro ⟨other, position⟩ listed smaller
      have found : list[position]? = some other :=
        List.mem_zipIdx_iff_getElem?.mp listed
      rw [idxOf_zipIdx chosen.found, idxOf_zipIdx found]
      exact chosen.first found (le_antisymm smaller (chosen.least found))

theorem exists_firstLeast (nonempty : list ≠ []) :
    ∃ index item, FirstLeast key list index item := by
  cases selected : list.zipIdx.argmin fun entry => key entry.1 with
  | none =>
      rw [List.argmin_eq_none] at selected
      exact absurd (by simpa using selected) nonempty
  | some entry =>
      exact ⟨entry.2, entry.1, argmin_zipIdx_eq_some_iff.mp selected⟩

end

variable {key : α → Int}

def minByKey (key : α → Int) : List α → Option α
  | [] => none
  | item :: rest =>
      match minByKey key rest with
      | none => some item
      | some least => if key item ≤ key least then some item else some least

theorem minByKey_eq_none_iff {list : List α} :
    minByKey key list = none ↔ list = [] := by
  cases list with
  | nil => simp [minByKey]
  | cons item rest =>
      unfold minByKey
      split
      · simp
      · split
        · simp
        · simp

theorem minByKey_mem {list : List α} {least : α}
    (selected : minByKey key list = some least) : least ∈ list := by
  induction list generalizing least with
  | nil => cases selected
  | cons item rest hypothesis =>
      unfold minByKey at selected
      split at selected
      · cases selected
        exact List.mem_cons_self
      · rename_i found equation
        split at selected
        · cases selected
          exact List.mem_cons_self
        · cases selected
          exact List.mem_cons_of_mem _ (hypothesis equation)

theorem minByKey_le {list : List α} {least : α}
    (selected : minByKey key list = some least) :
    ∀ item ∈ list, key least ≤ key item := by
  induction list generalizing least with
  | nil => cases selected
  | cons head rest hypothesis =>
      intro item member
      unfold minByKey at selected
      split at selected
      · rename_i equation
        cases selected
        rw [minByKey_eq_none_iff] at equation
        subst rest
        have same := List.mem_singleton.mp member
        subst same
        exact Int.le_refl (key item)
      · rename_i found equation
        have bound := hypothesis equation
        split at selected
        · cases selected
          rcases List.mem_cons.mp member with rfl | member
          · omega
          · have := bound item member
            omega
        · cases selected
          rcases List.mem_cons.mp member with rfl | member
          · omega
          · exact bound item member

theorem firstLeast_of_minByKey {list : List α} {item : α}
    (selected : minByKey key list = some item) :
    ∃ index, FirstLeast key list index item := by
  induction list generalizing item with
  | nil => cases selected
  | cons head rest hypothesis =>
      unfold minByKey at selected
      split at selected
      · rename_i nothing
        cases selected
        rw [minByKey_eq_none_iff] at nothing
        subst rest
        exact ⟨0, .head (by simp)⟩
      · rename_i least equation
        split at selected
        · rename_i notMore
          cases selected
          refine ⟨0, .head fun other listed => ?_⟩
          exact notMore.trans (minByKey_le equation other listed)
        · rename_i more
          cases selected
          obtain ⟨index, chosen⟩ := hypothesis equation
          exact ⟨index + 1, chosen.tail (not_le.mp more)⟩

theorem minByKey_eq_some_iff {list : List α} {item : α} :
    minByKey key list = some item ↔
      ∃ index, FirstLeast key list index item := by
  refine ⟨firstLeast_of_minByKey, ?_⟩
  rintro ⟨index, chosen⟩
  cases selected : minByKey key list with
  | none =>
      rw [minByKey_eq_none_iff] at selected
      subst list
      simpa using chosen.found
  | some least =>
      obtain ⟨position, same⟩ := firstLeast_of_minByKey selected
      rw [(same.unique chosen).2]

/-! The iterator keeps the best item so far and computes both keys at each
comparison, so a key that cannot be computed is met only beside another. -/

def keepLeast? (key : α → Option Int) (least item : α) : Option α := do
  let leastKey ← key least
  let itemKey ← key item
  some (if leastKey ≤ itemKey then least else item)

def minByKey? (key : α → Option Int) : List α → Option (Option α)
  | [] => some none
  | first :: rest => (rest.foldlM (keepLeast? key) first).map some

theorem minByKey_cons_cons (first item : α) (rest : List α) :
    minByKey key (first :: item :: rest) =
      minByKey key ((if key first ≤ key item then first else item) ::
        rest) := by
  simp only [minByKey]
  cases minByKey key rest with
  | none => by_cases order : key first ≤ key item <;> simp [order]
  | some least =>
      by_cases order : key first ≤ key item <;>
        by_cases later : key item ≤ key least <;>
        by_cases other : key first ≤ key least <;>
        simp [order, later, other] <;> omega

section

variable {partialKey : α → Option Int}

theorem keepLeast?_eq_some {least item : α}
    (first : partialKey least = some (key least))
    (second : partialKey item = some (key item)) :
    keepLeast? partialKey least item =
      some (if key least ≤ key item then least else item) := by
  simp [keepLeast?, first, second]

theorem minByKey?_eq_some {list : List α}
    (computed : ∀ item ∈ list, partialKey item = some (key item)) :
    minByKey? partialKey list = some (minByKey key list) := by
  cases list with
  | nil => rfl
  | cons first rest =>
      induction rest generalizing first with
      | nil => rfl
      | cons item rest hypothesis =>
          have kept := keepLeast?_eq_some (computed first (by simp))
            (computed item (by simp))
          rw [minByKey_cons_cons, ← hypothesis]
          · simp only [minByKey?, List.foldlM_cons, kept,
              Option.bind_eq_bind, Option.bind_some]
          · intro other listed
            apply computed
            split at listed
            · rcases List.mem_cons.mp listed with rfl | later
              · exact List.mem_cons_self
              · exact List.mem_cons_of_mem _ (List.mem_cons_of_mem _ later)
            · exact List.mem_cons_of_mem _ listed

theorem foldlM_keepLeast?_isSome_iff {rest : List α} {least : α} :
    (rest.foldlM (keepLeast? partialKey) least).isSome = true ↔
      rest = [] ∨
        ∀ item ∈ least :: rest, (partialKey item).isSome = true := by
  induction rest generalizing least with
  | nil => simp
  | cons item rest hypothesis =>
      simp only [List.foldlM_cons, Option.bind_eq_bind]
      cases first : partialKey least with
      | none => simp [keepLeast?, first]
      | some leastKey =>
          cases second : partialKey item with
          | none => simp [keepLeast?, first, second]
          | some itemKey =>
              simp only [keepLeast?, first, second, Option.bind_eq_bind,
                Option.bind_some, hypothesis]
              split <;> cases rest <;> simp [first, second]

theorem minByKey?_isSome_iff {list : List α} :
    (minByKey? partialKey list).isSome = true ↔
      list.length ≤ 1 ∨ ∀ item ∈ list, (partialKey item).isSome = true := by
  cases list with
  | nil => simp [minByKey?]
  | cons first rest =>
      simp only [minByKey?, Option.isSome_map, foldlM_keepLeast?_isSome_iff]
      cases rest <;> simp

end

end Replex.Data.FirstMin
