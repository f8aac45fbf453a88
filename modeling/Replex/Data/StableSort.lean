import Mathlib.Data.List.Sort

namespace Replex.Data.StableSort

/-! Stable sorting of ascending items by falling weight. -/

variable {α β : Type} [LinearOrder β] (weight : α → β)

def byFallingWeight (list : List α) : List α :=
  list.insertionSort fun left right => weight right ≤ weight left

@[simp] theorem mem_byFallingWeight {list : List α} {item : α} :
    item ∈ byFallingWeight weight list ↔ item ∈ list :=
  List.mem_insertionSort _

variable [Preorder α]

/-- Heavier items come first, and of equally heavy ones the smaller. -/
def Before (left right : α) : Prop :=
  weight right < weight left ∨ weight left = weight right ∧ left < right

variable {weight}

theorem Before.asymm {left right : α} (before : Before weight left right) :
    ¬ Before weight right left := by
  rintro (lighter | ⟨_, smaller⟩) <;>
    rcases before with heavier | ⟨equal, less⟩
  · exact lt_asymm heavier lighter
  · exact absurd equal lighter.ne
  · rename_i equal
    exact absurd equal heavier.ne
  · exact lt_asymm less smaller

theorem Before.trans {left middle right : α}
    (first : Before weight left middle) (second : Before weight middle right) :
    Before weight left right := by
  rcases first with heavier | ⟨equal, less⟩ <;>
    rcases second with further | ⟨same, more⟩
  · exact .inl (further.trans heavier)
  · exact .inl (same ▸ heavier)
  · exact .inl (equal ▸ further)
  · exact .inr ⟨equal.trans same, less.trans more⟩

/-- An item smaller than all of a sorted list goes before its equals. -/
theorem pairwise_orderedInsert {list : List α} {item : α}
    (sorted : list.Pairwise (Before weight))
    (smallest : ∀ other ∈ list, item < other) :
    (list.orderedInsert (fun left right => weight right ≤ weight left)
      item).Pairwise (Before weight) := by
  induction list with
  | nil => simp
  | cons head tail hypothesis =>
      obtain ⟨first, rest⟩ := List.pairwise_cons.mp sorted
      have small := smallest head List.mem_cons_self
      rw [List.orderedInsert_cons]
      split
      · rename_i notHeavier
        have leads : Before weight item head := by
          rcases lt_or_eq_of_le notHeavier with lighter | equal
          · exact .inl lighter
          · exact .inr ⟨equal.symm, small⟩
        refine List.pairwise_cons.mpr ⟨?_, sorted⟩
        intro other listed
        rcases List.mem_cons.mp listed with rfl | later
        · exact leads
        · exact leads.trans (first other later)
      · rename_i heavier
        refine List.pairwise_cons.mpr ⟨?_, hypothesis rest ?_⟩
        · intro other listed
          rcases (List.mem_orderedInsert _).mp listed with rfl | later
          · exact .inl (not_le.mp heavier)
          · exact first other later
        · intro other listed
          exact smallest other (List.mem_cons_of_mem head listed)

theorem pairwise_byFallingWeight {list : List α}
    (ascending : list.Pairwise (· < ·)) :
    (byFallingWeight weight list).Pairwise (Before weight) := by
  induction list with
  | nil => exact .nil
  | cons head tail hypothesis =>
      obtain ⟨smallest, rest⟩ := List.pairwise_cons.mp ascending
      refine pairwise_orderedInsert (hypothesis rest) ?_
      intro other listed
      exact smallest other ((mem_byFallingWeight weight).mp listed)

theorem head_byFallingWeight_eq_some_iff {list : List α} {first : α}
    (ascending : list.Pairwise (· < ·)) :
    (byFallingWeight weight list).head? = some first ↔
      first ∈ list ∧ ∀ other ∈ list, other = first ∨ Before weight first other := by
  have sorted : (byFallingWeight weight list).Pairwise (Before weight) :=
    pairwise_byFallingWeight ascending
  have members (item : α) :
      item ∈ byFallingWeight weight list ↔ item ∈ list :=
    mem_byFallingWeight weight
  cases equation : byFallingWeight weight list with
  | nil =>
      rw [equation] at members
      simpa using fun listed => absurd ((members first).mpr listed) (by simp)
  | cons head tail =>
      rw [equation] at sorted members
      have leads := (List.pairwise_cons.mp sorted).1
      have all : ∀ other ∈ list, other = head ∨ Before weight head other := by
        intro other listed
        rcases List.mem_cons.mp ((members other).mpr listed) with same | later
        · exact .inl same
        · exact .inr (leads other later)
      have listed := (members head).mp List.mem_cons_self
      simp only [List.head?_cons, Option.some.injEq]
      constructor
      · rintro rfl
        exact ⟨listed, all⟩
      · rintro ⟨among, foremost⟩
        rcases all first among with same | before
        · exact same.symm
        · rcases foremost head listed with same | after
          · exact same
          · exact absurd before after.asymm

end Replex.Data.StableSort
