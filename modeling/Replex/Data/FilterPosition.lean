import Mathlib.Data.List.Basic

namespace Replex.Data.FilterPosition

/-! Positions before and after a filter, in lists without repetition. -/

variable {α : Type} {keep : α → Bool} {item : α}

/-- Filtering never moves an item towards the end. -/
theorem le_of_getElem?_filter {list : List α} (distinct : list.Nodup)
    {position index : Nat}
    (kept : (list.filter keep)[position]? = some item)
    (original : list[index]? = some item) : position ≤ index := by
  induction list generalizing position index with
  | nil => cases original
  | cons head tail hypothesis =>
      obtain ⟨fresh, distinctTail⟩ := List.nodup_cons.mp distinct
      cases verdict : keep head with
      | false =>
          rw [List.filter_cons_of_neg (by simp [verdict])] at kept
          cases index with
          | zero =>
              cases original
              have member := List.mem_filter.mp (List.mem_of_getElem? kept)
              exact absurd member.1 fresh
          | succ index =>
              have earlier := hypothesis distinctTail kept original
              omega
      | true =>
          rw [List.filter_cons_of_pos verdict] at kept
          cases position with
          | zero => omega
          | succ position =>
              cases index with
              | zero =>
                  cases original
                  have member := List.mem_filter.mp (List.mem_of_getElem? kept)
                  exact absurd member.1 fresh
              | succ index =>
                  have earlier := hypothesis distinctTail kept original
                  omega

/-- An item stays at its position exactly when nothing up to it is dropped. -/
theorem getElem?_eq_iff_of_filter {list : List α} (distinct : list.Nodup)
    {position : Nat} (kept : (list.filter keep)[position]? = some item) :
    list[position]? = some item ↔
      ∀ other ∈ list.take (position + 1), keep other = true := by
  induction list generalizing position with
  | nil => cases kept
  | cons head tail hypothesis =>
      obtain ⟨fresh, distinctTail⟩ := List.nodup_cons.mp distinct
      cases verdict : keep head with
      | false =>
          have dropped : ¬ ∀ other ∈ (head :: tail).take (position + 1),
              keep other = true := by
            intro all
            have kept := all head (by simp)
            rw [verdict] at kept
            cases kept
          refine iff_of_false ?_ dropped
          intro original
          rw [List.filter_cons_of_neg (by simp [verdict])] at kept
          cases position with
          | zero =>
              cases original
              have member := List.mem_filter.mp (List.mem_of_getElem? kept)
              exact fresh member.1
          | succ position =>
              have earlier := le_of_getElem?_filter distinctTail kept original
              omega
      | true =>
          rw [List.filter_cons_of_pos verdict] at kept
          cases position with
          | zero => simpa [verdict] using kept
          | succ position =>
              have rest := hypothesis distinctTail kept
              simpa [verdict] using rest

end Replex.Data.FilterPosition
