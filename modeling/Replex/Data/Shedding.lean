import Mathlib.Algebra.BigOperators.Group.List.Basic
import Mathlib.Algebra.Order.Ring.Int
import Mathlib.Data.List.Infix

namespace Replex.Data.Shedding

/-! Giving up items of a list from the front until what is left weighs less
than a bound. -/

variable {α : Type} (weight : α → Nat) (bound : Nat)

def load (list : List α) : Nat :=
  (list.map weight).sum

/-- The items given up while the size, which drops by the weight of each, has
not come below the bound. -/
def shed : List α → Nat → List α
  | [], _ => []
  | item :: rest, size =>
      if size < bound then []
      else item :: shed rest (size - weight item)

variable {weight bound} {list : List α} {size : Nat}

@[simp] theorem load_nil : load weight [] = 0 :=
  rfl

@[simp] theorem load_cons (item : α) (rest : List α) :
    load weight (item :: rest) = weight item + load weight rest := by
  simp [load]

@[simp] theorem load_append (front back : List α) :
    load weight (front ++ back) = load weight front + load weight back := by
  simp [load]

theorem load_eq_of_perm {list other : List α} (same : list.Perm other) :
    load weight list = load weight other :=
  (same.map weight).sum_eq

theorem shed_prefix : shed weight bound list size <+: list := by
  induction list generalizing size with
  | nil => exact List.prefix_rfl
  | cons item rest hypothesis =>
      unfold shed
      split
      · exact List.nil_prefix
      · exact (List.prefix_cons_inj item).mpr hypothesis

/-- Before the last item is given up the size is not below the bound. -/
theorem bound_le_of_shorter {fewer : List α}
    (first : fewer <+: list)
    (shorter : fewer.length < (shed weight bound list size).length) :
    bound ≤ size - load weight fewer := by
  induction list generalizing size fewer with
  | nil => simp [shed] at shorter
  | cons item rest hypothesis =>
      unfold shed at shorter
      split at shorter
      · simp at shorter
      · rename_i large
        cases fewer with
        | nil =>
            simp only [load_nil, Nat.sub_zero]
            exact Nat.le_of_not_lt large
        | cons other fewer =>
            obtain ⟨rfl, inner⟩ := List.cons_prefix_cons.mp first
            have below := hypothesis inner (by simpa using shorter)
            rw [load_cons]
            omega

/-- Whoever gives up a whole list or comes below the bound. -/
theorem shed_reaches :
    shed weight bound list size = list ∨
      size - load weight (shed weight bound list size) < bound := by
  induction list generalizing size with
  | nil => exact .inl rfl
  | cons item rest hypothesis =>
      unfold shed
      split
      · rename_i small
        exact .inr (by simpa using small)
      · rcases @hypothesis (size - weight item) with whole | below
        · exact .inl (by rw [whole])
        · right
          rw [load_cons]
          omega

end Replex.Data.Shedding
