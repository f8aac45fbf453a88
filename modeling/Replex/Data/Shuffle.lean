import Mathlib.Data.List.Basic

namespace Replex.Data

/-! Lists merged in any order that keeps the order of each. -/

variable {α β : Type}

inductive Shuffle : List α → List α → List α → Prop
  | nil : Shuffle [] [] []
  | left {item : α} {left right merged : List α}
      (later : Shuffle left right merged) :
      Shuffle (item :: left) right (item :: merged)
  | right {item : α} {left right merged : List α}
      (later : Shuffle left right merged) :
      Shuffle left (item :: right) (item :: merged)

/-- Several lists, each merged into what the ones before it gave. -/
inductive Shuffles : List α → List (List α) → List α → Prop
  | done (start : List α) : Shuffles start [] start
  | row {start row next merged : List α} {rows : List (List α)}
      (first : Shuffle start row next) (later : Shuffles next rows merged) :
      Shuffles start (row :: rows) merged

namespace Shuffle

theorem nil_left (right : List α) : Shuffle [] right right := by
  induction right with
  | nil => exact .nil
  | cons item right hypothesis => exact .right hypothesis

theorem nil_right (left : List α) : Shuffle left [] left := by
  induction left with
  | nil => exact .nil
  | cons item left hypothesis => exact .left hypothesis

variable {left right merged : List α}

theorem perm (shuffle : Shuffle left right merged) :
    merged.Perm (left ++ right) := by
  induction shuffle with
  | nil => exact .nil
  | left _ hypothesis => exact hypothesis.cons _
  | right _ hypothesis =>
      exact (hypothesis.cons _).trans List.perm_middle.symm

theorem left_sublist (shuffle : Shuffle left right merged) :
    left.Sublist merged := by
  induction shuffle with
  | nil => exact .slnil
  | left _ hypothesis => exact hypothesis.cons_cons _
  | right _ hypothesis => exact hypothesis.cons _

theorem right_sublist (shuffle : Shuffle left right merged) :
    right.Sublist merged := by
  induction shuffle with
  | nil => exact .slnil
  | left _ hypothesis => exact hypothesis.cons _
  | right _ hypothesis => exact hypothesis.cons_cons _

end Shuffle

namespace Shuffles

variable {start merged : List α} {rows : List (List α)}

theorem perm (shuffles : Shuffles start rows merged) :
    merged.Perm (start ++ rows.flatten) := by
  induction shuffles with
  | done start => simp
  | @row start row next merged rows first later hypothesis =>
      have onto := hypothesis.trans (first.perm.append_right rows.flatten)
      simpa using onto

theorem start_sublist (shuffles : Shuffles start rows merged) :
    start.Sublist merged := by
  induction shuffles with
  | done start => exact List.Sublist.refl start
  | row first later hypothesis => exact first.left_sublist.trans hypothesis

theorem row_sublist (shuffles : Shuffles start rows merged) {row : List α}
    (listed : row ∈ rows) : row.Sublist merged := by
  induction shuffles with
  | done start => cases listed
  | row first later hypothesis =>
      rcases List.mem_cons.mp listed with rfl | listed
      · exact first.right_sublist.trans later.start_sublist
      · exact hypothesis listed

/-- A fold of any merge of two lists is a merge of all of them. -/
theorem foldl {merge : List α → List α → List α}
    (each : ∀ left right, Shuffle left right (merge left right))
    (start : List α) (rows : List (List α)) :
    Shuffles start rows (rows.foldl merge start) := by
  induction rows generalizing start with
  | nil => exact .done start
  | cons row rows hypothesis =>
      exact .row (each start row) (hypothesis (merge start row))

end Shuffles

end Replex.Data
