import Mathlib.Data.List.Basic
import Mathlib.Data.List.Perm.Basic
import Mathlib.Data.Nat.Find

namespace Replex.Data

/-! Lists read in windows of one size, and a reader that asks for one after the
other. -/

namespace Windows

variable {α : Type}

def window (size page : Nat) (list : List α) : List α :=
  (list.drop (page * size)).take size

theorem take_append_window (size page : Nat) (list : List α) :
    list.take (page * size) ++ window size page list =
      list.take ((page + 1) * size) := by
  rw [window, Nat.succ_mul, List.take_add]

/-- The windows of several lists, page by page, are what the pages cover. -/
theorem perm_flatMap_window (size count : Nat) (lists : List (List α)) :
    ((List.range count).flatMap fun page =>
      lists.flatMap (window size page)).Perm
        (lists.flatMap (·.take (count * size))) := by
  induction count with
  | zero => simp
  | succ count hypothesis =>
      rw [List.range_succ, List.flatMap_append, List.flatMap_singleton]
      have both := (hypothesis.append_right
        (lists.flatMap (window size count))).trans
          (List.flatMap_append_perm lists _ _)
      simpa only [take_append_window] using both

theorem length_flatMap_take_le (count : Nat) (lists : List (List α)) :
    (lists.flatMap (·.take count)).length ≤ lists.flatten.length := by
  induction lists with
  | nil => simp
  | cons list lists shorter =>
      rw [List.flatMap_cons, List.flatten_cons, List.length_append,
        List.length_append, List.length_take]
      omega

theorem length_flatMap_take_eq_iff {count : Nat} {lists : List (List α)} :
    (lists.flatMap (·.take count)).length = lists.flatten.length ↔
      ∀ list ∈ lists, list.length ≤ count := by
  induction lists with
  | nil => simp
  | cons list lists hypothesis =>
      have fewer := length_flatMap_take_le count lists
      rw [List.flatMap_cons, List.flatten_cons, List.length_append,
        List.length_append, List.length_take, List.forall_mem_cons,
        ← hypothesis]
      omega

theorem flatMap_take_eq {count : Nat} {lists : List (List α)}
    (covered : ∀ list ∈ lists, list.length ≤ count) :
    lists.flatMap (·.take count) = lists.flatten := by
  have whole : lists.map (·.take count) = lists.map id :=
    List.map_congr_left fun list listed =>
      List.take_of_length_le (covered list listed)
  rw [List.flatMap_def, whole, List.map_id]

/-! Asking for pages as long as the last one announces another. -/

section

variable {σ : Type} (serve : Nat → σ) (more : Nat → σ → Bool)

def visit : Nat → Nat → Option (List σ)
  | 0, _ => none
  | fuel + 1, page =>
      if more (page + 1) (serve page) then
        (visit fuel (page + 1)).map (serve page :: ·)
      else
        some [serve page]

variable {serve more}

/-- The pages up to the first that announces no other, with enough fuel. -/
theorem visit_eq {last : Nat}
    (goes : ∀ page < last, more (page + 1) (serve page) = true)
    (stops : more (last + 1) (serve last) = false) (fuel : Nat) :
    visit serve more fuel 0 =
      if last < fuel then some ((List.range (last + 1)).map serve)
      else none := by
  have run (fuel page : Nat) (before : page ≤ last) :
      visit serve more fuel page =
        if last < page + fuel then
          some ((List.range' page (last + 1 - page)).map serve)
        else
          none := by
    induction fuel generalizing page with
    | zero => rw [visit, if_neg (by omega)]
    | succ fuel hypothesis =>
        rw [visit]
        by_cases final : page = last
        · subst final
          have one : page + 1 - page = 1 := by omega
          rw [stops, if_neg (by simp), if_pos (by omega), one]
          rfl
        · have length : last + 1 - page = (last + 1 - (page + 1)) + 1 := by
            omega
          have sum : page + 1 + fuel = page + (fuel + 1) := by omega
          rw [if_pos (goes page (by omega)), hypothesis _ (by omega), sum,
            length, List.range'_succ]
          split <;> rfl
  rw [run fuel 0 (Nat.zero_le last), Nat.zero_add, Nat.sub_zero,
    List.range_eq_range']

theorem exists_last {bound : Nat}
    (ends : more (bound + 1) (serve bound) = false) :
    ∃ last ≤ bound, (∀ page < last, more (page + 1) (serve page) = true) ∧
      more (last + 1) (serve last) = false := by
  have some : ∃ page, more (page + 1) (serve page) = false := ⟨bound, ends⟩
  refine ⟨Nat.find some, Nat.find_min' some ends, ?_, Nat.find_spec some⟩
  intro page before
  simpa using Nat.find_min some before

end

end Windows

end Replex.Data
