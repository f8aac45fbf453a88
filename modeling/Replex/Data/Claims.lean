import Mathlib.Algebra.Order.Ring.Nat
import Mathlib.Data.List.Perm.Basic
import Mathlib.Data.List.Nodup

namespace Replex.Data

/-! Claims on keys: a shared set of the keys that are taken, and the tasks
that have taken them. -/

namespace Claims

variable {τ κ : Type} {held : τ → Option κ}

/-- The set is exactly what the tasks hold, and no key is held twice. -/
structure Exact (held : τ → Option κ) (tasks : List τ) (claimed : List κ) :
    Prop where
  once : claimed.Nodup
  same : (tasks.filterMap held).Perm claimed

theorem exact_empty : Exact held [] [] :=
  ⟨List.nodup_nil, List.Perm.refl []⟩

theorem exists_split {tasks : List τ} {index : Nat} {task : τ}
    (found : tasks[index]? = some task) :
    ∃ front back, tasks = front ++ task :: back ∧ front.length = index ∧
      ∀ next, tasks.set index next = front ++ next :: back := by
  obtain ⟨inside, rfl⟩ := List.getElem?_eq_some_iff.mp found
  refine ⟨tasks.take index, tasks.drop (index + 1), ?_, ?_, ?_⟩
  · simp
  · exact List.length_take_of_le (Nat.le_of_lt inside)
  · intro next
    rw [List.set_eq_take_append_cons_drop, if_pos inside]

variable {tasks : List τ} {claimed : List κ}

theorem Exact.start (exact : Exact held tasks claimed) {task : τ}
    (idle : held task = none) : Exact held (tasks ++ [task]) claimed := by
  refine ⟨exact.once, ?_⟩
  rw [List.filterMap_append, List.filterMap_cons_none idle,
    List.filterMap_nil, List.append_nil]
  exact exact.same

/-- A step of a task that neither claims nor releases. -/
theorem Exact.step (exact : Exact held tasks claimed) {index : Nat}
    {task next : τ} (found : tasks[index]? = some task)
    (kept : held next = held task) :
    Exact held (tasks.set index next) claimed := by
  obtain ⟨front, back, rfl, -, replaced⟩ := exists_split found
  refine ⟨exact.once, ?_⟩
  have same := exact.same
  rw [List.filterMap_append, List.filterMap_cons] at same
  rw [replaced, List.filterMap_append, List.filterMap_cons, kept]
  exact same

theorem Exact.claim (exact : Exact held tasks claimed) {index : Nat}
    {task next : τ} {key : κ} (found : tasks[index]? = some task)
    (idle : held task = none) (takes : held next = some key)
    (free : key ∉ claimed) :
    Exact held (tasks.set index next) (key :: claimed) := by
  obtain ⟨front, back, rfl, -, replaced⟩ := exists_split found
  refine ⟨List.nodup_cons.mpr ⟨free, exact.once⟩, ?_⟩
  have same := exact.same
  rw [List.filterMap_append, List.filterMap_cons_none idle] at same
  rw [replaced, List.filterMap_append, List.filterMap_cons_some takes]
  exact List.perm_middle.trans (same.cons key)

theorem Exact.mem_iff (exact : Exact held tasks claimed) (key : κ) :
    key ∈ claimed ↔ ∃ task ∈ tasks, held task = some key := by
  rw [← exact.same.mem_iff, List.mem_filterMap]

/-- No two tasks hold one key. -/
theorem Exact.unique (exact : Exact held tasks claimed) {first second : Nat}
    {task other : τ} {key : κ} (found : tasks[first]? = some task)
    (others : tasks[second]? = some other) (holds : held task = some key)
    (also : held other = some key) : first = second := by
  have once := exact.same.nodup_iff.mpr exact.once
  obtain ⟨front, back, rfl, rfl, -⟩ := exists_split found
  rw [List.filterMap_append, List.filterMap_cons_some holds,
    List.nodup_append] at once
  obtain ⟨-, tail, apart⟩ := once
  rcases Nat.lt_trichotomy second front.length with before | same | after
  · rw [List.getElem?_append_left before] at others
    have early := List.mem_filterMap.mpr
      ⟨other, List.mem_of_getElem? others, also⟩
    exact absurd rfl (apart key early key List.mem_cons_self)
  · exact same.symm
  · rw [List.getElem?_append_right (by omega)] at others
    obtain ⟨offset, shifted⟩ : ∃ offset, second - front.length = offset + 1 :=
      ⟨second - front.length - 1, by omega⟩
    rw [shifted, List.getElem?_cons_succ] at others
    have late := List.mem_filterMap.mpr
      ⟨other, List.mem_of_getElem? others, also⟩
    exact absurd late (List.nodup_cons.mp tail).1

/-- An idle task has no part in the claims. -/
theorem Exact.length_lt (exact : Exact held tasks claimed) {index : Nat}
    {task : τ} (found : tasks[index]? = some task) (idle : held task = none) :
    claimed.length < tasks.length := by
  rw [← exact.same.length_eq, List.length_filterMap_lt_length_iff_exists]
  exact ⟨task, List.mem_of_getElem? found, idle⟩

theorem Exact.empty_of_idle (exact : Exact held tasks claimed)
    (idle : ∀ task ∈ tasks, held task = none) : claimed = [] := by
  have none := List.filterMap_eq_nil_iff.mpr idle
  have same := exact.same
  rw [none] at same
  exact same.nil_eq.symm

variable [DecidableEq κ]

theorem Exact.release (exact : Exact held tasks claimed) {index : Nat}
    {task next : τ} {key : κ} (found : tasks[index]? = some task)
    (holds : held task = some key) (idle : held next = none) :
    Exact held (tasks.set index next) (claimed.erase key) := by
  obtain ⟨front, back, rfl, -, replaced⟩ := exists_split found
  refine ⟨exact.once.erase key, ?_⟩
  have same := exact.same
  rw [List.filterMap_append, List.filterMap_cons_some holds] at same
  rw [replaced, List.filterMap_append, List.filterMap_cons_none idle]
  have moved := (List.perm_middle.symm.trans same).erase key
  rwa [List.erase_cons_head] at moved

/-- Whoever holds the key loses it. -/
theorem Exact.revoke (exact : Exact held tasks claimed) {key : κ}
    {revoked : τ → τ}
    (loses : ∀ task ∈ tasks, held task = some key →
      held (revoked task) = none)
    (keeps : ∀ task ∈ tasks, held task ≠ some key →
      held (revoked task) = held task) :
    Exact held (tasks.map revoked) (claimed.erase key) := by
  refine ⟨exact.once.erase key, ?_⟩
  have remaining : (tasks.map revoked).filterMap held =
      (tasks.filterMap held).filter (· != key) := by
    rw [List.filterMap_map, List.filter_filterMap]
    apply List.filterMap_congr
    intro task listed
    by_cases holds : held task = some key
    · rw [Function.comp_apply, loses task listed holds, holds,
        Option.filter_some]
      simp
    · rw [Function.comp_apply, keeps task listed holds]
      cases holding : held task with
      | none => rfl
      | some other =>
          have different : other ≠ key := by
            rintro rfl
            exact holds holding
          rw [Option.filter_some, if_pos (bne_iff_ne.mpr different)]
  rw [remaining, exact.once.erase_eq_filter]
  exact exact.same.filter _

/-! Keys drawn from a counter of 64 bits, which comes round. -/

/-- The counter has given out these, one after the other. -/
def Drawn (next : UInt64) (claimed : List UInt64) : Prop :=
  ∃ first, next = first + UInt64.ofNat claimed.length ∧
    ∀ ticket ∈ claimed, ∃ earlier < claimed.length,
      ticket = first + UInt64.ofNat earlier

theorem drawn_nil (next : UInt64) : Drawn next [] :=
  ⟨next, by simp, by simp⟩

variable {next : UInt64} {claimed : List UInt64}

theorem Drawn.draw (drawn : Drawn next claimed) :
    Drawn (next + 1) (next :: claimed) := by
  obtain ⟨first, rfl, before⟩ := drawn
  refine ⟨first, ?_, ?_⟩
  · rw [List.length_cons, UInt64.ofNat_add, UInt64.add_assoc]
    rfl
  · intro ticket listed
    rcases List.mem_cons.mp listed with rfl | earlier
    · exact ⟨claimed.length, Nat.lt_succ_self _, rfl⟩
    · obtain ⟨position, inside, same⟩ := before ticket earlier
      exact ⟨position, Nat.lt_succ_of_lt inside, same⟩

/-- Until it has come round, what the counter gives out next is free. -/
theorem Drawn.free (drawn : Drawn next claimed)
    (room : claimed.length < 2 ^ 64) : next ∉ claimed := by
  obtain ⟨first, rfl, before⟩ := drawn
  intro listed
  obtain ⟨earlier, inside, same⟩ := before _ listed
  have numbers := congrArg UInt64.toNat ((UInt64.add_right_inj first).mp same)
  rw [UInt64.toNat_ofNat_of_lt' room,
    UInt64.toNat_ofNat_of_lt' (Nat.lt_trans inside room)] at numbers
  exact Nat.ne_of_lt inside numbers.symm

end Claims

end Replex.Data
