import Mathlib.Algebra.BigOperators.Group.List.Basic
import Mathlib.Algebra.Order.Ring.Int
import Mathlib.Data.List.AList
import Mathlib.Data.List.Dedup
import Replex.Data.Claims

namespace Replex.Data

/-! Sums over keyed values and over tasks, and what a change of one of them
does to the sum. -/

namespace Ledger

section

variable {κ ν : Type} [DecidableEq κ]

abbrev Table (κ ν : Type) := AList fun _ : κ => ν

def total (size : ν → Nat) (table : Table κ ν) : Nat :=
  (table.entries.map fun entry => size entry.2).sum

/-- What a key adds to the total. -/
def sizeAt (size : ν → Nat) (table : Table κ ν) (key : κ) : Nat :=
  ((table.lookup key).map size).getD 0

variable (size : ν → Nat) (table : Table κ ν) (key : κ)

theorem sum_kerase (entries : List (Sigma fun _ : κ => ν)) :
    ((entries.kerase key).map fun entry => size entry.2).sum +
        ((entries.dlookup key).map size).getD 0 =
      (entries.map fun entry => size entry.2).sum := by
  induction entries with
  | nil => rfl
  | cons entry entries hypothesis =>
      obtain ⟨other, value⟩ := entry
      by_cases same : other = key
      · subst same
        have gone : List.kerase other (⟨other, value⟩ :: entries) = entries :=
          List.kerase_cons_eq rfl
        rw [gone, List.dlookup_cons_eq]
        simp [Nat.add_comm]
      · have kept : List.kerase key (⟨other, value⟩ :: entries) =
            ⟨other, value⟩ :: entries.kerase key :=
          List.kerase_cons_ne (Ne.symm same)
        rw [kept, List.dlookup_cons_ne _ _ (Ne.symm same)]
        simp only [List.map_cons, List.sum_cons]
        omega

theorem total_erase :
    total size (table.erase key) + sizeAt size table key =
      total size table :=
  sum_kerase size key table.entries

theorem total_insert (value : ν) :
    total size (table.insert key value) + sizeAt size table key =
      total size table + size value := by
  have erased := sum_kerase size key table.entries
  have inserted : total size (table.insert key value) =
      size value +
        ((table.entries.kerase key).map fun entry => size entry.2).sum := by
    rw [total, AList.entries_insert, List.map_cons, List.sum_cons]
  rw [inserted, total, sizeAt, AList.lookup]
  omega

variable {table}

theorem sizeAt_erase_of_ne {key other : κ}
    (apart : other ≠ key) :
    sizeAt size (table.erase key) other = sizeAt size table other := by
  rw [sizeAt, sizeAt, AList.lookup_erase_ne apart]

theorem sizeAt_insert_self (value : ν) :
    sizeAt size (table.insert key value) key = size value := by
  rw [sizeAt, AList.lookup_insert]
  rfl

theorem sizeAt_insert_of_ne {key other : κ} (value : ν)
    (apart : other ≠ key) :
    sizeAt size (table.insert key value) other = sizeAt size table other := by
  rw [sizeAt, sizeAt, AList.lookup_insert_ne apart]

/-- What weighs nothing still weighs nothing when a key is erased. -/
theorem sizeAt_erase_eq_zero {other : κ}
    (nothing : sizeAt size table other = 0) (key : κ) :
    sizeAt size (table.erase key) other = 0 := by
  by_cases same : other = key
  · subst same
    rw [sizeAt, AList.lookup_erase]
    rfl
  · rw [sizeAt_erase_of_ne size same, nothing]

theorem mem_keys_of_sizeAt (found : sizeAt size table key ≠ 0) :
    key ∈ table.keys := by
  by_contra absent
  apply found
  rw [sizeAt, AList.lookup_eq_none.mpr absent]
  rfl

theorem total_eq_zero
    (nothing : ∀ key, sizeAt size table key = 0) : total size table = 0 := by
  apply List.sum_eq_zero
  intro value listed
  obtain ⟨⟨key, entry⟩, member, rfl⟩ := List.mem_map.mp listed
  have found : table.lookup key = some entry := AList.mem_lookup_iff.mpr member
  have none := nothing key
  rwa [sizeAt, found, Option.map_some, Option.getD_some] at none

/-- A walk over the keys, each once, finds the whole total. -/
theorem sum_sizeAt {keys : List κ} (once : keys.Nodup)
    (covers : ∀ key, sizeAt size table key ≠ 0 → key ∈ keys) :
    (keys.map (sizeAt size table)).sum = total size table := by
  induction keys generalizing table with
  | nil =>
      refine (total_eq_zero size fun key => ?_).symm
      by_contra found
      exact List.not_mem_nil (covers key found)
  | cons key keys hypothesis =>
      obtain ⟨fresh, once⟩ := List.nodup_cons.mp once
      have rest : ∀ other, sizeAt size (table.erase key) other ≠ 0 →
          other ∈ keys := by
        intro other found
        have apart : other ≠ key := by
          rintro rfl
          exact found (by rw [sizeAt, AList.lookup_erase]; rfl)
        rw [sizeAt_erase_of_ne size apart] at found
        exact (List.mem_cons.mp (covers other found)).resolve_left apart
      have sameSizes : keys.map (sizeAt size (table.erase key)) =
          keys.map (sizeAt size table) := by
        apply List.map_congr_left
        rintro other listed
        apply sizeAt_erase_of_ne
        rintro rfl
        exact fresh listed
      have erased := total_erase size table key
      rw [List.map_cons, List.sum_cons, ← sameSizes, hypothesis once rest]
      omega

/-- Two tables with the same sizes have the same total. -/
theorem total_congr {other : Table κ ν}
    (same : ∀ key, sizeAt size table key = sizeAt size other key) :
    total size table = total size other := by
  have covers : ∀ key, sizeAt size table key ≠ 0 →
      key ∈ (table.keys ++ other.keys).dedup := by
    intro key found
    rw [List.mem_dedup, List.mem_append]
    exact .inl (mem_keys_of_sizeAt size key found)
  have others : ∀ key, sizeAt size other key ≠ 0 →
      key ∈ (table.keys ++ other.keys).dedup := by
    intro key found
    rw [List.mem_dedup, List.mem_append]
    exact .inr (mem_keys_of_sizeAt size key found)
  rw [← sum_sizeAt size (List.nodup_dedup _) covers,
    ← sum_sizeAt size (List.nodup_dedup _) others, funext same]

end

section

variable {τ : Type} (amount : τ → Int)

/-- What the tasks add up to. -/
def outstanding (tasks : List τ) : Int :=
  (tasks.map amount).sum

variable {amount} {tasks : List τ} {index : Nat} {task : τ}

theorem outstanding_append (next : τ) :
    outstanding amount (tasks ++ [next]) =
      outstanding amount tasks + amount next := by
  simp [outstanding]

theorem outstanding_set (found : tasks[index]? = some task) (next : τ) :
    outstanding amount (tasks.set index next) =
      outstanding amount tasks - amount task + amount next := by
  obtain ⟨front, back, rfl, -, replaced⟩ := Claims.exists_split found
  rw [replaced]
  simp only [outstanding, List.map_append, List.map_cons, List.sum_append,
    List.sum_cons]
  omega

theorem outstanding_eraseIdx (found : tasks[index]? = some task) :
    outstanding amount (tasks.eraseIdx index) =
      outstanding amount tasks - amount task := by
  obtain ⟨front, back, rfl, rfl, -⟩ := Claims.exists_split found
  rw [List.eraseIdx_append_of_length_le (Nat.le_refl _), Nat.sub_self,
    List.eraseIdx_cons_zero]
  simp only [outstanding, List.map_append, List.map_cons, List.sum_append,
    List.sum_cons]
  omega

theorem outstanding_eq_zero (settled : ∀ task ∈ tasks, amount task = 0) :
    outstanding amount tasks = 0 := by
  apply List.sum_eq_zero
  intro value listed
  obtain ⟨task, member, rfl⟩ := List.mem_map.mp listed
  exact settled task member

end

end Ledger

end Replex.Data
