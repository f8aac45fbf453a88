import Mathlib.Data.List.Dedup

namespace Replex.Data

/-! Multimaps as their key-value pairs in insertion order. -/

structure MultiMap (κ ν : Type) where
  pairs : List (κ × ν)
  deriving DecidableEq, Repr

namespace MultiMap

variable {κ ν : Type} [DecidableEq κ]

def getAll (map : MultiMap κ ν) (key : κ) : List ν :=
  map.pairs.filterMap fun entry =>
    if entry.1 = key then some entry.2 else none

def get? (map : MultiMap κ ν) (key : κ) : Option ν :=
  (map.getAll key).head?

def remove (map : MultiMap κ ν) (key : κ) : MultiMap κ ν :=
  ⟨map.pairs.filter fun entry => decide (entry.1 ≠ key)⟩

def insert (map : MultiMap κ ν) (key : κ) (value : ν) : MultiMap κ ν :=
  ⟨map.pairs ++ [(key, value)]⟩

/-- Drop all values of a key and give it this one. -/
def set (map : MultiMap κ ν) (key : κ) (value : ν) : MultiMap κ ν :=
  (map.remove key).insert key value

def keys (map : MultiMap κ ν) : List κ :=
  (map.pairs.map Prod.fst).dedup

/-- One pair per key, holding its first value. The keys come in an order the
map does not promise; every reader below looks values up by key. -/
def iter (map : MultiMap κ ν) : List (κ × ν) :=
  map.keys.filterMap fun key => (map.get? key).map fun value => (key, value)

@[simp] theorem getAll_insert_self
    (map : MultiMap κ ν) (key : κ) (value : ν) :
    (map.insert key value).getAll key = map.getAll key ++ [value] := by
  simp [getAll, insert]

theorem getAll_insert_of_ne
    (map : MultiMap κ ν) {key other : κ} (different : key ≠ other)
    (value : ν) :
    (map.insert key value).getAll other = map.getAll other := by
  simp [getAll, insert, different]

@[simp] theorem getAll_remove_self (map : MultiMap κ ν) (key : κ) :
    (map.remove key).getAll key = [] := by
  simp [getAll, remove]

theorem getAll_remove_of_ne
    (map : MultiMap κ ν) {key other : κ} (different : key ≠ other) :
    (map.remove key).getAll other = map.getAll other := by
  unfold getAll remove
  rw [List.filterMap_filter]
  congr 1
  funext entry
  by_cases same : entry.1 = other
  · have kept : entry.1 ≠ key := fun equation =>
      different (equation.symm.trans same)
    simp [same, same ▸ kept]
  · simp [same]

@[simp] theorem getAll_set_self (map : MultiMap κ ν) (key : κ) (value : ν) :
    (map.set key value).getAll key = [value] := by
  simp [set]

theorem getAll_set_of_ne (map : MultiMap κ ν) {key other : κ}
    (different : key ≠ other) (value : ν) :
    (map.set key value).getAll other = map.getAll other := by
  rw [set, getAll_insert_of_ne _ different, getAll_remove_of_ne _ different]

theorem get?_eq_none_iff (map : MultiMap κ ν) (key : κ) :
    map.get? key = none ↔ map.getAll key = [] := by
  simp [get?]

theorem get?_congr {map other : MultiMap κ ν} {key : κ}
    (same : other.getAll key = map.getAll key) :
    other.get? key = map.get? key :=
  congrArg List.head? same

theorem get?_of_getAll_eq_toList {map : MultiMap κ ν} {key : κ}
    {first : Option ν} (values : map.getAll key = first.toList) :
    map.get? key = first := by
  rw [get?, values, Option.head?_toList]

theorem mem_getAll_of_get? {map : MultiMap κ ν} {key : κ} {value : ν}
    (found : map.get? key = some value) : value ∈ map.getAll key :=
  List.mem_of_head? found

theorem mem_pairs_of_get? {map : MultiMap κ ν} {key : κ} {value : ν}
    (found : map.get? key = some value) : (key, value) ∈ map.pairs := by
  have member := mem_getAll_of_get? found
  unfold getAll at member
  obtain ⟨entry, inPairs, equation⟩ := List.mem_filterMap.mp member
  by_cases same : entry.1 = key
  · rw [if_pos same] at equation
    cases equation
    subst same
    exact inPairs
  · simp [same] at equation

theorem mem_keys_of_get? {map : MultiMap κ ν} {key : κ} {value : ν}
    (found : map.get? key = some value) : key ∈ map.keys := by
  unfold keys
  rw [List.mem_dedup]
  exact List.mem_map.mpr ⟨(key, value), mem_pairs_of_get? found, rfl⟩

theorem mem_iter_iff {map : MultiMap κ ν} {entry : κ × ν} :
    entry ∈ map.iter ↔ map.get? entry.1 = some entry.2 := by
  unfold iter
  rw [List.mem_filterMap]
  constructor
  · rintro ⟨key, -, shown⟩
    obtain ⟨value, found, rfl⟩ := Option.map_eq_some_iff.mp shown
    exact found
  · intro found
    exact ⟨entry.1, mem_keys_of_get? found, by rw [found]; rfl⟩

/-- Going through `iter` keeps the first value of every key and no other. -/
theorem getAll_iter (map : MultiMap κ ν) (key : κ) :
    MultiMap.getAll ⟨map.iter⟩ key = (map.get? key).toList := by
  have each : ∀ keys : List κ, keys.Nodup →
      (keys.filterMap fun other =>
          (map.get? other).map fun value => (other, value)).filterMap
        (fun entry => if entry.1 = key then some entry.2 else none) =
      if key ∈ keys then (map.get? key).toList else [] := by
    intro keys
    induction keys with
    | nil => intro _; rfl
    | cons head tail hypothesis =>
        intro distinct
        obtain ⟨fresh, distinctTail⟩ := List.nodup_cons.mp distinct
        have rest := hypothesis distinctTail
        by_cases same : head = key
        · subst head
          rw [if_neg fresh] at rest
          cases found : map.get? key with
          | none => simp [found, rest]
          | some value => simp [found, rest]
        · have other : key ≠ head := fun equation => same equation.symm
          cases found : map.get? head with
          | none => simp [found, rest, other]
          | some value => simp [found, rest, same, other]
  unfold getAll iter
  rw [each map.keys (List.nodup_dedup _)]
  cases found : map.get? key with
  | none => simp
  | some value => rw [if_pos (mem_keys_of_get? found)]

end MultiMap

end Replex.Data
