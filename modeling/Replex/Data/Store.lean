import Mathlib.Data.List.Induction
import Mathlib.Data.List.Perm.Basic

namespace Replex.Data

/-! Keyed stores that may forget: what a bounded in-memory cache shows to its
readers. An entry stays until it is overwritten or evicted. -/

structure Store (κ ν : Type) where
  lookup : κ → Option ν

namespace Store

variable {κ ν : Type}

def empty : Store κ ν := ⟨fun _ => none⟩

@[simp] theorem lookup_empty (key : κ) :
    (empty : Store κ ν).lookup key = none :=
  rfl

def Holds (property : κ → ν → Prop) (store : Store κ ν) : Prop :=
  ∀ key value, store.lookup key = some value → property key value

theorem holds_empty (property : κ → ν → Prop) :
    Holds property (empty : Store κ ν) := by
  intro key value found
  cases found

/-- No key has two values. -/
def Agreeing (entries : List (κ × ν)) : Prop :=
  ∀ first ∈ entries, ∀ second ∈ entries,
    first.1 = second.1 → first.2 = second.2

theorem Agreeing.perm {entries others : List (κ × ν)}
    (agreeing : Agreeing entries) (same : others.Perm entries) :
    Agreeing others := by
  intro first listed second other
  exact agreeing first (same.mem_iff.mp listed) second
    (same.mem_iff.mp other)

variable [DecidableEq κ]

def insert (store : Store κ ν) (key : κ) (value : ν) : Store κ ν :=
  ⟨fun other => if other = key then some value else store.lookup other⟩

def evict (store : Store κ ν) (key : κ) : Store κ ν :=
  ⟨fun other => if other = key then none else store.lookup other⟩

@[simp] theorem lookup_insert_self
    (store : Store κ ν) (key : κ) (value : ν) :
    (store.insert key value).lookup key = some value := by
  simp [insert]

theorem lookup_insert_of_ne
    (store : Store κ ν) {key other : κ} (different : other ≠ key)
    (value : ν) :
    (store.insert key value).lookup other = store.lookup other := by
  simp [insert, different]

theorem isSome_lookup_insert {store : Store κ ν} {other : κ}
    (present : (store.lookup other).isSome = true) (key : κ) (value : ν) :
    ((store.insert key value).lookup other).isSome = true := by
  by_cases same : other = key
  · simp [insert, same]
  · simpa [insert, same] using present

theorem lookup_of_evict {store : Store κ ν} {key other : κ} {value : ν}
    (found : (store.evict key).lookup other = some value) :
    store.lookup other = some value := by
  by_cases same : other = key
  · simp [evict, same] at found
  · simpa [evict, same] using found

theorem Holds.insert {property : κ → ν → Prop} {store : Store κ ν}
    (holds : Holds property store) {key : κ} {value : ν}
    (written : property key value) :
    Holds property (store.insert key value) := by
  intro other found equation
  by_cases same : other = key
  · subst other
    rw [lookup_insert_self] at equation
    cases equation
    exact written
  · rw [lookup_insert_of_ne store same] at equation
    exact holds other found equation

theorem Holds.evict {property : κ → ν → Prop} {store : Store κ ν}
    (holds : Holds property store) (key : κ) :
    Holds property (store.evict key) := by
  intro other value found
  exact holds other value (lookup_of_evict found)

/-! Entries that come one after the other. -/

def insertAll (store : Store κ ν) (entries : List (κ × ν)) : Store κ ν :=
  entries.foldl (fun store entry => store.insert entry.1 entry.2) store

theorem insertAll_cons (store : Store κ ν) (entry : κ × ν)
    (entries : List (κ × ν)) :
    store.insertAll (entry :: entries) =
      (store.insert entry.1 entry.2).insertAll entries :=
  rfl

theorem insertAll_append (store : Store κ ν) (front rest : List (κ × ν)) :
    store.insertAll (front ++ rest) =
      (store.insertAll front).insertAll rest :=
  List.foldl_append

theorem lookup_insertAll_of_not_mem {store : Store κ ν} {key : κ}
    {entries : List (κ × ν)} (absent : ∀ entry ∈ entries, entry.1 ≠ key) :
    (store.insertAll entries).lookup key = store.lookup key := by
  induction entries generalizing store with
  | nil => rfl
  | cons entry entries hypothesis =>
      have different := absent entry List.mem_cons_self
      rw [insertAll_cons, hypothesis, lookup_insert_of_ne _ different.symm]
      intro other listed
      exact absent other (List.mem_cons_of_mem _ listed)

theorem lookup_insertAll_of_mem {store : Store κ ν} {entry : κ × ν}
    {entries : List (κ × ν)} (listed : entry ∈ entries)
    (agreeing : Agreeing entries) :
    (store.insertAll entries).lookup entry.1 = some entry.2 := by
  induction entries using List.reverseRecOn with
  | nil => cases listed
  | append_singleton front last hypothesis =>
      rw [insertAll_append]
      change (Store.insert _ last.1 last.2).lookup entry.1 = _
      by_cases same : entry.1 = last.1
      · have value := agreeing entry listed last (by simp) same
        rw [same, value, lookup_insert_self]
      · rw [lookup_insert_of_ne _ same]
        have earlier : entry ∈ front := by
          rcases List.mem_append.mp listed with earlier | final
          · exact earlier
          · cases List.mem_singleton.mp final
            exact absurd rfl same
        apply hypothesis earlier
        intro first listed second other
        exact agreeing first (List.mem_append_left _ listed) second
          (List.mem_append_left _ other)

theorem lookup_insertAll_empty {key : κ} {value : ν}
    {entries : List (κ × ν)}
    (found : ((empty : Store κ ν).insertAll entries).lookup key =
      some value) : (key, value) ∈ entries := by
  induction entries using List.reverseRecOn with
  | nil => cases found
  | append_singleton front last hypothesis =>
      rw [insertAll_append] at found
      change (Store.insert _ last.1 last.2).lookup key = _ at found
      by_cases same : key = last.1
      · subst same
        rw [lookup_insert_self] at found
        cases found
        simp
      · rw [lookup_insert_of_ne _ same] at found
        exact List.mem_append_left _ (hypothesis found)

/-- Entries that agree leave the same store in any order. -/
theorem Agreeing.insertAll_eq {entries others : List (κ × ν)}
    (agreeing : Agreeing entries) (same : others.Perm entries) :
    (empty : Store κ ν).insertAll others = empty.insertAll entries := by
  have later := agreeing.perm same
  have lookups (key : κ) :
      ((empty : Store κ ν).insertAll others).lookup key =
        ((empty : Store κ ν).insertAll entries).lookup key := by
    cases found : ((empty : Store κ ν).insertAll entries).lookup key with
    | some value =>
        have listed := same.mem_iff.mpr (lookup_insertAll_empty found)
        exact lookup_insertAll_of_mem listed later
    | none =>
        rw [lookup_insertAll_of_not_mem]
        · rfl
        · rintro entry listed rfl
          have present := @lookup_insertAll_of_mem _ _ _ empty _ _
            (same.mem_iff.mp listed) agreeing
          rw [found] at present
          cases present
  exact congrArg Store.mk (funext lookups)

/-- An entry that comes last is the one that stays. -/
theorem exists_perm_lookup {entry : κ × ν} {entries : List (κ × ν)}
    (listed : entry ∈ entries) :
    ∃ others : List (κ × ν), others.Perm entries ∧
      ((empty : Store κ ν).insertAll others).lookup entry.1 =
        some entry.2 := by
  obtain ⟨front, back, rfl⟩ := List.append_of_mem listed
  refine ⟨front ++ back ++ [entry], ?_, ?_⟩
  · rw [List.append_assoc]
    exact List.Perm.append_left front List.perm_append_comm
  · rw [insertAll_append]
    exact lookup_insert_self _ _ _

theorem agreeing_iff {entries : List (κ × ν)} :
    Agreeing entries ↔ ∀ others : List (κ × ν), others.Perm entries →
      (empty : Store κ ν).insertAll others = empty.insertAll entries := by
  constructor
  · intro agreeing others same
    exact agreeing.insertAll_eq same
  · intro orderless first listed second other keys
    obtain ⟨others, reordered, last⟩ := exists_perm_lookup listed
    obtain ⟨later, again, final⟩ := exists_perm_lookup other
    rw [orderless others reordered] at last
    rw [orderless later again, ← keys, last] at final
    exact Option.some.inj final

/-! Entries beside a record of where each of them came from. -/

variable {ο : Type}

/-- Every entry that matters came from where its key belongs. -/
def Traced (entries : Store κ ν) (origins : Store κ ο) (home : κ → ο)
    (relevant : κ → Prop) : Prop :=
  ∀ key, relevant key → (entries.lookup key).isSome = true →
    origins.lookup key = some (home key)

variable {entries : Store κ ν} {origins : Store κ ο} {home : κ → ο}
  {relevant : κ → Prop}

omit [DecidableEq κ] in
theorem traced_empty (origins : Store κ ο) (home : κ → ο)
    (relevant : κ → Prop) :
    (empty : Store κ ν).Traced origins home relevant := by
  intro key _ found
  cases found

theorem Traced.insert (traced : entries.Traced origins home relevant)
    {key : κ} {origin : ο} (own : home key = origin) (value : ν) :
    (entries.insert key value).Traced (origins.insert key origin) home
      relevant := by
  intro other matters found
  by_cases same : other = key
  · subst other
    rw [lookup_insert_self, own]
  · rw [lookup_insert_of_ne entries same] at found
    rw [lookup_insert_of_ne origins same]
    exact traced other matters found

theorem Traced.insert_irrelevant
    (traced : entries.Traced origins home relevant) {key : κ}
    (apart : ¬ relevant key) (value : ν) :
    (entries.insert key value).Traced origins home relevant := by
  intro other matters found
  have different : other ≠ key := by
    rintro rfl
    exact apart matters
  rw [lookup_insert_of_ne entries different] at found
  exact traced other matters found

theorem Traced.evict (traced : entries.Traced origins home relevant)
    (key : κ) : (entries.evict key).Traced origins home relevant := by
  intro other matters found
  obtain ⟨value, held⟩ := Option.isSome_iff_exists.mp found
  apply traced other matters
  rw [lookup_of_evict held]
  rfl

end Store

end Replex.Data
