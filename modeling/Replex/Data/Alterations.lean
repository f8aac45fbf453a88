import Replex.Data.MultiMap

namespace Replex.Data

/-! What a chain of rewrites may do to a multimap, key by key. -/

/-- The values that a rewrite may give to a key in place of its own, and the
keys it may drop. -/
structure Alterations (κ ν : Type) where
  writes : κ → ν → Prop
  drops : κ → Prop

namespace Alterations

variable {κ ν : Type}

def or (left right : Alterations κ ν) : Alterations κ ν where
  writes key value := left.writes key value ∨ right.writes key value
  drops key := left.drops key ∨ right.drops key

/-- None at all, unless the rewrite is installed. -/
def onlyIf (alterations : Alterations κ ν) (installed : Prop) :
    Alterations κ ν where
  writes key value := installed ∧ alterations.writes key value
  drops key := installed ∧ alterations.drops key

structure Includes (larger smaller : Alterations κ ν) : Prop where
  writes : ∀ {key value}, smaller.writes key value → larger.writes key value
  drops : ∀ {key}, smaller.drops key → larger.drops key

theorem Includes.refl (alterations : Alterations κ ν) :
    alterations.Includes alterations :=
  ⟨id, id⟩

theorem Includes.trans {first second third : Alterations κ ν}
    (outer : first.Includes second) (inner : second.Includes third) :
    first.Includes third :=
  ⟨fun written => outer.writes (inner.writes written),
    fun dropped => outer.drops (inner.drops dropped)⟩

theorem or_includes_left (left right : Alterations κ ν) :
    (left.or right).Includes left :=
  ⟨.inl, .inl⟩

theorem or_includes_right (left right : Alterations κ ν) :
    (left.or right).Includes right :=
  ⟨.inr, .inr⟩

theorem onlyIf_includes (alterations : Alterations κ ν) {installed : Prop}
    (holds : installed) : (alterations.onlyIf installed).Includes alterations :=
  ⟨fun written => ⟨holds, written⟩, fun dropped => ⟨holds, dropped⟩⟩

theorem onlyIf_and_includes (alterations : Alterations κ ν)
    {active installed : Prop} (holds : installed) :
    (alterations.onlyIf (active ∧ installed)).Includes
      (alterations.onlyIf active) :=
  ⟨fun written => ⟨⟨written.1, holds⟩, written.2⟩,
    fun dropped => ⟨⟨dropped.1, holds⟩, dropped.2⟩⟩

/-- A key that is neither written nor dropped. -/
structure Spares (alterations : Alterations κ ν) (key : κ) : Prop where
  writes : ∀ value, ¬ alterations.writes key value
  drops : ¬ alterations.drops key

theorem Spares.or {left right : Alterations κ ν} {key : κ}
    (first : left.Spares key) (second : right.Spares key) :
    (left.or right).Spares key where
  writes value := by
    rintro (written | written)
    · exact first.writes value written
    · exact second.writes value written
  drops := by
    rintro (dropped | dropped)
    · exact first.drops dropped
    · exact second.drops dropped

theorem Spares.onlyIf {alterations : Alterations κ ν} {key : κ}
    (spared : alterations.Spares key) (installed : Prop) :
    (alterations.onlyIf installed).Spares key where
  writes value written := spared.writes value written.2
  drops dropped := spared.drops dropped.2

/-- What may become of the values of one key: they stay, or only the first of
them does, or the key is written or dropped. -/
inductive Turns (alterations : Alterations κ ν) (key : κ) (values : List ν) :
    List ν → Prop where
  | kept : Turns alterations key values values
  | first : Turns alterations key values values.head?.toList
  | written {value : ν} (writes : alterations.writes key value) :
      Turns alterations key values [value]
  | dropped (drops : alterations.drops key) : Turns alterations key values []

section

variable {alterations : Alterations κ ν} {key : κ}
  {first second third : List ν}

theorem Turns.mono {larger : Alterations κ ν}
    (includes : larger.Includes alterations)
    (turns : alterations.Turns key first second) :
    larger.Turns key first second := by
  cases turns with
  | kept => exact .kept
  | first => exact .first
  | written writes => exact .written (includes.writes writes)
  | dropped drops => exact .dropped (includes.drops drops)

/-- The first value of what a step left is again what one step leaves. -/
theorem Turns.head (turns : alterations.Turns key first second) :
    alterations.Turns key first second.head?.toList := by
  cases turns with
  | kept => exact .first
  | first =>
      cases first with
      | nil => exact .kept
      | cons value rest => exact .first
  | written writes => exact .written writes
  | dropped drops => exact .dropped drops

theorem Turns.trans (before : alterations.Turns key first second)
    (after : alterations.Turns key second third) :
    alterations.Turns key first third := by
  cases after with
  | kept => exact before
  | first => exact before.head
  | written writes => exact .written writes
  | dropped drops => exact .dropped drops

theorem Turns.head_eq (turns : alterations.Turns key first second)
    (spared : alterations.Spares key) : second.head? = first.head? := by
  cases turns with
  | kept => rfl
  | first => exact Option.head?_toList
  | written writes => exact absurd writes (spared.writes _)
  | dropped drops => exact absurd drops spared.drops

end

variable [DecidableEq κ]

/-- Every key of the multimap turned out as the alterations permit. -/
def Confine (alterations : Alterations κ ν) (before after : MultiMap κ ν) :
    Prop :=
  ∀ key, alterations.Turns key (before.getAll key) (after.getAll key)

section

variable {alterations : Alterations κ ν} {first second third : MultiMap κ ν}

theorem Confine.refl (alterations : Alterations κ ν) (map : MultiMap κ ν) :
    alterations.Confine map map :=
  fun _ => .kept

theorem Confine.trans (before : alterations.Confine first second)
    (after : alterations.Confine second third) :
    alterations.Confine first third :=
  fun key => (before key).trans (after key)

theorem Confine.mono {larger : Alterations κ ν}
    (confined : alterations.Confine first second)
    (includes : larger.Includes alterations) : larger.Confine first second :=
  fun key => (confined key).mono includes

theorem Confine.set (confined : alterations.Confine first second) {key : κ}
    {value : ν} (writes : alterations.writes key value) :
    alterations.Confine first (second.set key value) := by
  intro other
  by_cases same : key = other
  · subst same
    rw [MultiMap.getAll_set_self]
    exact .written writes
  · rw [MultiMap.getAll_set_of_ne second same]
    exact confined other

theorem Confine.remove (confined : alterations.Confine first second) {key : κ}
    (drops : alterations.drops key) :
    alterations.Confine first (second.remove key) := by
  intro other
  by_cases same : key = other
  · subst same
    rw [MultiMap.getAll_remove_self]
    exact .dropped drops
  · rw [MultiMap.getAll_remove_of_ne second same]
    exact confined other

/-- Going through the map's own iteration keeps first values only. -/
theorem Confine.iter (confined : alterations.Confine first second) :
    alterations.Confine first ⟨second.iter⟩ := by
  intro key
  rw [MultiMap.getAll_iter, MultiMap.get?]
  exact (confined key).head

theorem Confine.get?_eq (confined : alterations.Confine first second) {key : κ}
    (spared : alterations.Spares key) : second.get? key = first.get? key :=
  (confined key).head_eq spared

end

end Alterations

end Replex.Data
