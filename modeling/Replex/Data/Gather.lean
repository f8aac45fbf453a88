import Mathlib.Data.List.Induction

namespace Replex.Data

/-! A pass over a list that merges an item into the first one of its label, if
that one takes it, and appends it otherwise. -/

structure Gathering (α κ : Type) where
  label : α → κ
  accepts : α → α → Bool
  merge : α → α → α
  label_merge : ∀ earlier item, label (merge earlier item) = label earlier
  accepts_merge : ∀ {earlier item}, accepts earlier item = true →
    ∀ other, accepts (merge earlier item) other = accepts earlier other

namespace Gathering

variable {α κ : Type} (gathering : Gathering α κ)

theorem accepts_foldl {first : α} {items : List α}
    (taken : ∀ item ∈ items, gathering.accepts first item = true)
    (other : α) :
    gathering.accepts (items.foldl gathering.merge first) other =
      gathering.accepts first other := by
  induction items generalizing first with
  | nil => rfl
  | cons item items hypothesis =>
      have step := gathering.accepts_merge (taken item List.mem_cons_self)
      rw [List.foldl_cons, hypothesis, step]
      intro later listed
      rw [step]
      exact taken later (List.mem_cons_of_mem item listed)

theorem label_foldl (first : α) (items : List α) :
    gathering.label (items.foldl gathering.merge first) =
      gathering.label first := by
  induction items generalizing first with
  | nil => rfl
  | cons item items hypothesis =>
      rw [List.foldl_cons, hypothesis, gathering.label_merge]

variable [DecidableEq κ]

def labelled (label : κ) (item : α) : Bool :=
  gathering.label item == label

def absorb : List α → α → List α
  | [], item => [item]
  | earlier :: rest, item =>
      if gathering.label earlier = gathering.label item then
        if gathering.accepts earlier item then
          gathering.merge earlier item :: rest
        else
          earlier :: rest ++ [item]
      else
        earlier :: absorb rest item

def gather (items : List α) : List α :=
  items.foldl gathering.absorb []

/-- How an index search does it. -/
theorem absorb_eq (out : List α) (item : α) :
    gathering.absorb out item =
      match out.findIdx? fun earlier =>
        gathering.label earlier == gathering.label item with
      | none => out ++ [item]
      | some index =>
          match out[index]? with
          | none => out
          | some earlier =>
              if gathering.accepts earlier item then
                out.set index (gathering.merge earlier item)
              else
                out ++ [item] := by
  induction out with
  | nil => rfl
  | cons earlier rest hypothesis =>
      rw [absorb, List.findIdx?_cons]
      by_cases same : gathering.label earlier = gathering.label item
      · simp [same]
      · rw [if_neg same, hypothesis]
        simp only [beq_iff_eq, same, if_false]
        cases rest.findIdx? fun earlier =>
            gathering.label earlier == gathering.label item with
        | none => rfl
        | some index =>
            simp only [Option.map_some, List.getElem?_cons_succ]
            cases rest[index]? with
            | none => rfl
            | some earlier =>
                dsimp only
                split <;> simp

theorem absorb_of_refused {item : α}
    (refused : ∀ earlier, gathering.accepts earlier item = false)
    (out : List α) : gathering.absorb out item = out ++ [item] := by
  induction out with
  | nil => rfl
  | cons earlier rest hypothesis =>
      rw [absorb]
      split
      · simp [refused]
      · rw [hypothesis, List.cons_append]

theorem gather_ne_nil {items : List α} (some : items ≠ []) :
    gathering.gather items ≠ [] := by
  have grows (out : List α) (item : α) : gathering.absorb out item ≠ [] := by
    cases out with
    | nil => simp [absorb]
    | cons earlier rest =>
        rw [absorb]
        split
        · split <;> simp
        · simp
  cases items using List.reverseRecOn with
  | nil => exact absurd rfl some
  | append_singleton items item => simpa [gather] using grows _ item

/-! Labels do not mix. -/

theorem filter_absorb (label : κ) (out : List α) (item : α) :
    (gathering.absorb out item).filter (gathering.labelled label) =
      if gathering.label item = label then
        gathering.absorb (out.filter (gathering.labelled label)) item
      else
        out.filter (gathering.labelled label) := by
  have merged := gathering.label_merge
  induction out with
  | nil => simp [absorb, labelled, List.filter_cons]
  | cons earlier rest hypothesis =>
      rw [absorb]
      by_cases same : gathering.label earlier = gathering.label item
      · by_cases ours : gathering.label item = label
        · by_cases taken : gathering.accepts earlier item = true <;>
            simp [same, ours, taken, labelled, absorb, merged,
              List.filter_append]
        · by_cases taken : gathering.accepts earlier item = true <;>
            simp [same, ours, taken, labelled, merged, List.filter_append]
      · rw [if_neg same, List.filter_cons, hypothesis, List.filter_cons]
        by_cases ours : gathering.label item = label
        · have early : gathering.labelled label earlier = false := by
            rw [labelled, beq_eq_false_iff_ne, ← ours]
            exact same
          simp [ours, early]
        · simp [ours]

theorem filter_foldl_absorb (label : κ) (out items : List α) :
    (items.foldl gathering.absorb out).filter (gathering.labelled label) =
      (items.filter (gathering.labelled label)).foldl gathering.absorb
        (out.filter (gathering.labelled label)) := by
  induction items generalizing out with
  | nil => rfl
  | cons item items hypothesis =>
      rw [List.foldl_cons, hypothesis, filter_absorb, List.filter_cons]
      by_cases ours : gathering.label item = label <;> simp [labelled, ours]

theorem filter_gather (label : κ) (items : List α) :
    (gathering.gather items).filter (gathering.labelled label) =
      gathering.gather (items.filter (gathering.labelled label)) :=
  gathering.filter_foldl_absorb label [] items

/-! One label. -/

/-- The first item takes what it accepts, in order; the others follow. -/
theorem gather_alike {first : α} {rest : List α}
    (alike : ∀ item ∈ rest, gathering.label item = gathering.label first) :
    gathering.gather (first :: rest) =
      (rest.filter (gathering.accepts first)).foldl gathering.merge first ::
        rest.filter fun item => !gathering.accepts first item := by
  have run (items head : List α) (rest : List α)
      (taken : ∀ item ∈ head, gathering.accepts first item = true)
      (alike : ∀ item ∈ items,
        gathering.label item = gathering.label first) :
      items.foldl gathering.absorb
          (head.foldl gathering.merge first :: rest) =
        (head ++ items.filter (gathering.accepts first)).foldl
            gathering.merge first ::
          (rest ++ items.filter fun item =>
            !gathering.accepts first item) := by
    induction items generalizing head rest with
    | nil => simp
    | cons item items hypothesis =>
        have same : gathering.label (head.foldl gathering.merge first) =
            gathering.label item := by
          rw [label_foldl, alike item List.mem_cons_self]
        have later : ∀ item ∈ items,
            gathering.label item = gathering.label first :=
          fun other listed => alike other (List.mem_cons_of_mem item listed)
        rw [List.foldl_cons, absorb, if_pos same,
          gathering.accepts_foldl taken]
        by_cases accepted : gathering.accepts first item = true
        · have next := hypothesis (head ++ [item]) rest (by grind) later
          simpa [accepted] using next
        · have next := hypothesis head (rest ++ [item]) taken later
          simpa [accepted] using next
  exact run rest [] [] (by simp) alike

end Gathering

end Replex.Data
