import Mathlib.Algebra.Order.Ring.Int
import Mathlib.Data.List.Basic

namespace Replex.Data

/-! Several lists of which a reader always sees the first nonempty one, and an
index loop that filters and rewrites what it sees. -/

namespace Sweep

variable {α : Type}

def current : List (List α) → List α
  | [] => []
  | list :: rest => if list.isEmpty then current rest else list

def modifyCurrent (change : List α → List α) : List (List α) → List (List α)
  | [] => []
  | list :: rest =>
      if list.isEmpty then list :: modifyCurrent change rest
      else change list :: rest

/-- The loop as an index runs it. Removing the last visible item moves the
reader, still at index zero, on to the next nonempty list. -/
def loop (keep : α → Bool) (change : α → α) :
    Nat → Nat → List (List α) → List (List α)
  | 0, _, lists => lists
  | fuel + 1, index, lists =>
      match (current lists)[index]? with
      | none => lists
      | some item =>
          if keep item then
            loop keep change fuel (index + 1)
              (modifyCurrent (·.set index (change item)) lists)
          else
            loop keep change fuel index
              (modifyCurrent (·.eraseIdx index) lists)

/-- What the loop computes: lists are filtered and rewritten one after the
other until one keeps an item; the lists after that one are never visited. -/
def sweep (keep : α → Bool) (change : α → α) :
    List (List α) → List (List α)
  | [] => []
  | list :: rest =>
      let kept := (list.filter keep).map change
      if kept.isEmpty then kept :: sweep keep change rest else kept :: rest

def reached (keep : α → Bool) : List (List α) → List α
  | [] => []
  | list :: rest =>
      if (list.filter keep).isEmpty then reached keep rest
      else list.filter keep

def unreached (keep : α → Bool) : List (List α) → List α
  | [] => []
  | list :: rest =>
      if (list.filter keep).isEmpty then unreached keep rest
      else rest.flatten

def size (lists : List (List α)) : Nat :=
  (lists.map List.length).sum

@[simp] theorem current_nil_cons (rest : List (List α)) :
    current ([] :: rest) = current rest :=
  rfl

theorem current_cons_of_ne_nil {list : List α} (visible : list ≠ [])
    (rest : List (List α)) : current (list :: rest) = list := by
  simp [current, visible]

theorem modifyCurrent_cons_of_ne_nil (change : List α → List α)
    {list : List α} (visible : list ≠ []) (rest : List (List α)) :
    modifyCurrent change (list :: rest) = change list :: rest := by
  simp [modifyCurrent, visible]

theorem length_modifyCurrent (change : List α → List α)
    (lists : List (List α)) :
    (modifyCurrent change lists).length = lists.length := by
  induction lists with
  | nil => rfl
  | cons list rest hypothesis =>
      unfold modifyCurrent
      split
      · rw [List.length_cons, List.length_cons, hypothesis]
      · rfl

theorem length_current_le (lists : List (List α)) :
    (current lists).length ≤ size lists := by
  induction lists with
  | nil => exact Nat.le_refl 0
  | cons list rest hypothesis =>
      rw [size, List.map_cons, List.sum_cons, current]
      split
      · exact Nat.le_trans hypothesis (Nat.le_add_left _ _)
      · exact Nat.le_add_right _ _

theorem size_modifyCurrent {lists : List (List α)}
    (visible : current lists ≠ []) (change : List α → List α) :
    size (modifyCurrent change lists) + (current lists).length =
      size lists + (change (current lists)).length := by
  induction lists with
  | nil => exact absurd rfl visible
  | cons list rest hypothesis =>
      cases list with
      | nil =>
          have later := hypothesis visible
          simpa [modifyCurrent, size] using later
      | cons item list =>
          simp only [modifyCurrent, current, size, List.isEmpty_cons,
            Bool.false_eq_true, if_false, List.map_cons, List.sum_cons]
          omega

theorem loop_nil_cons (keep : α → Bool) (change : α → α)
    (fuel index : Nat) (rest : List (List α)) :
    loop keep change fuel index ([] :: rest) =
      [] :: loop keep change fuel index rest := by
  induction fuel generalizing index rest with
  | zero => rfl
  | succ fuel hypothesis =>
      unfold loop
      rw [current_nil_cons]
      cases (current rest)[index]? with
      | none => rfl
      | some item =>
          dsimp only
          split
          · exact hypothesis (index + 1) _
          · exact hypothesis index _

theorem length_loop (keep : α → Bool) (change : α → α)
    (fuel index : Nat) (lists : List (List α)) :
    (loop keep change fuel index lists).length = lists.length := by
  induction fuel generalizing index lists with
  | zero => rfl
  | succ fuel hypothesis =>
      unfold loop
      split
      · rfl
      · split
        · rw [hypothesis, length_modifyCurrent]
        · rw [hypothesis, length_modifyCurrent]

/-- Once an item has been kept, the loop stays on its list. -/
theorem loop_visited (keep : α → Bool) (change : α → α)
    (fuel : Nat) (visited waiting : List α) (rest : List (List α))
    (started : visited ≠ []) (enough : waiting.length ≤ fuel) :
    loop keep change fuel visited.length ((visited ++ waiting) :: rest) =
      (visited ++ (waiting.filter keep).map change) :: rest := by
  induction fuel generalizing visited waiting with
  | zero =>
      have done : waiting = [] := List.length_eq_zero_iff.mp (by omega)
      simp [loop, done]
  | succ fuel hypothesis =>
      have visible : visited ++ waiting ≠ [] := by simp [started]
      unfold loop
      rw [current_cons_of_ne_nil visible]
      cases waiting with
      | nil => simp
      | cons item waiting =>
          have shorter : waiting.length ≤ fuel := by simpa using enough
          rw [List.getElem?_append_right (Nat.le_refl _)]
          simp only [Nat.sub_self, List.getElem?_cons_zero]
          simp only [modifyCurrent_cons_of_ne_nil _ visible]
          by_cases kept : keep item = true
          · have next := hypothesis (visited ++ [change item]) waiting
              (by simp) shorter
            simpa [kept] using next
          · have next := hypothesis visited waiting started shorter
            simpa [kept, List.eraseIdx_append_of_length_le] using next

theorem loop_eq_sweep (keep : α → Bool) (change : α → α)
    (fuel : Nat) (lists : List (List α)) (enough : size lists ≤ fuel) :
    loop keep change fuel 0 lists = sweep keep change lists := by
  -- On the lists, then on the first of them: the loop drops its items one by
  -- one until it keeps one.
  induction lists generalizing fuel with
  | nil => cases fuel <;> rfl
  | cons list rest restHypothesis =>
      induction list generalizing fuel with
      | nil =>
          rw [loop_nil_cons, restHypothesis fuel (by simpa [size] using enough)]
          simp [sweep]
      | cons item list listHypothesis =>
          cases fuel with
          | zero => simp [size] at enough
          | succ fuel =>
              have fewer : size (list :: rest) ≤ fuel := by
                simp [size] at enough ⊢
                omega
              unfold loop
              have visible : item :: list ≠ [] := List.cons_ne_nil item list
              rw [current_cons_of_ne_nil visible]
              simp only [modifyCurrent_cons_of_ne_nil _ visible]
              by_cases kept : keep item = true
              · have next := loop_visited keep change fuel [change item] list
                  rest (by simp) (by simp [size] at fewer; omega)
                simpa [kept, sweep] using next
              · have next := listHypothesis fuel fewer
                simpa [kept, sweep] using next

theorem sweep_cons_of_eq_nil {keep : α → Bool} {list : List α}
    (none : list.filter keep = []) (change : α → α) (rest : List (List α)) :
    sweep keep change (list :: rest) = [] :: sweep keep change rest := by
  simp [sweep, none]

theorem sweep_cons_of_ne_nil {keep : α → Bool} {list : List α}
    (some : list.filter keep ≠ []) (change : α → α) (rest : List (List α)) :
    sweep keep change (list :: rest) =
      (list.filter keep).map change :: rest := by
  have visible : ((list.filter keep).map change).isEmpty = false := by
    simpa using some
  simp only [sweep, visible]
  rfl

theorem flatten_sweep (keep : α → Bool) (change : α → α)
    (lists : List (List α)) :
    (sweep keep change lists).flatten =
      (reached keep lists).map change ++ unreached keep lists := by
  induction lists with
  | nil => rfl
  | cons list rest hypothesis =>
      cases kept : list.filter keep with
      | nil => simpa [sweep, reached, unreached, kept] using hypothesis
      | cons item items => simp [sweep, reached, unreached, kept]

theorem mem_of_mem_reached {keep : α → Bool} {lists : List (List α)}
    {item : α} (listed : item ∈ reached keep lists) :
    item ∈ lists.flatten ∧ keep item = true := by
  induction lists with
  | nil => cases listed
  | cons list rest hypothesis =>
      rw [reached] at listed
      split at listed
      · have later := hypothesis listed
        exact ⟨List.mem_append_right list later.1, later.2⟩
      · have kept := List.mem_filter.mp listed
        exact ⟨List.mem_append_left rest.flatten kept.1, kept.2⟩

theorem mem_of_mem_unreached {keep : α → Bool} {lists : List (List α)}
    {item : α} (listed : item ∈ unreached keep lists) :
    item ∈ lists.flatten := by
  induction lists with
  | nil => cases listed
  | cons list rest hypothesis =>
      rw [unreached] at listed
      split at listed
      · exact List.mem_append_right list (hypothesis listed)
      · exact List.mem_append_right list listed

theorem reached_append_unreached {keep : α → Bool}
    (all : ∀ item, keep item = true) (lists : List (List α)) :
    reached keep lists ++ unreached keep lists = lists.flatten := by
  induction lists with
  | nil => rfl
  | cons list rest hypothesis =>
      have whole : list.filter keep = list :=
        List.filter_eq_self.mpr fun item _ => all item
      cases list with
      | nil => simpa [reached, unreached] using hypothesis
      | cons item items => simp [reached, unreached, whole]

theorem length_sweep (keep : α → Bool) (change : α → α)
    (lists : List (List α)) :
    (sweep keep change lists).length = lists.length := by
  induction lists with
  | nil => rfl
  | cons list rest hypothesis =>
      rw [sweep]
      split
      · simp [hypothesis]
      · simp

theorem sweep_id {keep : α → Bool} (all : ∀ item, keep item = true)
    (lists : List (List α)) : sweep keep id lists = lists := by
  induction lists with
  | nil => rfl
  | cons list rest hypothesis =>
      have whole : list.filter keep = list :=
        List.filter_eq_self.mpr fun item _ => all item
      simp [sweep, whole, hypothesis]

/-- A sweep of items can be followed on what is seen of them. -/
theorem map_sweep {β : Type} {view : α → β} {keep : β → Bool}
    {change : β → β} {changeItem : α → α}
    (changes : ∀ item, view (changeItem item) = change (view item))
    (lists : List (List α)) :
    (sweep (fun item => keep (view item)) changeItem lists).map
        (List.map view) =
      sweep keep change (lists.map (List.map view)) := by
  induction lists with
  | nil => rfl
  | cons list rest hypothesis =>
      have kept : ((list.filter fun item => keep (view item)).map
          changeItem).map view =
            ((list.map view).filter keep).map change := by
        rw [List.filter_map, List.map_map, List.map_map]
        exact List.map_congr_left fun item _ => changes item
      have empty : ((list.filter fun item => keep (view item)).map
          changeItem).isEmpty =
            (((list.map view).filter keep).map change).isEmpty := by
        rw [← kept, List.isEmpty_map (f := view)]
      simp only [sweep, List.map_cons]
      rw [empty]
      split
      · rw [List.map_cons, kept, hypothesis]
      · rw [List.map_cons, kept]

/-- What the reader sees after a sweep that only drops items. -/
theorem current_sweep_id (keep : α → Bool) (lists : List (List α)) :
    current (sweep keep id lists) = reached keep lists := by
  induction lists with
  | nil => rfl
  | cons list rest hypothesis =>
      by_cases none : list.filter keep = []
      · rw [sweep_cons_of_eq_nil none, current_nil_cons, hypothesis, reached,
          none]
        rfl
      · rw [sweep_cons_of_ne_nil none, List.map_id,
          current_cons_of_ne_nil none, reached, if_neg (by simpa using none)]

/-- A sweep that keeps everything rewrites the list the reader sees. -/
theorem sweep_of_all {keep : α → Bool} (all : ∀ item, keep item = true)
    (change : α → α) (lists : List (List α)) :
    sweep keep change lists = modifyCurrent (List.map change) lists := by
  induction lists with
  | nil => rfl
  | cons list rest hypothesis =>
      have whole : list.filter keep = list :=
        List.filter_eq_self.mpr fun item _ => all item
      cases list with
      | nil => rw [sweep_cons_of_eq_nil rfl, hypothesis]; rfl
      | cons item items =>
          rw [sweep_cons_of_ne_nil (by rw [whole]; exact List.cons_ne_nil _ _),
            whole]
          rfl

theorem modifyCurrent_id (lists : List (List α)) :
    modifyCurrent (fun list => list) lists = lists := by
  induction lists with
  | nil => rfl
  | cons list rest hypothesis =>
      unfold modifyCurrent
      split
      · rw [hypothesis]
      · rfl

/-- Rewriting the items one by one hides no list from a later reader. -/
theorem modifyCurrent_modifyCurrent_map (later : List α → List α)
    (change : α → α) (lists : List (List α)) :
    modifyCurrent later (modifyCurrent (List.map change) lists) =
      modifyCurrent (fun list => later (list.map change)) lists := by
  induction lists with
  | nil => rfl
  | cons list rest hypothesis =>
      cases list with
      | nil => exact congrArg (List.cons []) hypothesis
      | cons item list => rfl

theorem modifyCurrent_map_map (later change : α → α)
    (lists : List (List α)) :
    modifyCurrent (List.map later) (modifyCurrent (List.map change) lists) =
      modifyCurrent (List.map (later ∘ change)) lists := by
  simp only [modifyCurrent_modifyCurrent_map, List.map_map]

theorem mem_of_mem_current {lists : List (List α)} {item : α}
    (listed : item ∈ current lists) : item ∈ lists.flatten := by
  induction lists with
  | nil => cases listed
  | cons list rest hypothesis =>
      rw [List.flatten_cons, List.mem_append]
      unfold current at listed
      split at listed
      · exact .inr (hypothesis listed)
      · exact .inl listed

theorem mem_of_mem_sweep_id {keep : α → Bool} {lists : List (List α)}
    {item : α} (listed : item ∈ (sweep keep id lists).flatten) :
    item ∈ lists.flatten := by
  induction lists with
  | nil => exact listed
  | cons list rest hypothesis =>
      rw [List.flatten_cons, List.mem_append]
      by_cases none : list.filter keep = []
      · rw [sweep_cons_of_eq_nil none, List.flatten_cons,
          List.nil_append] at listed
        exact .inr (hypothesis listed)
      · rw [sweep_cons_of_ne_nil none, List.flatten_cons, List.map_id,
          List.mem_append] at listed
        exact listed.imp_left List.mem_of_mem_filter

section

variable {start shape : List α → List α} {holds whole before : α → Prop}

/-- A rewriting that reaches a list of which all is known leaves it so. -/
theorem forall_modifyCurrent
    (each : ∀ list, (∀ item ∈ list, whole item) →
      ((∀ item ∈ shape list, holds item) ↔ ∀ item ∈ list, before item))
    (known : ∀ item, holds item → whole item ∧ before item)
    {lists : List (List α)} (others : ∀ item ∈ lists.flatten, holds item) :
    ∀ item ∈ (modifyCurrent shape lists).flatten, holds item := by
  induction lists with
  | nil => exact others
  | cons list rest hypothesis =>
      simp only [List.flatten_cons, List.mem_append] at others
      have later := hypothesis fun item listed => others item (.inr listed)
      intro item listed
      cases list with
      | nil => exact later item listed
      | cons head list =>
          rw [modifyCurrent_cons_of_ne_nil _ (List.cons_ne_nil _ _),
            List.flatten_cons, List.mem_append] at listed
          rcases listed with reshaped | untouched
          · refine (each _ fun item listed => ?_).mpr (fun item listed => ?_)
              item reshaped
            · exact (known item (others item (.inl listed))).1
            · exact (known item (others item (.inl listed))).2
          · exact others item (.inr untouched)

/-- When a step has rewritten the visible list, perhaps to nothing, all items
come to hold exactly if those of that list do. -/
theorem forall_modifyCurrent_iff (empty : start [] = [])
    (each : ∀ list, (∀ item ∈ list, whole item) →
      ((∀ item ∈ shape list, holds item) ↔ ∀ item ∈ list, before item))
    (known : ∀ item, holds item → whole item ∧ before item)
    {lists : List (List α)}
    (kept : ∀ item ∈ start (current lists), whole item)
    (others : ∀ item ∈ lists.flatten, holds item) :
    (∀ item ∈ (modifyCurrent shape (modifyCurrent start lists)).flatten,
        holds item) ↔
      ∀ item ∈ start (current lists), before item := by
  induction lists with
  | nil =>
      rw [current, empty]
      simp [modifyCurrent]
  | cons list rest hypothesis =>
      simp only [List.flatten_cons, List.mem_append] at others
      have untouched : ∀ item ∈ rest.flatten, holds item :=
        fun item listed => others item (.inr listed)
      cases list with
      | nil => exact hypothesis kept untouched
      | cons head list =>
          have visible := List.cons_ne_nil head list
          rw [current_cons_of_ne_nil visible] at kept ⊢
          rw [modifyCurrent_cons_of_ne_nil _ visible]
          cases reduced : start (head :: list) with
          | nil =>
              have later := forall_modifyCurrent each known untouched
              simpa [modifyCurrent] using later
          | cons first others =>
              rw [reduced] at kept
              rw [modifyCurrent_cons_of_ne_nil _ (List.cons_ne_nil _ _),
                List.flatten_cons, List.forall_mem_append, each _ kept]
              exact and_iff_left untouched

end

theorem map_modifyCurrent {β : Type} {view : α → β}
    {change : List α → List α} {seen : List β → List β}
    (changes : ∀ list, (change list).map view = seen (list.map view))
    (lists : List (List α)) :
    (modifyCurrent change lists).map (List.map view) =
      modifyCurrent seen (lists.map (List.map view)) := by
  induction lists with
  | nil => rfl
  | cons list rest hypothesis =>
      cases list with
      | nil => exact congrArg (List.cons []) hypothesis
      | cons item items =>
          rw [modifyCurrent_cons_of_ne_nil _ (List.cons_ne_nil item items),
            List.map_cons, changes]
          rfl

/-- Two ways to rewrite what the reader sees look alike exactly when each item
does. -/
theorem map_modifyCurrent_eq_iff {β : Type} {view : α → β}
    {first second : α → α} {lists : List (List α)} :
    (modifyCurrent (List.map first) lists).map (List.map view) =
        (modifyCurrent (List.map second) lists).map (List.map view) ↔
      ∀ item ∈ current lists, view (first item) = view (second item) := by
  induction lists with
  | nil => simp [modifyCurrent, current]
  | cons list rest hypothesis =>
      by_cases empty : list = []
      · subst empty
        rw [current_nil_cons, ← hypothesis]
        exact List.cons_inj_right []
      · rw [modifyCurrent_cons_of_ne_nil _ empty,
          modifyCurrent_cons_of_ne_nil _ empty, current_cons_of_ne_nil empty,
          List.map_cons, List.map_cons, List.cons_eq_cons,
          and_iff_left rfl, List.map_map,
          List.map_map, List.map_inj_left]
        rfl

theorem map_modifyCurrent_of_same {β : Type} {view : α → β} {change : α → α}
    (same : ∀ item, view (change item) = view item) (lists : List (List α)) :
    (modifyCurrent (List.map change) lists).map (List.map view) =
      lists.map (List.map view) := by
  have changes (list : List α) :
      (list.map change).map view = id (list.map view) := by
    rw [List.map_map]
    exact List.map_congr_left fun item _ => same item
  rw [map_modifyCurrent changes]
  induction lists.map (List.map view) with
  | nil => rfl
  | cons list rest hypothesis =>
      cases list with
      | nil => exact congrArg (List.cons []) hypothesis
      | cons item items => rfl

/-- A filter that judges items by what is seen of them keeps the same as
another exactly when the two agree. -/
theorem map_filter_eq_iff {β : Type} {view : α → β} {keep later : α → Bool}
    (seen : β → Bool) (judges : ∀ item, later item = seen (view item))
    {list : List α} :
    (list.filter later).map view = (list.filter keep).map view ↔
      ∀ item ∈ list, later item = keep item := by
  constructor
  · intro same
    have kept (item : α) (listed : item ∈ list) (held : keep item = true) :
        later item = true := by
      have visible : view item ∈ (list.filter keep).map view :=
        List.mem_map_of_mem (List.mem_filter.mpr ⟨listed, held⟩)
      rw [← same] at visible
      obtain ⟨other, among, alike⟩ := List.mem_map.mp visible
      rw [judges, ← alike, ← judges]
      exact (List.mem_filter.mp among).2
    -- As many pass the one filter as the other, so none passes only one.
    have lengths := congrArg List.length same
    rw [List.length_map, List.length_map] at lengths
    have both : (list.filter later).filter keep = list.filter keep := by
      rw [List.filter_filter]
      apply List.filter_congr
      intro item listed
      cases held : keep item with
      | false => rfl
      | true => exact kept item listed held
    have full : (list.filter later).filter keep = list.filter later := by
      apply List.filter_eq_self.mpr
      apply List.length_filter_eq_length_iff.mp
      rw [both, lengths]
    intro item listed
    cases held : keep item with
    | true => exact kept item listed held
    | false =>
        by_contra passes
        have among : item ∈ list.filter later :=
          List.mem_filter.mpr ⟨listed, Bool.of_not_eq_false passes⟩
        rw [← full] at among
        have judged := (List.mem_filter.mp among).2
        rw [held] at judged
        cases judged
  · intro alike
    rw [List.filter_congr alike]

theorem filter_map_filter_eq_self_iff {keep later : α → Bool}
    {change : α → α} {list : List α} :
    ((list.filter keep).map change).filter later = list ↔
      ∀ item ∈ list,
        keep item = true ∧ change item = item ∧ later item = true := by
  constructor
  · intro same
    -- Neither filter can drop an item, for the length would show it.
    have lengths := congrArg List.length same
    have second := List.length_filter_le later ((list.filter keep).map change)
    rw [List.length_map] at second
    have first := List.length_filter_le keep list
    have kept : list.filter keep = list := by
      apply List.filter_eq_self.mpr
      apply List.length_filter_eq_length_iff.mp
      omega
    rw [kept] at same
    have shown : (list.map change).filter later = list.map change := by
      apply List.filter_eq_self.mpr
      apply List.length_filter_eq_length_iff.mp
      rw [same, List.length_map]
    rw [shown] at same
    have unchanged : ∀ item ∈ list, change item = item := by
      apply List.map_inj_left.mp
      rw [same, List.map_id']
    intro item listed
    refine ⟨List.filter_eq_self.mp kept item listed, unchanged item listed, ?_⟩
    have visible := List.filter_eq_self.mp shown (change item)
      (List.mem_map_of_mem listed)
    rwa [unchanged item listed] at visible
  · intro each
    have kept : list.filter keep = list :=
      List.filter_eq_self.mpr fun item listed => (each item listed).1
    have unchanged : list.map change = list.map id :=
      List.map_inj_left.mpr fun item listed => (each item listed).2.1
    rw [kept, unchanged, List.map_id]
    exact List.filter_eq_self.mpr fun item listed => (each item listed).2.2

/-- Two sweeps leave everything in place exactly when neither finds anything
to do in the list the reader sees. -/
theorem sweep_sweep_eq_self_iff {keep later : α → Bool} {change : α → α}
    {lists : List (List α)} :
    sweep later id (sweep keep change lists) = lists ↔
      ∀ item ∈ current lists,
        keep item = true ∧ change item = item ∧ later item = true := by
  induction lists with
  | nil => simp [sweep, current]
  | cons list rest hypothesis =>
      by_cases empty : list = []
      · subst empty
        rw [sweep_cons_of_eq_nil rfl, sweep_cons_of_eq_nil rfl,
          current_nil_cons, List.cons_inj_right]
        exact hypothesis
      · rw [current_cons_of_ne_nil empty, ← filter_map_filter_eq_self_iff]
        by_cases kept : list.filter keep = []
        · rw [sweep_cons_of_eq_nil kept, sweep_cons_of_eq_nil rfl, kept]
          simp [Ne.symm empty]
        · rw [sweep_cons_of_ne_nil kept]
          by_cases shown : ((list.filter keep).map change).filter later = []
          · rw [sweep_cons_of_eq_nil shown, shown]
            simp [Ne.symm empty]
          · rw [sweep_cons_of_ne_nil shown, List.map_id]
            simp

end Sweep

end Replex.Data
