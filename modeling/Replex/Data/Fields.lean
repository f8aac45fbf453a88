import Mathlib.Data.List.Basic

namespace Replex.Data.Fields

/-! Fields, each a name, an equals sign and a value, put together with
separators. They can be told apart again when names and values differ in
kind. -/

variable {γ : Type}

def following (separator equals : γ) (fields : List (List γ × List γ)) :
    List γ :=
  fields.flatMap fun field => separator :: (field.1 ++ equals :: field.2)

def join (separator equals : γ) : List (List γ × List γ) → List γ
  | [] => []
  | field :: fields =>
      field.1 ++ equals :: (field.2 ++ following separator equals fields)

theorem following_cons (separator equals : γ) (field : List γ × List γ)
    (fields : List (List γ × List γ)) :
    following separator equals (field :: fields) =
      separator :: join separator equals (field :: fields) := by
  simp [following, join]

/-- Every name has a marked element, and no value has one. -/
structure Readable (separator equals : γ) (marked : γ → Prop)
    (field : List γ × List γ) : Prop where
  noSeparator : separator ∉ field.1
  noEquals : equals ∉ field.1
  name : ∃ element ∈ field.1, marked element
  value : ∀ element ∈ field.2, ¬ marked element

theorem append_cons_inj {symbol : γ} {front other rest tail : List γ}
    (absent : symbol ∉ front) (alsoAbsent : symbol ∉ other)
    (same : front ++ symbol :: rest = other ++ symbol :: tail) :
    front = other ∧ rest = tail := by
  induction front generalizing other with
  | nil =>
      cases other with
      | nil => exact ⟨rfl, (List.cons.inj same).2⟩
      | cons head other =>
          have first := (List.cons.inj same).1
          exact absurd (first ▸ List.mem_cons_self) alsoAbsent
  | cons head front hypothesis =>
      cases other with
      | nil =>
          have first := (List.cons.inj same).1
          exact absurd (first ▸ List.mem_cons_self) absent
      | cons first other =>
          obtain ⟨rfl, next⟩ := List.cons.inj same
          obtain ⟨rfl, rest⟩ := hypothesis
            (fun member => absent (List.mem_cons_of_mem head member))
            (fun member => alsoAbsent (List.mem_cons_of_mem head member)) next
          exact ⟨rfl, rest⟩

variable {separator equals : γ} {marked : γ → Prop}
  {fields others : List (List γ × List γ)}

/-- Behind a value stands nothing, or a separator and a name. -/
theorem following_of_unmarked {front : List γ}
    (readable : ∀ field ∈ fields, Readable separator equals marked field)
    (unmarked : ∀ element ∈ front, ¬ marked element)
    (same : following separator equals fields =
      front ++ following separator equals others) : front = [] := by
  cases front with
  | nil => rfl
  | cons head front =>
      cases fields with
      | nil => cases same
      | cons field fields =>
          exfalso
          obtain ⟨noSeparator, -, ⟨element, named, mark⟩, -⟩ :=
            readable field List.mem_cons_self
          have notYet : element ∉ head :: front :=
            fun member => unmarked element member mark
          rw [following_cons] at same
          have next : field.1 ++ (equals :: (field.2 ++
              following separator equals fields)) =
                front ++ following separator equals others :=
            (List.cons.inj same).2
          rcases List.append_eq_append_iff.mp next with
            ⟨rest, within, -⟩ | ⟨rest, beyond, tail⟩
          · -- The name would lie within unmarked elements.
            apply notYet
            rw [within]
            exact List.mem_cons_of_mem _ (List.mem_append_left rest named)
          · cases others with
            | nil =>
                have empty : rest = [] := by
                  have both := congrArg List.length tail
                  simp [following] at both
                apply notYet
                rw [beyond, empty, List.append_nil] at named
                exact List.mem_cons_of_mem _ named
            | cons other others =>
                cases rest with
                | nil =>
                    rw [List.append_nil] at beyond
                    exact notYet (List.mem_cons_of_mem _ (beyond ▸ named))
                | cons first rest =>
                    -- The name would contain the separator.
                    have start : separator = first := (List.cons.inj tail).1
                    apply noSeparator
                    rw [beyond, start]
                    exact List.mem_append_right front List.mem_cons_self

theorem append_following_inj {front other : List γ}
    (readable : ∀ field ∈ fields, Readable separator equals marked field)
    (alsoReadable : ∀ field ∈ others, Readable separator equals marked field)
    (unmarked : ∀ element ∈ front, ¬ marked element)
    (alsoUnmarked : ∀ element ∈ other, ¬ marked element)
    (same : front ++ following separator equals fields =
      other ++ following separator equals others) :
    front = other ∧
      following separator equals fields =
        following separator equals others := by
  rcases List.append_eq_append_iff.mp same with
    ⟨rest, rfl, tail⟩ | ⟨rest, rfl, tail⟩
  · have empty := following_of_unmarked readable
      (fun element member =>
        alsoUnmarked element (List.mem_append_right front member)) tail
    subst empty
    exact ⟨(List.append_nil front).symm, tail⟩
  · have empty := following_of_unmarked alsoReadable
      (fun element member =>
        unmarked element (List.mem_append_right other member)) tail
    subst empty
    exact ⟨List.append_nil other, tail.symm⟩

/-- One field, read off the front. -/
theorem field_inj {field other : List γ × List γ}
    (readable : ∀ each ∈ field :: fields,
      Readable separator equals marked each)
    (alsoReadable : ∀ each ∈ other :: others,
      Readable separator equals marked each)
    (same : join separator equals (field :: fields) =
      join separator equals (other :: others)) :
    field = other ∧
      following separator equals fields =
        following separator equals others := by
  have first := readable field List.mem_cons_self
  have second := alsoReadable other List.mem_cons_self
  obtain ⟨names, rest⟩ :=
    append_cons_inj first.noEquals second.noEquals same
  obtain ⟨values, tails⟩ := append_following_inj
    (fun each member => readable each (List.mem_cons_of_mem field member))
    (fun each member => alsoReadable each (List.mem_cons_of_mem other member))
    first.value second.value rest
  exact ⟨Prod.ext names values, tails⟩

theorem following_inj
    (readable : ∀ field ∈ fields, Readable separator equals marked field)
    (alsoReadable : ∀ field ∈ others, Readable separator equals marked field)
    (same : following separator equals fields =
      following separator equals others) : fields = others := by
  induction fields generalizing others with
  | nil =>
      cases others with
      | nil => rfl
      | cons other others => cases same
  | cons field fields hypothesis =>
      cases others with
      | nil => cases same
      | cons other others =>
          rw [following_cons, following_cons] at same
          have joined := (List.cons.inj same).2
          obtain ⟨rfl, tails⟩ := field_inj readable alsoReadable joined
          have rest := hypothesis
            (fun each member => readable each (List.mem_cons_of_mem _ member))
            (fun each member =>
              alsoReadable each (List.mem_cons_of_mem _ member)) tails
          rw [rest]

theorem join_inj
    (readable : ∀ field ∈ fields, Readable separator equals marked field)
    (alsoReadable : ∀ field ∈ others, Readable separator equals marked field)
    (same : join separator equals fields = join separator equals others) :
    fields = others := by
  cases fields with
  | nil =>
      cases others with
      | nil => rfl
      | cons other others => simp [join] at same
  | cons field fields =>
      cases others with
      | nil => simp [join] at same
      | cons other others =>
          obtain ⟨rfl, tails⟩ := field_inj readable alsoReadable same
          have rest := following_inj
            (fun each member => readable each (List.mem_cons_of_mem _ member))
            (fun each member =>
              alsoReadable each (List.mem_cons_of_mem _ member)) tails
          rw [rest]

theorem join_eq_intercalate (separator equals : γ)
    (fields : List (List γ × List γ)) :
    join separator equals fields =
      [separator].intercalate
        (fields.map fun field => field.1 ++ equals :: field.2) := by
  cases fields with
  | nil => rfl
  | cons field fields =>
      induction fields generalizing field with
      | nil => simp [join, following]
      | cons next fields hypothesis =>
          rw [join, following_cons, hypothesis, List.map_cons, List.map_cons,
            List.map_cons, List.intercalate_cons_cons]
          simp

/-! Fields that are read up to a symbol. -/

variable [DecidableEq γ]

/-- The fields up to the first value with the symbol, and that value up to
it. -/
def upTo (stop : γ) : List (List γ × List γ) → List (List γ × List γ)
  | [] => []
  | field :: fields =>
      if stop ∈ field.2 then [(field.1, field.2.takeWhile (· ≠ stop))]
      else field :: upTo stop fields

theorem takeWhile_of_mem {stop : γ} {front rest : List γ}
    (member : stop ∈ front) :
    (front ++ rest).takeWhile (· ≠ stop) = front.takeWhile (· ≠ stop) := by
  induction front with
  | nil => cases member
  | cons head front hypothesis =>
      by_cases same : head = stop
      · simp [same]
      · have later : stop ∈ front :=
          (List.mem_cons.mp member).resolve_left (Ne.symm same)
        simp only [List.cons_append, List.takeWhile_cons, hypothesis later]

theorem takeWhile_of_notMem {stop : γ} {front rest : List γ}
    (absent : stop ∉ front) :
    (front ++ rest).takeWhile (· ≠ stop) =
      front ++ rest.takeWhile (· ≠ stop) := by
  apply List.takeWhile_append_of_pos
  intro element member
  have different : element ≠ stop := fun same => absent (same ▸ member)
  simpa using different

section

variable {stop : γ} (notSeparator : stop ≠ separator)
  (notEquals : stop ≠ equals)

include notSeparator notEquals

theorem takeWhile_following (rest : List γ)
    (names : ∀ field ∈ fields, stop ∉ field.1) :
    (following separator equals fields ++ rest).takeWhile (· ≠ stop) =
      following separator equals (upTo stop fields) ++
        if ∃ field ∈ fields, stop ∈ field.2 then []
        else rest.takeWhile (· ≠ stop) := by
  induction fields with
  | nil => simp [following, upTo]
  | cons field fields hypothesis =>
      have name : stop ∉ separator :: (field.1 ++ [equals]) := by
        have := names field List.mem_cons_self
        simp [notSeparator, notEquals, this]
      have shape : following separator equals (field :: fields) ++ rest =
          (separator :: (field.1 ++ [equals])) ++
            (field.2 ++ (following separator equals fields ++ rest)) := by
        simp [following]
      rw [shape, takeWhile_of_notMem name]
      by_cases member : stop ∈ field.2
      · rw [takeWhile_of_mem member, upTo, if_pos member,
          if_pos ⟨field, List.mem_cons_self, member⟩]
        simp [following]
      · have later := hypothesis fun each listed =>
          names each (List.mem_cons_of_mem field listed)
        have same : (∃ each ∈ field :: fields, stop ∈ each.2) ↔
            ∃ each ∈ fields, stop ∈ each.2 := by simp [member]
        rw [takeWhile_of_notMem member, later, upTo, if_neg member]
        simp only [same, following, List.flatMap_cons, List.append_assoc,
          List.cons_append, List.nil_append]

theorem takeWhile_join (rest : List γ)
    (names : ∀ field ∈ fields, stop ∉ field.1) :
    (join separator equals fields ++ rest).takeWhile (· ≠ stop) =
      join separator equals (upTo stop fields) ++
        if ∃ field ∈ fields, stop ∈ field.2 then []
        else rest.takeWhile (· ≠ stop) := by
  cases fields with
  | nil => simp [join, upTo]
  | cons field fields =>
      have whole := takeWhile_following notSeparator notEquals rest names
      have cut : ∃ first others, upTo stop (field :: fields) =
          first :: others := by
        unfold upTo
        split <;> exact ⟨_, _, rfl⟩
      obtain ⟨first, others, cut⟩ := cut
      rw [cut, following_cons, following_cons, List.cons_append,
        List.takeWhile_cons_of_pos (by simpa using notSeparator.symm)] at whole
      rw [cut]
      exact (List.cons.inj whole).2

end

end Replex.Data.Fields
