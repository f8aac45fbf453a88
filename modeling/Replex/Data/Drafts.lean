import Replex.Data.Records

namespace Replex.Data

open Records

/-! Documents as their reader meets them, well formed or not, and decoders of
which some panic. -/

/-- A list that is not closed ends in an error. What stands after something
broken is met by a reader that goes on nevertheless. -/
inductive Draft where
  | broken (skippable : Bool)
  | null
  | bool (value : Bool)
  | num (value : JsonNumber)
  | str (value : String)
  | arr (items : List Draft) (closed : Bool)
  | obj (members : List (String × Draft)) (closed : Bool)

namespace Draft

def isNull : Draft → Bool
  | null => true
  | _ => false

mutual
/-- The document, if all of it can be read. -/
def json? : Draft → Option Json
  | broken _ => none
  | null => some .null
  | bool value => some (.bool value)
  | num value => some (.num value)
  | str value => some (.str value)
  | arr items closed =>
      if closed then (itemsJson? items).map .arr else none
  | obj members closed =>
      if closed then (membersJson? members).map .obj else none

def itemsJson? : List Draft → Option (List Json)
  | [] => some []
  | item :: items =>
      item.json?.bind fun json => (itemsJson? items).map (json :: ·)

def membersJson? : List (String × Draft) → Option (List (String × Json))
  | [] => some []
  | (key, draft) :: members =>
      draft.json?.bind fun json =>
        (membersJson? members).map ((key, json) :: ·)
end

mutual
/-- Less is asked of what is passed over. -/
def skips : Draft → Bool
  | broken skippable => skippable
  | arr items closed => skipsItems items && closed
  | obj members closed => skipsMembers members && closed
  | _ => true

def skipsItems : List Draft → Bool
  | [] => true
  | item :: items => item.skips && skipsItems items

def skipsMembers : List (String × Draft) → Bool
  | [] => true
  | (_, draft) :: members => draft.skips && skipsMembers members
end

mutual
def ofJson : Json → Draft
  | .null => null
  | .bool value => bool value
  | .num value => num value
  | .str value => str value
  | .arr items => arr (ofItems items) true
  | .obj members => obj (ofMembers members) true

def ofItems : List Json → List Draft
  | [] => []
  | item :: items => ofJson item :: ofItems items

def ofMembers : List (String × Json) → List (String × Draft)
  | [] => []
  | (key, json) :: members => (key, ofJson json) :: ofMembers members
end

theorem tree_induction {motive : Draft → Prop}
    (broken : ∀ skippable, motive (broken skippable))
    (null : motive null) (bool : ∀ value, motive (bool value))
    (num : ∀ value, motive (num value)) (str : ∀ value, motive (str value))
    (arr : ∀ items closed, (∀ item ∈ items, motive item) →
      motive (arr items closed))
    (obj : ∀ members closed, (∀ member ∈ members, motive member.2) →
      motive (obj members closed)) (draft : Draft) : motive draft := by
  refine @Draft.rec motive (fun items => ∀ item ∈ items, motive item)
    (fun members => ∀ member ∈ members, motive member.2)
    (fun member => motive member.2) broken null bool num str arr obj
    ?_ ?_ ?_ ?_ ?_ draft
  · intro item listed
    cases listed
  · intro head tail headHolds tailHolds item listed
    rcases List.mem_cons.mp listed with rfl | listed
    · exact headHolds
    · exact tailHolds item listed
  · intro member listed
    cases listed
  · intro head tail headHolds tailHolds member listed
    rcases List.mem_cons.mp listed with rfl | listed
    · exact headHolds
    · exact tailHolds member listed
  · intro key value holds
    exact holds

theorem isNull_ofJson (json : Json) : (ofJson json).isNull = json.isNull := by
  cases json <;> rfl

theorem json?_ofJson (json : Json) : (ofJson json).json? = some json := by
  induction json using Json.tree_induction with
  | null | bool _ | num _ | str _ => rfl
  | arr items each =>
      have all : itemsJson? (ofItems items) = some items := by
        induction items with
        | nil => rfl
        | cons item items hypothesis =>
            rw [List.forall_mem_cons] at each
            rw [ofItems, itemsJson?, each.1, hypothesis each.2]
            rfl
      rw [ofJson, json?, if_pos rfl, all]
      rfl
  | obj members each =>
      have all : membersJson? (ofMembers members) = some members := by
        induction members with
        | nil => rfl
        | cons member members hypothesis =>
            rw [List.forall_mem_cons] at each
            rw [ofMembers, membersJson?, each.1, hypothesis each.2]
            rfl
      rw [ofJson, json?, if_pos rfl, all]
      rfl

theorem skips_ofJson (json : Json) : (ofJson json).skips = true := by
  induction json using Json.tree_induction with
  | null | bool _ | num _ | str _ => rfl
  | arr items each =>
      have all : skipsItems (ofItems items) = true := by
        induction items with
        | nil => rfl
        | cons item items hypothesis =>
            rw [List.forall_mem_cons] at each
            rw [ofItems, skipsItems, each.1, hypothesis each.2]
            rfl
      rw [ofJson, skips, all]
      rfl
  | obj members each =>
      have all : skipsMembers (ofMembers members) = true := by
        induction members with
        | nil => rfl
        | cons member members hypothesis =>
            rw [List.forall_mem_cons] at each
            rw [ofMembers, skipsMembers, each.1, hypothesis each.2]
            rfl
      rw [ofJson, skips, all]
      rfl

end Draft

/-! Outcomes. -/

inductive Outcome (α : Type) where
  | ok (value : α)
  | error
  | panicked

namespace Outcome

variable {α β : Type}

def bind (outcome : Outcome α) (next : α → Outcome β) : Outcome β :=
  match outcome with
  | ok value => next value
  | error => error
  | panicked => panicked

def map (change : α → β) (outcome : Outcome α) : Outcome β :=
  outcome.bind fun value => ok (change value)

def ofOption : Option α → Outcome α
  | some value => ok value
  | none => error

def toOption : Outcome α → Option α
  | ok value => some value
  | _ => none

@[simp] theorem toOption_ofOption (value? : Option α) :
    (ofOption value?).toOption = value? := by
  cases value? <;> rfl

@[simp] theorem toOption_bind (outcome : Outcome α) (next : α → Outcome β) :
    (outcome.bind next).toOption =
      outcome.toOption.bind fun value => (next value).toOption := by
  cases outcome <;> rfl

@[simp] theorem toOption_map (change : α → β) (outcome : Outcome α) :
    (outcome.map change).toOption = outcome.toOption.map change := by
  cases outcome <;> rfl

theorem of_bind_eq_ok {outcome : Outcome α} {next : α → Outcome β}
    {result : β} (bound : outcome.bind next = ok result) :
    ∃ value, outcome = ok value ∧ next value = ok result := by
  cases outcome with
  | ok value => exact ⟨value, rfl, bound⟩
  | error => cases bound
  | panicked => cases bound

theorem of_map_eq_ok {outcome : Outcome α} {change : α → β} {result : β}
    (mapped : outcome.map change = ok result) :
    ∃ value, outcome = ok value ∧ change value = result := by
  obtain ⟨value, same, changed⟩ := of_bind_eq_ok mapped
  cases changed
  exact ⟨value, same, rfl⟩

end Outcome

/-- What a reader cannot take: a value that its leaf cannot be read from, or
anything else that the format does not have. -/
inductive Fault (ℓ : Type) where
  | unreadable (leaf : ℓ)
  | malformed
  deriving DecidableEq

/-- A reading stops at the first fault, and panics there or not. -/
def Outcome.Follows {α φ : Type} (panics : φ → Bool) (outcome : Outcome α)
    (faults : List φ) : Prop :=
  match outcome with
  | ok _ => faults = []
  | error => ∃ fault, faults.head? = some fault ∧ panics fault = false
  | panicked => ∃ fault, faults.head? = some fault ∧ panics fault = true

namespace Outcome.Follows

variable {α β φ : Type} {panics : φ → Bool} {outcome : Outcome α}
  {first rest : List φ}

theorem bind {next : α → Outcome β} (follows : outcome.Follows panics first)
    (later : ∀ value, outcome = .ok value →
      (next value).Follows panics rest) :
    (outcome.bind next).Follows panics (first ++ rest) := by
  cases outcome with
  | ok value =>
      have none : first = [] := follows
      rw [none]
      exact later value rfl
  | error =>
      obtain ⟨fault, head, harmless⟩ := follows
      exact ⟨fault, by rw [List.head?_append, head]; rfl, harmless⟩
  | panicked =>
      obtain ⟨fault, head, fatal⟩ := follows
      exact ⟨fault, by rw [List.head?_append, head]; rfl, fatal⟩

theorem map (change : α → β) (follows : outcome.Follows panics first) :
    (outcome.map change).Follows panics first := by
  cases outcome <;> exact follows

theorem panicked_iff (follows : outcome.Follows panics first) :
    outcome = .panicked ↔
      ∃ fault, first.head? = some fault ∧ panics fault = true := by
  cases outcome with
  | ok value =>
      have none : first = [] := follows
      simp [none]
  | error =>
      obtain ⟨fault, head, harmless⟩ := follows
      simp [head, harmless]
  | panicked => exact iff_of_true rfl follows

end Outcome.Follows

end Replex.Data
