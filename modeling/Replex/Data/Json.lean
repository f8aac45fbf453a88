import Mathlib.Algebra.Order.Field.Rat
import Mathlib.Data.List.Forall2

namespace Replex.Data

/-! Documents, and what one of them carries of another. -/

/-- A number as it is written, without or with a fraction or an exponent. -/
inductive JsonNumber where
  | int (value : Int)
  | decimal (mantissa exponent : Int)
  deriving DecidableEq

def JsonNumber.value : JsonNumber → ℚ
  | int value => value
  | decimal mantissa exponent => mantissa * 10 ^ exponent

inductive Json where
  | null
  | bool (value : Bool)
  | num (value : JsonNumber)
  | str (value : String)
  | arr (items : List Json)
  | obj (members : List (String × Json))

namespace Json

def isNull : Json → Bool
  | null => true
  | _ => false

@[simp] theorem isNull_iff {json : Json} :
    json.isNull = true ↔ json = null := by
  cases json <;> simp [isNull]

theorem tree_induction {motive : Json → Prop}
    (null : motive null) (bool : ∀ value, motive (bool value))
    (num : ∀ value, motive (num value)) (str : ∀ value, motive (str value))
    (arr : ∀ items, (∀ item ∈ items, motive item) → motive (arr items))
    (obj : ∀ members, (∀ member ∈ members, motive member.2) →
      motive (obj members)) (json : Json) : motive json := by
  refine @Json.rec motive (fun items => ∀ item ∈ items, motive item)
    (fun members => ∀ member ∈ members, motive member.2)
    (fun member => motive member.2) null bool num str arr obj
    ?_ ?_ ?_ ?_ ?_ json
  · intro item listed
    cases listed
  · intro head tail headHolds tailHolds item listed
    rcases List.mem_cons.mp listed with rfl | listed
    · exact headHolds
    · exact tailHolds item listed
  · intro member listed
    cases listed
  · intro head tail headHolds tailHolds member listed
    rcases List.mem_cons.mp listed with rfl | listed
    · exact headHolds
    · exact tailHolds member listed
  · intro key value holds
    exact holds

mutual
/-- The same value, but for members that are null on one side and members that
only the second one has. -/
def Carried : Json → Json → Prop
  | null, null => True
  | bool value, bool other => value = other
  | num number, num other => number.value = other.value
  | str text, str other => text = other
  | arr items, arr others => CarriedItems items others
  | obj members, obj others => CarriedMembers members others
  | _, _ => False

def CarriedItems : List Json → List Json → Prop
  | [], [] => True
  | item :: items, other :: others =>
      Carried item other ∧ CarriedItems items others
  | _, _ => False

def CarriedMembers : List (String × Json) → List (String × Json) → Prop
  | [], _ => True
  | (key, value) :: members, others =>
      (value ≠ null → ∃ other, (key, other) ∈ others ∧ Carried value other) ∧
        CarriedMembers members others
end

theorem carriedItems_iff {items others : List Json} :
    CarriedItems items others ↔ List.Forall₂ Carried items others := by
  induction items generalizing others with
  | nil => cases others <;> simp [CarriedItems]
  | cons item items hypothesis =>
      cases others <;> simp [CarriedItems, hypothesis]

theorem carriedMembers_iff {members others : List (String × Json)} :
    CarriedMembers members others ↔
      ∀ key value, (key, value) ∈ members → value ≠ null →
        ∃ other, (key, other) ∈ others ∧ Carried value other := by
  induction members with
  | nil => simp [CarriedMembers]
  | cons member members hypothesis =>
      obtain ⟨name, json⟩ := member
      rw [CarriedMembers, hypothesis]
      constructor
      · rintro ⟨first, rest⟩ key value listed
        rcases List.mem_cons.mp listed with equal | listed
        · cases equal
          exact first
        · exact rest key value listed
      · intro every
        refine ⟨every name json List.mem_cons_self, ?_⟩
        intro key value listed
        exact every key value (List.mem_cons_of_mem _ listed)

theorem not_carried_null {json : Json} (filled : json ≠ null) :
    ¬ Carried json null := by
  cases json <;> simp [Carried] at filled ⊢

inductive Step where
  | item (index : Nat)
  | member (key : String)

/-- What stands at a place of a document. -/
inductive At : List Step → Json → Json → Prop where
  | here (json : Json) : At [] json json
  | item {place : List Step} {items : List Json} {index : Nat}
      {value found : Json} (listed : items[index]? = some value)
      (below : At place value found) :
      At (.item index :: place) (arr items) found
  | member {place : List Step} {members : List (String × Json)}
      {key : String} {value found : Json} (listed : (key, value) ∈ members)
      (below : At place value found) :
      At (.member key :: place) (obj members) found

/-- Every member of every object that is not null stands, with an equal value,
at the same place of the other document. -/
def KeptBy (upstream rendered : Json) : Prop :=
  ∀ place members key value, At place upstream (obj members) →
    (key, value) ∈ members → value ≠ null →
      ∃ others other, At place rendered (obj others) ∧
        (key, other) ∈ others ∧ Carried value other

/-- No object at any place has a member but null ones. -/
def Memberless (json : Json) : Prop :=
  ∀ place members key value, At place json (obj members) →
    (key, value) ∈ members → value = null

theorem keptBy_of_carried {upstream rendered : Json}
    (carried : Carried upstream rendered) : KeptBy upstream rendered := by
  intro place members key value found
  generalize target : obj members = json at found
  -- On the place: what is carried is carried part by part.
  induction found generalizing rendered with
  | here =>
      subst target
      intro listed filled
      cases rendered with
      | obj others =>
          obtain ⟨other, among, equal⟩ :=
            carriedMembers_iff.mp carried key value listed filled
          exact ⟨others, other, .here _, among, equal⟩
      | _ => simp [Carried] at carried
  | @item place items index part found listed below hypothesis =>
      intro among filled
      cases rendered with
      | arr others =>
          have each := carriedItems_iff.mp carried
          obtain ⟨bound, rfl⟩ := List.getElem?_eq_some_iff.mp listed
          have alsoBound : index < others.length := each.length_eq ▸ bound
          have part := each.get bound alsoBound
          obtain ⟨inner, other, place, rest⟩ :=
            hypothesis part target among filled
          refine ⟨inner, other, .item ?_ place, rest⟩
          exact List.getElem?_eq_getElem alsoBound
      | _ => simp [Carried] at carried
  | @member place parts name part found listed below hypothesis =>
      intro among filled
      cases rendered with
      | obj others =>
          have present : part ≠ null := by
            rintro rfl
            subst target
            cases below
          obtain ⟨other, alsoAmong, equal⟩ :=
            carriedMembers_iff.mp carried name part listed present
          obtain ⟨inner, last, place, rest⟩ :=
            hypothesis equal target among filled
          exact ⟨inner, last, .member alsoAmong place, rest⟩
      | _ => simp [Carried] at carried

theorem keptBy_obj_iff {members : List (String × Json)} {rendered : Json}
    {others : List (String × Json)} (object : rendered = obj others) :
    KeptBy (obj members) rendered ↔ Carried (obj members) rendered := by
  subst object
  constructor
  · intro kept
    apply carriedMembers_iff.mpr
    intro key value listed filled
    obtain ⟨found, other, place, among, equal⟩ :=
      kept [] members key value (.here _) listed filled
    cases place
    exact ⟨other, among, equal⟩
  · exact keptBy_of_carried

/-- An object has nothing at the places of an array. -/
theorem keptBy_arr_iff {items : List Json} {others : List (String × Json)} :
    KeptBy (arr items) (obj others) ↔ Memberless (arr items) := by
  constructor
  · intro kept place members key value found listed
    by_contra filled
    obtain ⟨_, _, elsewhere, -⟩ :=
      kept place members key value found listed filled
    cases found with
    | item _ _ => cases elsewhere
  · intro none place members key value found listed filled
    exact absurd (none place members key value found listed) filled

end Json

end Replex.Data
