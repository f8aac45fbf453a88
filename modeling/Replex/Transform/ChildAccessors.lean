import Replex.Models

namespace Replex

/-! The accessors of an item's children: what is read, what is exposed for
changes, and what is read back after a write. -/

theorem toInt_sizeOfLength (length : Nat) :
    (sizeOfLength length).toInt =
      if length < 2 ^ 31 then (length : Int) else 2147483647 := by
  unfold sizeOfLength
  split
  next fits => exact Int32.toInt_ofNat_of_lt fits
  next => rfl

namespace MetaData

/-- All children are in one list, so that every accessor shows them. -/
def InOneList (item : MetaData) : Prop :=
  item.childNodes.length = item.children.length

theorem inOneList_iff {item : MetaData} :
    item.InOneList ↔
      item.directory = [] ∧ item.video = [] ∨
        item.metadata = [] ∧ item.video = [] ∨
          item.metadata = [] ∧ item.directory = [] := by
  unfold InOneList childNodes children
  cases metadata : item.metadata with
  | nil =>
      cases directory : item.directory with
      | nil => cases video : item.video <;> simp
      | cons child directory => simp
  | cons child metadata =>
      simp only [List.length_append, ← List.length_eq_zero_iff,
        List.isEmpty_cons, Bool.not_false, if_true, List.length_cons]
      omega

theorem childrenMut_of_inOneList {item : MetaData} (one : item.InOneList) :
    item.childrenMut = item.children := by
  rcases inOneList_iff.mp one with
    ⟨directory, video⟩ | ⟨metadata, video⟩ | ⟨metadata, directory⟩
  · simp [childrenMut, children, directory, video]
  · simp [childrenMut, children, metadata, video]
  · simp [childrenMut, children, metadata, directory]

@[simp] theorem size_setChildren (item : MetaData) (value : List MetaData) :
    (item.setChildren value).size = some (sizeOfLength value.length) :=
  rfl

/-- `children` prefers `directory` to `video`, and `children_mut` does not; both
take the same list all the same. -/
def OneReading (item : MetaData) : Prop :=
  item.metadata ≠ [] ∨ item.video = [] ∨ item.directory = [] ∨
    item.video = item.directory

/-- A list replaces one that is there already, and an empty one uncovers the
next. -/
def Stores (item : MetaData) (value : List MetaData) : Prop :=
  if value = [] then item.InOneList else item.childNodes ≠ []

theorem children_eq_childrenMut_iff (item : MetaData) :
    item.children = item.childrenMut ↔ item.OneReading := by
  unfold children childrenMut OneReading
  by_cases metadata : item.metadata = []
  · by_cases video : item.video = []
    · simp [metadata, video]
    · by_cases directory : item.directory = []
      · simp [metadata, directory]
      · have apart : item.directory = item.video ↔
            item.video = item.directory := eq_comm
        simp [metadata, video, directory, apart]
  · simp [metadata]

theorem children_setChildren_nil_iff (item : MetaData) :
    (item.setChildren []).children = [] ↔ item.InOneList := by
  rw [inOneList_iff]
  unfold setChildren children
  by_cases metadata : item.metadata = []
  · by_cases directory : item.directory = []
    · by_cases video : item.video = [] <;> simp [metadata, directory, video]
    · by_cases video : item.video = [] <;> simp [metadata, directory, video]
  · by_cases directory : item.directory = []
    · by_cases video : item.video = [] <;> simp [metadata, directory, video]
    · simp [metadata, directory]

theorem children_setChildren_iff_of_ne_nil (item : MetaData)
    {value : List MetaData} (some : value ≠ []) :
    (item.setChildren value).children = value ↔ item.childNodes ≠ [] := by
  unfold setChildren children childNodes
  by_cases metadata : item.metadata = []
  · by_cases directory : item.directory = []
    · by_cases video : item.video = []
      · simp [metadata, directory, video, Ne.symm some]
      · simp [metadata, directory, video, some]
    · simp [metadata, directory, some]
  · simp [metadata, some]

theorem children_setChildren_iff (item : MetaData) (value : List MetaData) :
    (item.setChildren value).children = value ↔ item.Stores value := by
  unfold Stores
  split
  next none =>
      rw [none]
      exact children_setChildren_nil_iff item
  next some => exact children_setChildren_iff_of_ne_nil item some

end MetaData

/-- What is written is read back and counted, and every reader sees one list,
exactly for such items and lists. -/
theorem child_accessors_form_lens_iff (item : MetaData)
    (value : List MetaData) :
    (item.children = item.childrenMut ∧
        (item.setChildren value).children = value ∧
        (item.setChildren value).size.map Int32.toInt =
          some (value.length : Int)) ↔
      item.OneReading ∧ item.Stores value ∧ value.length < 2 ^ 31 := by
  have counted : (sizeOfLength value.length).toInt = value.length ↔
      value.length < 2 ^ 31 := by
    rw [toInt_sizeOfLength]
    split
    next fits => exact iff_of_true rfl fits
    next long => omega
  rw [MetaData.children_eq_childrenMut_iff, MetaData.children_setChildren_iff,
    MetaData.size_setChildren, Option.map_some, Option.some.injEq, counted]

/-- A list set on a new item is lost, an empty one uncovers another, and two
lists are read in two orders. -/
theorem child_accessors_disagree :
    ((({} : MetaData).setChildren [{ title := "Heat" }]).children ≠
        [{ title := "Heat" }]) ∧
      (({ metadata := [{ title := "Heat" }],
          video := [{ title := "Ronin" }] } : MetaData).setChildren
            []).children ≠ [] ∧
      ({ video := [{ title := "Heat" }],
         directory := [{ title := "Ronin" }] } : MetaData).children ≠
        ({ video := [{ title := "Heat" }],
           directory := [{ title := "Ronin" }] } : MetaData).childrenMut := by
  refine ⟨?_, ?_, ?_⟩
  · simp [MetaData.setChildren, MetaData.children]
  · simp [MetaData.setChildren, MetaData.children]
  · simp [MetaData.children, MetaData.childrenMut]

end Replex
