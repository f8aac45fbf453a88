import Replex.Data.Json

namespace Replex.Data.Records

open Json

/-! Records read from documents and written back, by a table of their
fields. -/

variable {ρ ℓ σ : Type}

/-- What a field holds: a leaf, one record, or a list of them. -/
inductive Kind (ρ ℓ : Type) where
  | leaf (leaf : ℓ)
  | record (name : ρ)
  | records (name : ρ)

/-- A missing or null member of an optional field is read as absent. A field
with a default can be missing, even where values come without names. -/
structure Field (ρ ℓ : Type) where
  name : String
  kind : Kind ρ ℓ
  optional : Bool := false
  defaulted : Bool := false
  skippedIfEmpty : Bool := false

inductive Value (ρ σ : Type) where
  | absent
  | leaf (scalar : σ)
  | record (name : ρ) (fields : List (String × Value ρ σ))
  | list (items : List (Value ρ σ))

namespace Field

variable (field : Field ρ ℓ)

def empty : Value ρ σ :=
  match field.kind with
  | .records _ => .list []
  | _ => .absent

def missing : Option (Value ρ σ) :=
  if field.optional || field.defaulted then some field.empty else none

end Field

namespace Value

def get (key : String) : Value ρ σ → Value ρ σ
  | .record _ fields => (fields.lookup key).getD .absent
  | _ => .absent

def items : Value ρ σ → List (Value ρ σ)
  | .list items => items
  | _ => []

def modifyFields (key : String) (change : Value ρ σ → Value ρ σ)
    (fields : List (String × Value ρ σ)) : List (String × Value ρ σ) :=
  fields.map fun field =>
    if field.1 = key then (key, change field.2) else field

def modify (key : String) (change : Value ρ σ → Value ρ σ) :
    Value ρ σ → Value ρ σ
  | .record name fields => .record name (modifyFields key change fields)
  | value => value

end Value

/-- The fields of each record, and how the leaves are read and written. -/
structure Format (ρ ℓ σ : Type) where
  fields : ρ → List (Field ρ ℓ)
  read : ℓ → Json → Option (Option σ)
  write : σ → Json
  isEmpty : σ → Bool
  /-- The documents that a leaf writes back as they were. -/
  Kept : ℓ → Json → Prop
  distinct : ∀ name, ((fields name).map Field.name).Nodup
  kept_iff : ∀ {leaf json scalar?}, read leaf json = some scalar? →
    json ≠ null →
      (Kept leaf json ↔
        ∃ scalar, scalar? = some scalar ∧ Carried json (write scalar))
  isEmpty_iff : ∀ {json scalar}, Carried json (write scalar) →
    (isEmpty scalar = true ↔ json = arr [])

def ofLeaf : Option σ → Value ρ σ
  | none => .absent
  | some scalar => .leaf scalar

def assemble (fields : List (Field ρ ℓ))
    (found : List (String × Value ρ σ)) :
    Option (List (String × Value ρ σ)) :=
  fields.mapM fun field =>
    ((found.lookup field.name).or field.missing).map (field.name, ·)

namespace Format

variable (format : Format ρ ℓ σ)

mutual
def readValue : Kind ρ ℓ → Json → Option (Value ρ σ)
  | .leaf leaf, json => (format.read leaf json).map ofLeaf
  | .record name, obj members =>
      (readMembers (format.fields name) members).bind fun found =>
        -- A member that is known must not be repeated.
        if (found.map Prod.fst).Nodup then
          (assemble (format.fields name) found).map (.record name)
        else
          none
  | .record name, arr items =>
      (readPlaces (format.fields name) items).map (.record name)
  | .records name, arr items => (readItems name items).map .list
  | _, _ => none

/-- Unknown members are passed over. -/
def readMembers (fields : List (Field ρ ℓ)) :
    List (String × Json) → Option (List (String × Value ρ σ))
  | [] => some []
  | (key, json) :: members =>
      match fields.find? fun field => field.name == key with
      | none => readMembers fields members
      | some field =>
          (if field.optional && json.isNull then some .absent
            else readValue field.kind json).bind fun value =>
              (readMembers fields members).map ((key, value) :: ·)

/-- A record may also come as the array of its values. -/
def readPlaces (fields : List (Field ρ ℓ)) :
    List Json → Option (List (String × Value ρ σ))
  | [] =>
      if fields.all Field.defaulted then
        some (fields.map fun field => (field.name, field.empty))
      else
        none
  | json :: items =>
      match fields with
      | [] => none
      | field :: fields =>
          (if field.optional && json.isNull then some .absent
            else readValue field.kind json).bind fun value =>
              (readPlaces fields items).map ((field.name, value) :: ·)

def readItems (name : ρ) : List Json → Option (List (Value ρ σ))
  | [] => some []
  | item :: items =>
      (readValue (.record name) item).bind fun value =>
        (readItems name items).map (value :: ·)
end

def valueIsEmpty : Value ρ σ → Bool
  | .absent => true
  | .leaf scalar => format.isEmpty scalar
  | .record _ _ => false
  | .list items => items.isEmpty

def skips (name : ρ) (key : String) : Bool :=
  (format.fields name).any fun field =>
    field.name == key && field.skippedIfEmpty

mutual
def writeValue : Value ρ σ → Json
  | .absent => null
  | .leaf scalar => format.write scalar
  | .record name fields => obj (writeFields name fields)
  | .list items => arr (writeItems items)

def writeFields (name : ρ) :
    List (String × Value ρ σ) → List (String × Json)
  | [] => []
  | (key, value) :: fields =>
      if format.skips name key && format.valueIsEmpty value then
        writeFields name fields
      else
        (key, writeValue value) :: writeFields name fields

def writeItems : List (Value ρ σ) → List Json
  | [] => []
  | value :: items => writeValue value :: writeItems items
end

mutual
/-- What is written back as it was read: records with known members only,
lists that are not skipped for being empty, and leaves that keep their
value. -/
def Lossless : Kind ρ ℓ → Json → Prop
  | .leaf leaf, json => format.Kept leaf json
  | .record name, obj members => LosslessMembers (format.fields name) members
  | .records name, arr items => LosslessItems name items
  | _, _ => False

def LosslessMembers (fields : List (Field ρ ℓ)) :
    List (String × Json) → Prop
  | [] => True
  | (key, json) :: members =>
      (json ≠ null → ∃ field ∈ fields, field.name = key ∧
        (field.skippedIfEmpty = true → json ≠ arr []) ∧
        Lossless field.kind json) ∧
      LosslessMembers fields members

def LosslessItems (name : ρ) : List Json → Prop
  | [] => True
  | item :: items => Lossless (.record name) item ∧ LosslessItems name items
end

end Format

theorem mem_iff_lookup {α : Type} {pairs : List (String × α)}
    (distinct : (pairs.map Prod.fst).Nodup) {key : String} {value : α} :
    (key, value) ∈ pairs ↔ pairs.lookup key = some value := by
  induction pairs with
  | nil => simp
  | cons pair pairs hypothesis =>
      obtain ⟨name, first⟩ := pair
      rw [List.map_cons, List.nodup_cons] at distinct
      by_cases same : key = name
      · subst same
        have later : (key, value) ∉ pairs := by
          intro listed
          exact distinct.1 (List.mem_map.mpr ⟨_, listed, rfl⟩)
        simp [later, eq_comm]
      · have other : (key == name) = false := beq_eq_false_iff_ne.mpr same
        simp [List.lookup_cons, other, same, hypothesis distinct.2]

theorem exists_of_mapM {α β : Type} {read : α → Option β} {items : List α}
    {values : List β} (all : items.mapM read = some values) {item : α}
    (listed : item ∈ items) : ∃ value ∈ values, read item = some value := by
  induction items generalizing values with
  | nil => cases listed
  | cons head items hypothesis =>
      simp only [List.mapM_cons, Option.bind_eq_bind, Option.bind_eq_some_iff,
        Option.pure_def, Option.some.injEq] at all
      obtain ⟨first, this, rest, tail, rfl⟩ := all
      rcases List.mem_cons.mp listed with rfl | listed
      · exact ⟨first, List.mem_cons_self, this⟩
      · obtain ⟨value, among, read⟩ := hypothesis tail listed
        exact ⟨value, List.mem_cons_of_mem first among, read⟩

theorem map_of_mapM {α β γ : Type} {read : α → Option β} {name : α → γ}
    {written : β → γ}
    (same : ∀ item value, read item = some value → written value = name item)
    {items : List α} {values : List β}
    (all : items.mapM read = some values) :
    values.map written = items.map name := by
  induction items generalizing values with
  | nil =>
      cases all
      rfl
  | cons item items hypothesis =>
      simp only [List.mapM_cons, Option.bind_eq_bind, Option.bind_eq_some_iff,
        Option.pure_def, Option.some.injEq] at all
      obtain ⟨first, head, rest, tail, rfl⟩ := all
      rw [List.map_cons, List.map_cons, hypothesis tail, same item first head]

theorem forall₂_map_of_mapM {α β γ : Type} {read : α → Option β}
    {written : β → γ} {equal : α → γ → Prop} {kept : α → Prop}
    {items : List α} {values : List β}
    (all : items.mapM read = some values)
    (each : ∀ item ∈ items, ∀ value, read item = some value →
      (equal item (written value) ↔ kept item)) :
    List.Forall₂ equal items (values.map written) ↔
      ∀ item ∈ items, kept item := by
  induction items generalizing values with
  | nil =>
      cases all
      simp
  | cons item items hypothesis =>
      simp only [List.mapM_cons, Option.bind_eq_bind, Option.bind_eq_some_iff,
        Option.pure_def, Option.some.injEq] at all
      obtain ⟨first, head, rest, tail, rfl⟩ := all
      rw [List.map_cons, List.forall₂_cons, List.forall_mem_cons,
        each item List.mem_cons_self first head, hypothesis tail]
      intro later listed
      exact each later (List.mem_cons_of_mem item listed)

namespace Value

theorem lookup_modifyFields_self (key : String)
    (change : Value ρ σ → Value ρ σ)
    (fields : List (String × Value ρ σ)) :
    (modifyFields key change fields).lookup key =
      (fields.lookup key).map change := by
  unfold modifyFields
  induction fields with
  | nil => rfl
  | cons field fields hypothesis =>
      obtain ⟨name, first⟩ := field
      rw [List.map_cons]
      by_cases same : name = key
      · simp [same]
      · have passed : (key == name) = false :=
          beq_eq_false_iff_ne.mpr (Ne.symm same)
        rw [if_neg same, List.lookup_cons, List.lookup_cons, passed,
          hypothesis]

theorem lookup_modifyFields_of_ne {key other : String} (unequal : other ≠ key)
    (change : Value ρ σ → Value ρ σ)
    (fields : List (String × Value ρ σ)) :
    (modifyFields key change fields).lookup other = fields.lookup other := by
  unfold modifyFields
  induction fields with
  | nil => rfl
  | cons field fields hypothesis =>
      obtain ⟨name, first⟩ := field
      rw [List.map_cons]
      by_cases same : name = key
      · subst same
        have passed : (other == name) = false :=
          beq_eq_false_iff_ne.mpr unequal
        rw [if_pos rfl, List.lookup_cons, List.lookup_cons, passed, hypothesis]
      · rw [if_neg same, List.lookup_cons, List.lookup_cons, hypothesis]

theorem get_of_lookup {name : ρ} {fields : List (String × Value ρ σ)}
    {key : String} {value : Value ρ σ}
    (lookup : fields.lookup key = some value) :
    Value.get key (.record name fields) = value := by
  rw [get, lookup, Option.getD_some]

theorem get_modify_self {key : String} {change : Value ρ σ → Value ρ σ}
    (still : change .absent = .absent) (value : Value ρ σ) :
    (value.modify key change).get key = change (value.get key) := by
  cases value with
  | record name fields =>
      simp only [modify, get, lookup_modifyFields_self]
      cases fields.lookup key with
      | none => exact still.symm
      | some found => rfl
  | _ => exact still.symm

theorem get_modify_of_ne {key other : String} (unequal : other ≠ key)
    (change : Value ρ σ → Value ρ σ) (value : Value ρ σ) :
    (value.modify key change).get other = value.get other := by
  cases value with
  | record name fields =>
      simp only [modify, get, lookup_modifyFields_of_ne unequal]
  | _ => rfl

theorem modifyFields_of_unchanged {key : String}
    {change : Value ρ σ → Value ρ σ} {fields : List (String × Value ρ σ)}
    (unchanged : ∀ value, (key, value) ∈ fields → change value = value) :
    modifyFields key change fields = fields := by
  unfold modifyFields
  rw [List.map_congr_left (g := id), List.map_id]
  rintro ⟨name, value⟩ listed
  split
  next same =>
    cases same
    rw [unchanged value listed]
    rfl
  next => rfl

end Value

namespace Format

variable {format : Format ρ ℓ σ}

def readField (format : Format ρ ℓ σ) (field : Field ρ ℓ) (json : Json) :
    Option (Value ρ σ) :=
  if field.optional && json.isNull then some .absent
  else format.readValue field.kind json

theorem readField_of_ne_null {field : Field ρ ℓ} {json : Json}
    (filled : json ≠ null) :
    format.readField field json = format.readValue field.kind json := by
  have present : json.isNull = false := by
    rwa [← Bool.not_eq_true, isNull_iff]
  simp [readField, present]

theorem find?_name {fields : List (Field ρ ℓ)}
    (distinct : (fields.map Field.name).Nodup) {field : Field ρ ℓ}
    (listed : field ∈ fields) :
    fields.find? (fun other => other.name == field.name) = some field := by
  induction fields with
  | nil => cases listed
  | cons first fields hypothesis =>
      rw [List.map_cons, List.nodup_cons] at distinct
      rcases List.mem_cons.mp listed with rfl | listed
      · simp
      · have other : first.name ≠ field.name := fun same =>
          distinct.1 (same ▸ List.mem_map_of_mem listed)
        simp [other, hypothesis distinct.2 listed]

/-- What a record read from an object holds: for every member that is known
its value, and for every field without a member what stands in for it. -/
structure Reads (format : Format ρ ℓ σ) (name : ρ)
    (members : List (String × Json)) (fields : List (String × Value ρ σ)) :
    Prop where
  names : fields.map Prod.fst = (format.fields name).map Field.name
  known : ∀ field ∈ format.fields name, ∀ json,
    (field.name, json) ∈ members → ∃ value,
      format.readField field json = some value ∧
        fields.lookup field.name = some value
  missing : ∀ field ∈ format.fields name,
    (∀ json, (field.name, json) ∉ members) →
      ∃ value, field.missing = some value ∧
        fields.lookup field.name = some value

theorem readMembers_known {fields : List (Field ρ ℓ)}
    (distinct : (fields.map Field.name).Nodup)
    {members : List (String × Json)} {found : List (String × Value ρ σ)}
    (read : format.readMembers fields members = some found)
    {field : Field ρ ℓ} (listed : field ∈ fields) {json : Json}
    (member : (field.name, json) ∈ members) :
    ∃ value, format.readField field json = some value ∧
      (field.name, value) ∈ found := by
  induction members generalizing found with
  | nil => cases member
  | cons first members hypothesis =>
      obtain ⟨key, head⟩ := first
      rw [readMembers] at read
      rcases List.mem_cons.mp member with equal | member
      · cases equal
        rw [find?_name distinct listed] at read
        obtain ⟨value, this, rest⟩ := Option.bind_eq_some_iff.mp read
        obtain ⟨later, -, rfl⟩ := Option.map_eq_some_iff.mp rest
        exact ⟨value, this, List.mem_cons_self⟩
      · split at read
        · exact hypothesis read member
        · obtain ⟨_, -, rest⟩ := Option.bind_eq_some_iff.mp read
          obtain ⟨later, tail, rfl⟩ := Option.map_eq_some_iff.mp rest
          obtain ⟨value, this, among⟩ := hypothesis tail member
          exact ⟨value, this, List.mem_cons_of_mem _ among⟩

theorem exists_member_of_readMembers {fields : List (Field ρ ℓ)}
    {members : List (String × Json)} {found : List (String × Value ρ σ)}
    (read : format.readMembers fields members = some found)
    {key : String} {value : Value ρ σ} (listed : (key, value) ∈ found) :
    ∃ json, (key, json) ∈ members := by
  induction members generalizing found with
  | nil =>
      cases read
      cases listed
  | cons first members hypothesis =>
      obtain ⟨name, head⟩ := first
      rw [readMembers] at read
      split at read
      · obtain ⟨json, member⟩ := hypothesis read listed
        exact ⟨json, List.mem_cons_of_mem _ member⟩
      · obtain ⟨_, -, rest⟩ := Option.bind_eq_some_iff.mp read
        obtain ⟨later, tail, rfl⟩ := Option.map_eq_some_iff.mp rest
        rcases List.mem_cons.mp listed with equal | listed
        · cases equal
          exact ⟨head, List.mem_cons_self⟩
        · obtain ⟨json, member⟩ := hypothesis tail listed
          exact ⟨json, List.mem_cons_of_mem _ member⟩

theorem reads_of_readValue {name : ρ} {members : List (String × Json)}
    {value : Value ρ σ}
    (read : format.readValue (.record name) (obj members) = some value) :
    ∃ fields, value = .record name fields ∧
      format.Reads name members fields := by
  rw [readValue] at read
  obtain ⟨found, known, rest⟩ := Option.bind_eq_some_iff.mp read
  split at rest
  next distinct =>
    obtain ⟨fields, assembled, rfl⟩ := Option.map_eq_some_iff.mp rest
    have names : fields.map Prod.fst =
        (format.fields name).map Field.name := by
      apply map_of_mapM ?_ assembled
      intro field pair made
      obtain ⟨_, -, rfl⟩ := Option.map_eq_some_iff.mp made
      rfl
    have held {field : Field ρ ℓ} (listed : field ∈ format.fields name) :
        ∃ value, (found.lookup field.name).or field.missing = some value ∧
          fields.lookup field.name = some value := by
      obtain ⟨pair, among, made⟩ := exists_of_mapM assembled listed
      obtain ⟨value, this, rfl⟩ := Option.map_eq_some_iff.mp made
      refine ⟨value, this, ?_⟩
      exact (mem_iff_lookup (names ▸ format.distinct name)).mp among
    refine ⟨fields, rfl, names, ?_, ?_⟩
    · intro field listed json member
      obtain ⟨value, this, among⟩ :=
        readMembers_known (format.distinct name) known listed member
      obtain ⟨other, given, lookup⟩ := held listed
      rw [(mem_iff_lookup distinct).mp among, Option.some_or] at given
      cases given
      exact ⟨value, this, lookup⟩
    · intro field listed none
      have unknown : found.lookup field.name = Option.none := by
        apply List.lookup_eq_none_iff.mpr
        rintro ⟨key, value⟩ among
        rw [bne_iff_ne]
        rintro rfl
        obtain ⟨json, member⟩ := exists_member_of_readMembers known among
        exact none json member
      obtain ⟨value, given, lookup⟩ := held listed
      rw [unknown, Option.none_or] at given
      exact ⟨value, given, lookup⟩
  next => cases rest

theorem mem_writeFields {name : ρ} {fields : List (String × Value ρ σ)}
    {key : String} {json : Json} :
    (key, json) ∈ format.writeFields name fields ↔
      ∃ value, (key, value) ∈ fields ∧
        (format.skips name key && format.valueIsEmpty value) = false ∧
        json = format.writeValue value := by
  induction fields with
  | nil => simp [writeFields]
  | cons field fields hypothesis =>
      obtain ⟨first, head⟩ := field
      rw [writeFields]
      split
      next skipped =>
        rw [hypothesis]
        constructor
        · rintro ⟨value, listed, rest⟩
          exact ⟨value, List.mem_cons_of_mem _ listed, rest⟩
        · rintro ⟨value, listed, shown, rfl⟩
          rcases List.mem_cons.mp listed with equal | listed
          · cases equal
            exact absurd skipped (by simp [shown])
          · exact ⟨value, listed, shown, rfl⟩
      next shown =>
        rw [List.mem_cons, hypothesis]
        constructor
        · rintro (equal | ⟨value, listed, rest⟩)
          · cases equal
            exact ⟨head, List.mem_cons_self, by simpa using shown, rfl⟩
          · exact ⟨value, List.mem_cons_of_mem _ listed, rest⟩
        · rintro ⟨value, listed, rest⟩
          rcases List.mem_cons.mp listed with equal | listed
          · cases equal
            exact .inl (by rw [rest.2])
          · exact .inr ⟨value, listed, rest⟩

theorem skips_eq {name : ρ} {field : Field ρ ℓ}
    (listed : field ∈ format.fields name) :
    format.skips name field.name = field.skippedIfEmpty := by
  unfold skips
  cases skipped : field.skippedIfEmpty with
  | true =>
      apply List.any_eq_true.mpr
      exact ⟨field, listed, by simp [skipped]⟩
  | false =>
      rw [List.any_eq_false]
      intro other among
      by_cases same : other.name = field.name
      · have equal := find?_name (format.distinct name) listed
        rw [← same, find?_name (format.distinct name) among] at equal
        cases equal
        simp [skipped]
      · simp [same]

theorem exists_fields_of_readValue {name : ρ} {json : Json}
    {value : Value ρ σ}
    (read : format.readValue (.record name) json = some value) :
    ∃ fields, value = .record name fields := by
  cases json with
  | obj members =>
      obtain ⟨fields, equal, -⟩ := reads_of_readValue read
      exact ⟨fields, equal⟩
  | arr items =>
      rw [readValue] at read
      obtain ⟨fields, -, rfl⟩ := Option.map_eq_some_iff.mp read
      exact ⟨fields, rfl⟩
  | _ => simp [readValue] at read

theorem readItems_eq (name : ρ) (items : List Json) :
    format.readItems name items =
      items.mapM (format.readValue (.record name)) := by
  induction items with
  | nil => rfl
  | cons item items hypothesis =>
      rw [readItems, hypothesis, List.mapM_cons]
      simp [Option.map_eq_bind]

theorem writeItems_eq (items : List (Value ρ σ)) :
    format.writeItems items = items.map format.writeValue := by
  induction items with
  | nil => rfl
  | cons item items hypothesis => rw [writeItems, hypothesis, List.map_cons]

theorem losslessItems_iff {name : ρ} {items : List Json} :
    format.LosslessItems name items ↔
      ∀ item ∈ items, format.Lossless (.record name) item := by
  induction items with
  | nil => simp [LosslessItems]
  | cons item items hypothesis => simp [LosslessItems, hypothesis]

/-- One member and the field that keeps it. -/
def LosslessMember (format : Format ρ ℓ σ) (name : ρ) (key : String)
    (json : Json) : Prop :=
  ∃ field ∈ format.fields name, field.name = key ∧
    (field.skippedIfEmpty = true → json ≠ arr []) ∧
    format.Lossless field.kind json

theorem losslessMembers_iff {name : ρ} {members : List (String × Json)} :
    format.LosslessMembers (format.fields name) members ↔
      ∀ key json, (key, json) ∈ members → json ≠ null →
        format.LosslessMember name key json := by
  induction members with
  | nil => simp [LosslessMembers]
  | cons member members hypothesis =>
      obtain ⟨first, head⟩ := member
      rw [LosslessMembers, hypothesis]
      constructor
      · rintro ⟨this, rest⟩ key json listed
        rcases List.mem_cons.mp listed with equal | listed
        · cases equal
          exact this
        · exact rest key json listed
      · intro every
        refine ⟨every first head List.mem_cons_self, ?_⟩
        intro key json listed
        exact every key json (List.mem_cons_of_mem _ listed)

/-- The document written for a record has the member, with an equal value. -/
def Shows (format : Format ρ ℓ σ) (name : ρ)
    (fields : List (String × Value ρ σ)) (key : String) (json : Json) : Prop :=
  ∃ value, (key, value) ∈ fields ∧
    (format.skips name key && format.valueIsEmpty value) = false ∧
    Carried json (format.writeValue value)

theorem carried_writeValue_record_iff {name : ρ}
    {fields : List (String × Value ρ σ)} {members : List (String × Json)} :
    Carried (obj members) (format.writeValue (.record name fields)) ↔
      ∀ key json, (key, json) ∈ members → json ≠ null →
        format.Shows name fields key json := by
  rw [writeValue, Carried, carriedMembers_iff]
  unfold Shows
  simp only [mem_writeFields]
  constructor
  · intro every key json listed filled
    obtain ⟨_, ⟨value, held, shown, rfl⟩, carried⟩ :=
      every key json listed filled
    exact ⟨value, held, shown, carried⟩
  · intro every key json listed filled
    obtain ⟨value, held, shown, carried⟩ := every key json listed filled
    exact ⟨_, ⟨value, held, shown, rfl⟩, carried⟩

/-- Whether a value is empty shows in every document that it carries. -/
theorem valueIsEmpty_iff {json : Json} {value : Value ρ σ}
    (filled : json ≠ null)
    (carried : Carried json (format.writeValue value)) :
    format.valueIsEmpty value = true ↔ json = arr [] := by
  cases value with
  | absent =>
      rw [writeValue] at carried
      exact absurd carried (not_carried_null filled)
  | leaf scalar => exact format.isEmpty_iff carried
  | record name fields =>
      rw [writeValue] at carried
      cases json <;> simp [Carried, valueIsEmpty] at carried ⊢
  | list items =>
      rw [writeValue, writeItems_eq] at carried
      cases json with
      | arr others =>
          have lengths := (carriedItems_iff.mp carried).length_eq
          simp only [valueIsEmpty, List.isEmpty_iff, arr.injEq]
          grind
      | _ => simp [Carried] at carried

theorem shows_iff {name : ρ} {members : List (String × Json)}
    {fields : List (String × Value ρ σ)}
    (reads : format.Reads name members fields) {key : String} {json : Json}
    (member : (key, json) ∈ members) (filled : json ≠ null)
    (hypothesis : ∀ kind value, format.readValue kind json = some value →
      (Carried json (format.writeValue value) ↔ format.Lossless kind json)) :
    format.Shows name fields key json ↔
      format.LosslessMember name key json := by
  have distinct : (fields.map Prod.fst).Nodup :=
    reads.names ▸ format.distinct name
  constructor
  · rintro ⟨value, held, shown, carried⟩
    have named : key ∈ (format.fields name).map Field.name :=
      reads.names ▸ List.mem_map_of_mem (f := Prod.fst) held
    obtain ⟨field, listed, rfl⟩ := List.mem_map.mp named
    obtain ⟨other, read, lookup⟩ := reads.known field listed json member
    rw [(mem_iff_lookup distinct).mp held] at lookup
    cases lookup
    rw [readField_of_ne_null filled] at read
    refine ⟨field, listed, rfl, ?_, (hypothesis _ _ read).mp carried⟩
    intro skipped empty
    rw [skips_eq listed, skipped, Bool.true_and] at shown
    rw [(valueIsEmpty_iff filled carried).mpr empty] at shown
    cases shown
  · rintro ⟨field, listed, rfl, shown, lossless⟩
    obtain ⟨value, read, lookup⟩ := reads.known field listed json member
    rw [readField_of_ne_null filled] at read
    have carried := (hypothesis _ _ read).mpr lossless
    refine ⟨value, (mem_iff_lookup distinct).mpr lookup, ?_, carried⟩
    rw [skips_eq listed, Bool.and_eq_false_imp]
    intro skipped
    rw [← Bool.not_eq_true, valueIsEmpty_iff filled carried]
    exact shown skipped

/-- A value that was read is written back as it was exactly when nothing in
its document is lost. -/
theorem carried_writeValue_iff (kind : Kind ρ ℓ) {json : Json}
    (filled : json ≠ null) {value : Value ρ σ}
    (read : format.readValue kind json = some value) :
    Carried json (format.writeValue value) ↔ format.Lossless kind json := by
  have leaf {leaf : ℓ} {json : Json} (filled : json ≠ null)
      {value : Value ρ σ}
      (read : format.readValue (.leaf leaf) json = some value) :
      Carried json (format.writeValue value) ↔
        format.Lossless (.leaf leaf) json := by
    rw [readValue] at read
    obtain ⟨scalar?, given, rfl⟩ := Option.map_eq_some_iff.mp read
    rw [Lossless, format.kept_iff given filled]
    cases scalar? with
    | none => simpa [ofLeaf, writeValue] using not_carried_null filled
    | some scalar => simp [ofLeaf, writeValue]
  induction json using tree_induction generalizing kind value with
  | null => exact absurd rfl filled
  | bool _ | num _ | str _ =>
      cases kind with
      | leaf _ => exact leaf filled read
      | _ => simp [readValue] at read
  | arr items hypothesis =>
      cases kind with
      | leaf _ => exact leaf filled read
      | record name =>
          obtain ⟨fields, rfl⟩ := exists_fields_of_readValue read
          simp [writeValue, Carried, Lossless]
      | records name =>
          rw [readValue, readItems_eq] at read
          obtain ⟨values, each, rfl⟩ := Option.map_eq_some_iff.mp read
          rw [writeValue, writeItems_eq, Carried, carriedItems_iff, Lossless,
            losslessItems_iff]
          apply forall₂_map_of_mapM each
          intro item listed value read
          apply hypothesis item listed (.record name) ?_ read
          rintro rfl
          simp [readValue] at read
  | obj members hypothesis =>
      cases kind with
      | leaf _ => exact leaf filled read
      | record name =>
          obtain ⟨fields, rfl, reads⟩ := reads_of_readValue read
          rw [carried_writeValue_record_iff, Lossless, losslessMembers_iff]
          apply forall₄_congr
          intro key json member filled
          apply shows_iff reads member filled
          intro kind value read
          exact hypothesis (key, json) member kind filled read
      | records name => simp [readValue] at read

theorem shows_modify_of_ne {name : ρ} {fields : List (String × Value ρ σ)}
    {changed key : String} (other : key ≠ changed)
    (change : Value ρ σ → Value ρ σ) {json : Json} :
    format.Shows name (Value.modifyFields changed change fields) key json ↔
      format.Shows name fields key json := by
  have same (value : Value ρ σ) :
      (key, value) ∈ Value.modifyFields changed change fields ↔
        (key, value) ∈ fields := by
    unfold Value.modifyFields
    rw [List.mem_map]
    constructor
    · rintro ⟨field, listed, equal⟩
      split at equal
      · cases equal
        exact absurd rfl other
      · exact equal ▸ listed
    · intro listed
      exact ⟨_, listed, if_neg other⟩
  unfold Shows
  simp only [same]

theorem shows_modify_iff {name : ρ} {fields : List (String × Value ρ σ)}
    {key : String} (value : Value ρ σ)
    (held : ∀ other, (key, other) ∈ fields ↔ other = value)
    (change : Value ρ σ → Value ρ σ) {json : Json} :
    format.Shows name (Value.modifyFields key change fields) key json ↔
      (format.skips name key && format.valueIsEmpty (change value)) = false ∧
        Carried json (format.writeValue (change value)) := by
  have same (other : Value ρ σ) :
      (key, other) ∈ Value.modifyFields key change fields ↔
        other = change value := by
    unfold Value.modifyFields
    rw [List.mem_map]
    constructor
    · rintro ⟨⟨first, found⟩, listed, equal⟩
      split at equal
      next this =>
        cases this
        cases equal
        rw [(held found).mp listed]
      next this =>
        cases equal
        exact absurd rfl this
    · rintro rfl
      exact ⟨_, (held value).mpr rfl, if_pos rfl⟩
  unfold Shows
  simp only [same, exists_eq_left]

def arrayLength (members : List (String × Json)) (key : String) : Nat :=
  match members.lookup key with
  | some (arr items) => items.length
  | _ => 0

/-- A field of records holds a list, as long as the array it was read from. -/
theorem Reads.lookup_records {name : ρ} {members : List (String × Json)}
    {fields : List (String × Value ρ σ)}
    (reads : format.Reads name members fields) {field : Field ρ ℓ}
    (listed : field ∈ format.fields name) {inner : ρ}
    (kind : field.kind = .records inner) (strict : field.optional = false) :
    ∃ items, fields.lookup field.name = some (.list items) ∧
      items.length = arrayLength members field.name := by
  unfold arrayLength
  cases found : members.lookup field.name with
  | none =>
      have none (json : Json) : (field.name, json) ∉ members := by
        intro member
        have differs := List.lookup_eq_none_iff.mp found _ member
        simp at differs
      obtain ⟨value, missing, lookup⟩ := reads.missing field listed none
      unfold Field.missing Field.empty at missing
      rw [kind] at missing
      split at missing
      · cases missing
        exact ⟨[], lookup, rfl⟩
      · cases missing
  | some json =>
      obtain ⟨before, after, rfl, -⟩ := List.lookup_eq_some_iff.mp found
      obtain ⟨value, read, lookup⟩ := reads.known field listed json (by simp)
      rw [readField, strict, Bool.false_and, if_neg Bool.false_ne_true,
        kind] at read
      cases json with
      | arr items =>
          rw [readValue, readItems_eq] at read
          obtain ⟨values, all, rfl⟩ := Option.map_eq_some_iff.mp read
          refine ⟨values, lookup, ?_⟩
          have units := @map_of_mapM _ _ Unit _ (fun _ => ())
            (fun _ => ()) (fun _ _ _ => rfl) _ _ all
          simpa using congrArg List.length units
      | _ => simp [readValue] at read

end Format

end Replex.Data.Records
