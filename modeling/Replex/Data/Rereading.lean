import Replex.Data.Records

namespace Replex.Data.Records

open Json

/-! Values read back from what was written of them. -/

variable {ρ ℓ σ : Type}

theorem Value.tree_induction {motive : Value ρ σ → Prop}
    (absent : motive .absent) (leaf : ∀ scalar, motive (.leaf scalar))
    (record : ∀ name fields, (∀ field ∈ fields, motive field.2) →
      motive (.record name fields))
    (list : ∀ items, (∀ item ∈ items, motive item) → motive (.list items))
    (value : Value ρ σ) : motive value := by
  refine @Value.rec ρ σ motive (fun fields => ∀ field ∈ fields, motive field.2)
    (fun items => ∀ item ∈ items, motive item) (fun field => motive field.2)
    absent leaf record list ?_ ?_ ?_ ?_ ?_ value
  · intro field listed
    cases listed
  · intro head tail headHolds tailHolds field listed
    rcases List.mem_cons.mp listed with rfl | listed
    · exact headHolds
    · exact tailHolds field listed
  · intro item listed
    cases listed
  · intro head tail headHolds tailHolds item listed
    rcases List.mem_cons.mp listed with rfl | listed
    · exact headHolds
    · exact tailHolds item listed
  · intro key value holds
    exact holds

/-- A value stands somewhere in another. -/
inductive Value.Within (part : Value ρ σ) : Value ρ σ → Prop where
  | self : Within part part
  | field {name : ρ} {fields : List (String × Value ρ σ)}
      {field : String × Value ρ σ} (listed : field ∈ fields)
      (within : Within part field.2) : Within part (.record name fields)
  | item {items : List (Value ρ σ)} {item : Value ρ σ} (listed : item ∈ items)
      (within : Within part item) : Within part (.list items)

theorem mapM_map_eq_some_iff {α β : Type} {read : β → Option α} {write : α → β}
    {items : List α} :
    (items.map write).mapM read = some items ↔
      ∀ item ∈ items, read (write item) = some item := by
  induction items with
  | nil => simp
  | cons item items hypothesis =>
      rw [List.forall_mem_cons, ← hypothesis]
      simp only [List.map_cons, List.mapM_cons, Option.bind_eq_bind,
        Option.bind_eq_some_iff, Option.pure_def, Option.some.injEq]
      constructor
      · rintro ⟨first, head, rest, tail, equal⟩
        cases equal
        exact ⟨head, tail⟩
      · rintro ⟨head, tail⟩
        exact ⟨item, head, items, tail, rfl⟩

namespace Format

variable (format : Format ρ ℓ σ)

mutual
/-- What reading can give: every field in its place, with a value of its kind
or with what stands for a missing member. -/
def Fits : Kind ρ ℓ → Value ρ σ → Prop
  | .leaf leaf, .leaf scalar =>
      ∃ json, format.read leaf json = some (some scalar)
  | .record name, .record other fields =>
      other = name ∧ FitsFields (format.fields name) fields
  | .records name, .list items => FitsItems name items
  | _, _ => False

def FitsFields : List (Field ρ ℓ) → List (String × Value ρ σ) → Prop
  | [], [] => True
  | field :: table, (key, value) :: fields =>
      (key = field.name ∧
        (field.missing = some value ∨ Fits field.kind value)) ∧
      FitsFields table fields
  | _, _ => False

def FitsItems (name : ρ) : List (Value ρ σ) → Prop
  | [] => True
  | value :: items => Fits (.record name) value ∧ FitsItems name items
end

/-- A value that is not written, although the record cannot be read without
it. -/
def Vanishes (name : ρ) (key : String) (value : Value ρ σ) : Prop :=
  ∃ field ∈ format.fields name, field.name = key ∧
    (field.skippedIfEmpty && format.valueIsEmpty value) = true ∧
    field.missing ≠ some value

mutual
/-- Nothing vanishes, and every leaf is of those that are read back as they
were. -/
def Repeats (stable : σ → Prop) : Value ρ σ → Prop
  | .absent => True
  | .leaf scalar => stable scalar
  | .record name fields => RepeatsFields stable name fields
  | .list items => RepeatsItems stable items

def RepeatsFields (stable : σ → Prop) (name : ρ) :
    List (String × Value ρ σ) → Prop
  | [] => True
  | (key, value) :: fields =>
      (¬ format.Vanishes name key value ∧ Repeats stable value) ∧
        RepeatsFields stable name fields

def RepeatsItems (stable : σ → Prop) : List (Value ρ σ) → Prop
  | [] => True
  | value :: items => Repeats stable value ∧ RepeatsItems stable items
end

/-- Formats in which what stands for a missing member is written so that it is
read as missing, and in which leaves are read back by themselves. -/
structure Regular (stable : σ → Prop) : Prop where
  optional_empty : ∀ {name field}, field ∈ format.fields name →
    field.optional = true → field.empty = (.absent : Value ρ σ)
  gap : ∀ {name field leaf json}, field ∈ format.fields name →
    field.kind = .leaf leaf → format.read leaf json = some none →
      field.missing = some (.absent : Value ρ σ)
  shown_absent : ∀ {name field}, field ∈ format.fields name →
    field.missing = some (.absent : Value ρ σ) →
      field.skippedIfEmpty = false → field.optional = true
  write_ne_null : ∀ scalar, format.write scalar ≠ null
  stable_iff : ∀ {leaf json scalar},
    format.read leaf json = some (some scalar) →
      (format.read leaf (format.write scalar) = some (some scalar) ↔
        stable scalar)

variable {format}

theorem not_fits_absent {kind : Kind ρ ℓ} :
    ¬ format.Fits kind .absent := by
  cases kind <;> simp [Fits]

theorem fitsItems_iff {name : ρ} {items : List (Value ρ σ)} :
    format.FitsItems name items ↔
      ∀ item ∈ items, format.Fits (.record name) item := by
  induction items with
  | nil => simp [FitsItems]
  | cons item items hypothesis =>
      rw [FitsItems, hypothesis, List.forall_mem_cons]

theorem repeatsItems_iff {stable : σ → Prop} {items : List (Value ρ σ)} :
    format.RepeatsItems stable items ↔
      ∀ item ∈ items, format.Repeats stable item := by
  induction items with
  | nil => simp [RepeatsItems]
  | cons item items hypothesis =>
      rw [RepeatsItems, hypothesis, List.forall_mem_cons]

theorem repeatsFields_iff {stable : σ → Prop} {name : ρ}
    {fields : List (String × Value ρ σ)} :
    format.RepeatsFields stable name fields ↔
      ∀ field ∈ fields, ¬ format.Vanishes name field.1 field.2 ∧
        format.Repeats stable field.2 := by
  induction fields with
  | nil => simp [RepeatsFields]
  | cons field fields hypothesis =>
      obtain ⟨key, value⟩ := field
      rw [RepeatsFields, hypothesis, List.forall_mem_cons]

/-- That nothing vanishes, record by record. -/
theorem repeats_iff {stable : σ → Prop} {value : Value ρ σ} :
    format.Repeats stable value ↔
      (∀ scalar, (Value.leaf scalar).Within value → stable scalar) ∧
        ∀ name fields, (Value.record name fields).Within value →
          ∀ field ∈ fields, ¬ format.Vanishes name field.1 field.2 := by
  induction value using Value.tree_induction with
  | absent =>
      refine iff_of_true trivial ⟨?_, ?_⟩
      · rintro scalar ⟨⟩
      · rintro name fields ⟨⟩
  | leaf scalar =>
      rw [Repeats]
      refine ⟨fun holds => ⟨?_, ?_⟩, fun every => every.1 scalar .self⟩
      · rintro other ⟨⟩
        exact holds
      · rintro name fields ⟨⟩
  | record name fields hypothesis =>
      rw [Repeats, repeatsFields_iff]
      constructor
      · intro every
        have inside {field : String × Value ρ σ} (listed : field ∈ fields) :=
          (hypothesis field listed).mp (every field listed).2
        refine ⟨?_, ?_⟩
        · rintro scalar (_ | ⟨listed, within⟩)
          exact (inside listed).1 scalar within
        · rintro other parts (_ | ⟨listed, within⟩)
          · exact fun field listed => (every field listed).1
          · exact (inside listed).2 other parts within
      · rintro ⟨leaves, records⟩ field listed
        refine ⟨records name fields .self field listed,
          (hypothesis field listed).mpr ⟨?_, ?_⟩⟩
        · exact fun scalar within => leaves scalar (.field listed within)
        · exact fun other parts within =>
            records other parts (.field listed within)
  | list items hypothesis =>
      rw [Repeats, repeatsItems_iff]
      constructor
      · intro every
        have inside {item : Value ρ σ} (listed : item ∈ items) :=
          (hypothesis item listed).mp (every item listed)
        refine ⟨?_, ?_⟩
        · rintro scalar (_ | _ | ⟨listed, within⟩)
          exact (inside listed).1 scalar within
        · rintro other parts (_ | _ | ⟨listed, within⟩)
          exact (inside listed).2 other parts within
      · rintro ⟨leaves, records⟩ item listed
        refine (hypothesis item listed).mpr ⟨?_, ?_⟩
        · exact fun scalar within => leaves scalar (.item listed within)
        · exact fun other parts within =>
            records other parts (.item listed within)

theorem fitsFields_iff {table : List (Field ρ ℓ)}
    (distinct : (table.map Field.name).Nodup)
    {fields : List (String × Value ρ σ)} :
    format.FitsFields table fields ↔
      fields.map Prod.fst = table.map Field.name ∧
        ∀ field ∈ table, ∀ value, (field.name, value) ∈ fields →
          field.missing = some value ∨ format.Fits field.kind value := by
  induction table generalizing fields with
  | nil => cases fields <;> simp [FitsFields]
  | cons field table hypothesis =>
      rw [List.map_cons, List.nodup_cons] at distinct
      cases fields with
      | nil => simp [FitsFields]
      | cons pair fields =>
          obtain ⟨key, value⟩ := pair
          rw [FitsFields, hypothesis distinct.2]
          constructor
          · rintro ⟨⟨rfl, head⟩, names, rest⟩
            refine ⟨by rw [List.map_cons, List.map_cons, names], ?_⟩
            intro other listed held among
            rcases List.mem_cons.mp listed with rfl | listed
            · rcases List.mem_cons.mp among with equal | among
              · cases equal
                exact head
              · refine absurd ?_ distinct.1
                rw [← names]
                exact List.mem_map.mpr ⟨_, among, rfl⟩
            · rcases List.mem_cons.mp among with equal | among
              · refine absurd ?_ distinct.1
                rw [← (Prod.mk.inj equal).1]
                exact List.mem_map_of_mem listed
              · exact rest other listed held among
          · rintro ⟨names, every⟩
            rw [List.map_cons, List.map_cons, List.cons.injEq] at names
            obtain ⟨rfl, names⟩ := names
            refine ⟨⟨rfl, every field List.mem_cons_self value
              List.mem_cons_self⟩, names, ?_⟩
            intro other listed held among
            exact every other (List.mem_cons_of_mem _ listed) held
              (List.mem_cons_of_mem _ among)

theorem valueIsEmpty_of_missing {field : Field ρ ℓ} {value : Value ρ σ}
    (missing : field.missing = some value) :
    value = field.empty ∧ format.valueIsEmpty value = true := by
  unfold Field.missing at missing
  split at missing
  · cases missing
    refine ⟨rfl, ?_⟩
    unfold Field.empty
    split <;> rfl
  · cases missing

theorem not_within_empty {field : Field ρ ℓ} {name : ρ}
    {fields : List (String × Value ρ σ)} :
    ¬ (Value.record name fields).Within (field.empty : Value ρ σ) := by
  unfold Field.empty
  split
  · rintro (_ | _ | ⟨none, -⟩)
    cases none
  · rintro ⟨⟩

/-- A record in what fits has the fields of its name. -/
theorem fits_of_within {name : ρ} {fields : List (String × Value ρ σ)}
    {whole : Value ρ σ} (within : (Value.record name fields).Within whole)
    {kind : Kind ρ ℓ} (fits : format.Fits kind whole) :
    format.Fits (.record name) (.record name fields) := by
  induction within generalizing kind with
  | self =>
      cases kind with
      | record other =>
          obtain ⟨rfl, inner⟩ := fits
          exact ⟨rfl, inner⟩
      | _ => simp [Fits] at fits
  | @field other parts field listed within hypothesis =>
      cases kind with
      | record again =>
          obtain ⟨rfl, fits⟩ := fits
          obtain ⟨names, fits⟩ := (fitsFields_iff (format.distinct other)).mp
            fits
          have named : field.1 ∈ (format.fields other).map Field.name :=
            names ▸ List.mem_map_of_mem listed
          obtain ⟨place, among, same⟩ := List.mem_map.mp named
          rcases fits place among field.2 (same ▸ listed) with missing | fits
          · have plain :=
              (@valueIsEmpty_of_missing _ _ _ format _ _ missing).1
            rw [plain] at within
            exact absurd within not_within_empty
          · exact hypothesis fits
      | _ => simp [Fits] at fits
  | item listed within hypothesis =>
      cases kind with
      | records again =>
          rw [Fits, fitsItems_iff] at fits
          exact hypothesis (fits _ listed)
      | _ => simp [Fits] at fits

/-! One record. -/

/-- The field, read back. -/
def FieldRereads (format : Format ρ ℓ σ) (field : Field ρ ℓ)
    (value : Value ρ σ) : Prop :=
  if field.skippedIfEmpty && format.valueIsEmpty value then
    field.missing = some value
  else
    format.readField field (format.writeValue value) = some value

/-- The fields that are written. -/
def shownFields (format : Format ρ ℓ σ) (name : ρ)
    (fields : List (String × Value ρ σ)) : List (String × Value ρ σ) :=
  fields.filter fun field =>
    !(format.skips name field.1 && format.valueIsEmpty field.2)

theorem mem_shownFields {name : ρ} {field : Field ρ ℓ}
    (listed : field ∈ format.fields name)
    {fields : List (String × Value ρ σ)} {value : Value ρ σ} :
    (field.name, value) ∈ format.shownFields name fields ↔
      (field.name, value) ∈ fields ∧
        (field.skippedIfEmpty && format.valueIsEmpty value) = false := by
  rw [shownFields, List.mem_filter, skips_eq listed, Bool.not_eq_true']

theorem readMembers_writeFields {name : ρ}
    {fields : List (String × Value ρ σ)}
    (known : ∀ pair ∈ fields, ∃ field ∈ format.fields name,
      field.name = pair.1 ∧ format.FieldRereads field pair.2) :
    format.readMembers (format.fields name) (format.writeFields name fields) =
      some (format.shownFields name fields) := by
  induction fields with
  | nil => rfl
  | cons pair fields hypothesis =>
      obtain ⟨key, value⟩ := pair
      obtain ⟨⟨field, listed, rfl, rereads⟩, rest⟩ :=
        List.forall_mem_cons.mp known
      have tail := hypothesis rest
      have skips := skips_eq listed
      unfold FieldRereads at rereads
      rw [writeFields, shownFields, skips]
      cases hidden : field.skippedIfEmpty && format.valueIsEmpty value with
      | true =>
          rw [List.filter_cons_of_neg (by simp [skips, hidden])]
          exact tail
      | false =>
          rw [hidden] at rereads
          rw [List.filter_cons_of_pos (by simp [skips, hidden])]
          simp only [Bool.false_eq_true, if_false, readMembers,
            find?_name (format.distinct name) listed]
          rw [← readField, show format.readField field
            (format.writeValue value) = some value from rereads, tail]
          rfl

theorem assemble_eq_some {found : List (String × Value ρ σ)}
    {table : List (Field ρ ℓ)} {fields : List (String × Value ρ σ)}
    (names : fields.map Prod.fst = table.map Field.name)
    (every : ∀ field ∈ table, ∀ value, (field.name, value) ∈ fields →
      (found.lookup field.name).or field.missing = some value) :
    assemble table found = some fields := by
  induction table generalizing fields with
  | nil =>
      rw [List.map_nil, List.map_eq_nil_iff] at names
      rw [names]
      rfl
  | cons field table hypothesis =>
      cases fields with
      | nil => cases names
      | cons pair fields =>
          obtain ⟨key, value⟩ := pair
          rw [List.map_cons, List.map_cons, List.cons.injEq] at names
          obtain ⟨rfl, names⟩ := names
          have head := every field List.mem_cons_self value
            List.mem_cons_self
          have tail := hypothesis names fun other listed held among =>
            every other (List.mem_cons_of_mem _ listed) held
              (List.mem_cons_of_mem _ among)
          unfold assemble at tail ⊢
          rw [List.mapM_cons, head, tail]
          rfl

/-- A record is read back exactly when every field is. -/
theorem readValue_writeValue_record_iff {name : ρ}
    {fields : List (String × Value ρ σ)}
    (names : fields.map Prod.fst = (format.fields name).map Field.name) :
    format.readValue (.record name)
        (format.writeValue (.record name fields)) =
          some (.record name fields) ↔
      ∀ field ∈ format.fields name, ∀ value,
        (field.name, value) ∈ fields → format.FieldRereads field value := by
  have distinct : (fields.map Prod.fst).Nodup := names ▸ format.distinct name
  have only {key : String} {value other : Value ρ σ}
      (this : (key, value) ∈ fields) (that : (key, other) ∈ fields) :
      value = other := by
    have first := (mem_iff_lookup distinct).mp this
    rw [(mem_iff_lookup distinct).mp that] at first
    exact (Option.some.inj first).symm
  rw [writeValue]
  constructor
  · intro read field listed value among
    obtain ⟨others, equal, reads⟩ := reads_of_readValue read
    cases equal
    have lookup := (mem_iff_lookup distinct).mp among
    unfold FieldRereads
    split
    next hidden =>
      obtain ⟨held, missing, found⟩ := reads.missing field listed (by
        intro json member
        obtain ⟨other, there, shown, -⟩ := mem_writeFields.mp member
        rw [only there among, skips_eq listed, hidden] at shown
        cases shown)
      rw [missing, ← found, lookup]
    next shown =>
      have member : (field.name, format.writeValue value) ∈
          format.writeFields name fields := by
        apply mem_writeFields.mpr
        refine ⟨value, among, ?_, rfl⟩
        rw [skips_eq listed]
        simpa using shown
      obtain ⟨held, read, found⟩ := reads.known field listed _ member
      rw [read, ← found, lookup]
  · intro every
    have known : ∀ pair ∈ fields, ∃ field ∈ format.fields name,
        field.name = pair.1 ∧ format.FieldRereads field pair.2 := by
      intro pair among
      have listed : pair.1 ∈ (format.fields name).map Field.name :=
        names ▸ List.mem_map_of_mem among
      obtain ⟨field, listed, same⟩ := List.mem_map.mp listed
      exact ⟨field, listed, same, every field listed pair.2 (same ▸ among)⟩
    have shown : ((format.shownFields name fields).map Prod.fst).Nodup :=
      distinct.sublist (List.filter_sublist.map _)
    rw [readValue, readMembers_writeFields known, Option.bind_some,
      if_pos shown, assemble_eq_some names, Option.map_some]
    intro field listed value among
    have rereads := every field listed value among
    unfold FieldRereads at rereads
    cases hidden : field.skippedIfEmpty && format.valueIsEmpty value with
    | true =>
        rw [hidden, if_pos rfl] at rereads
        have unknown : (format.shownFields name fields).lookup field.name =
            none := by
          apply List.lookup_eq_none_iff.mpr
          rintro ⟨key, other⟩ there
          rw [bne_iff_ne]
          rintro rfl
          obtain ⟨there, visible⟩ := (mem_shownFields listed).mp there
          rw [only there among, hidden] at visible
          cases visible
        rw [unknown, Option.none_or, rereads]
    | false =>
        have there := (mem_shownFields listed).mpr ⟨among, hidden⟩
        rw [(mem_iff_lookup shown).mp there, Option.some_or]

/-! Whole values. -/

variable {stable : σ → Prop}

theorem fieldRereads_iff (regular : format.Regular stable) {name : ρ}
    {field : Field ρ ℓ} (listed : field ∈ format.fields name)
    {value : Value ρ σ}
    (fits : field.missing = some value ∨ format.Fits field.kind value)
    (hypothesis : ∀ kind, format.Fits kind value →
      (format.readValue kind (format.writeValue value) = some value ↔
        format.Repeats stable value)) :
    format.FieldRereads field value ↔
      ¬ format.Vanishes name field.name value ∧
        format.Repeats stable value := by
  have vanishes : format.Vanishes name field.name value ↔
      (field.skippedIfEmpty && format.valueIsEmpty value) = true ∧
        field.missing ≠ some value := by
    constructor
    · rintro ⟨other, among, same, rest⟩
      have equal := find?_name (format.distinct name) listed
      rw [← same, find?_name (format.distinct name) among] at equal
      cases equal
      exact rest
    · exact fun rest => ⟨field, listed, rfl, rest⟩
  have plain (missing : field.missing = some value) :
      format.Repeats stable value := by
    rw [(@valueIsEmpty_of_missing _ _ _ format _ _ missing).1]
    unfold Field.empty
    split <;> trivial
  unfold FieldRereads
  rw [vanishes]
  cases hidden : field.skippedIfEmpty && format.valueIsEmpty value with
  | true =>
      simp only [if_true, true_and, ne_eq, Classical.not_not]
      exact ⟨fun missing => ⟨missing, plain missing⟩, And.left⟩
  | false =>
      simp only [Bool.false_eq_true, if_false, false_and, not_false_eq_true,
        true_and]
      rcases fits with missing | fits
      · refine iff_of_true ?_ (plain missing)
        obtain ⟨same, empty⟩ :=
          @valueIsEmpty_of_missing _ _ _ format _ _ missing
        have unskipped : field.skippedIfEmpty = false := by
          rwa [empty, Bool.and_true] at hidden
        cases kind : field.kind with
        | records element =>
            have list : value = .list [] := by rw [same, Field.empty, kind]
            rw [list, readField_of_ne_null (by simp [writeValue]), kind]
            rfl
        | _ =>
            have absent : value = .absent := by rw [same, Field.empty, kind]
            have optional := regular.shown_absent listed
              (absent ▸ missing) unskipped
            rw [absent, readField, optional]
            rfl
      · rw [readField_of_ne_null]
        · exact hypothesis field.kind fits
        · cases value with
          | absent => exact absurd fits not_fits_absent
          | leaf scalar => exact regular.write_ne_null scalar
          | _ => simp [writeValue]

/-- What fits its kind is read back from what was written exactly when nothing
vanishes and its leaves are stable. -/
theorem readValue_writeValue_iff (regular : format.Regular stable)
    {value : Value ρ σ} (kind : Kind ρ ℓ) (fits : format.Fits kind value) :
    format.readValue kind (format.writeValue value) = some value ↔
      format.Repeats stable value := by
  induction value using Value.tree_induction generalizing kind with
  | absent => exact absurd fits not_fits_absent
  | leaf scalar =>
      cases kind with
      | leaf leaf =>
          obtain ⟨json, read⟩ := fits
          rw [writeValue, readValue, Repeats, ← regular.stable_iff read]
          cases format.read leaf (format.write scalar) with
          | none => simp
          | some again => cases again <;> simp [ofLeaf]
      | _ => simp [Fits] at fits
  | list items hypothesis =>
      cases kind with
      | records name =>
          rw [Fits, fitsItems_iff] at fits
          rw [writeValue, readValue, Repeats, repeatsItems_iff,
            writeItems_eq, readItems_eq, Option.map_eq_some_iff]
          simp only [Value.list.injEq, exists_eq_right,
            mapM_map_eq_some_iff]
          exact forall₂_congr fun item listed =>
            hypothesis item listed (.record name) (fits item listed)
      | _ => simp [Fits] at fits
  | record other fields hypothesis =>
      cases kind with
      | record name =>
          obtain ⟨rfl, fits⟩ := fits
          obtain ⟨names, fits⟩ :=
            (fitsFields_iff (format.distinct other)).mp fits
          rw [readValue_writeValue_record_iff names, Repeats,
            repeatsFields_iff]
          have each {field : Field ρ ℓ} (listed : field ∈ format.fields other)
              {value : Value ρ σ} (among : (field.name, value) ∈ fields) :=
            fieldRereads_iff regular listed (fits field listed value among)
              (hypothesis _ among)
          constructor
          · rintro every ⟨key, value⟩ among
            have named : key ∈ (format.fields other).map Field.name :=
              names ▸ List.mem_map_of_mem among
            obtain ⟨field, listed, rfl⟩ := List.mem_map.mp named
            exact (each listed among).mp (every field listed value among)
          · intro every field listed value among
            exact (each listed among).mpr (every _ among)
      | _ => simp [Fits] at fits

/-! What reading gives fits. -/

theorem exists_of_mem_mapM {α β : Type} {read : α → Option β}
    {items : List α} {values : List β} (all : items.mapM read = some values)
    {value : β} (listed : value ∈ values) :
    ∃ item ∈ items, read item = some value := by
  induction items generalizing values with
  | nil =>
      cases all
      cases listed
  | cons item items hypothesis =>
      simp only [List.mapM_cons, Option.bind_eq_bind, Option.bind_eq_some_iff,
        Option.pure_def, Option.some.injEq] at all
      obtain ⟨first, head, rest, tail, rfl⟩ := all
      rcases List.mem_cons.mp listed with rfl | listed
      · exact ⟨item, List.mem_cons_self, head⟩
      · obtain ⟨other, among, read⟩ := hypothesis tail listed
        exact ⟨other, List.mem_cons_of_mem item among, read⟩

theorem leafFits {leaf : ℓ} {json : Json} {value : Value ρ σ}
    (read : format.readValue (.leaf leaf) json = some value) :
    format.Fits (.leaf leaf) value ∨
      ∃ other, (.leaf leaf : Kind ρ ℓ) = .leaf other ∧ value = .absent ∧
        format.read other json = some none := by
  rw [readValue] at read
  obtain ⟨scalar?, given, rfl⟩ := Option.map_eq_some_iff.mp read
  cases scalar? with
  | none => exact .inr ⟨leaf, rfl, rfl, given⟩
  | some scalar => exact .inl ⟨json, given⟩

theorem fitsField_of_readField (regular : format.Regular stable) {name : ρ}
    {field : Field ρ ℓ} (listed : field ∈ format.fields name) {json : Json}
    {value : Value ρ σ} (read : format.readField field json = some value)
    (hypothesis : format.readValue field.kind json = some value →
      format.Fits field.kind value ∨ ∃ leaf, field.kind = .leaf leaf ∧
        value = .absent ∧ format.read leaf json = some none) :
    field.missing = some value ∨ format.Fits field.kind value := by
  unfold readField at read
  split at read
  next null =>
    cases read
    have optional : field.optional = true := by
      simp only [Bool.and_eq_true] at null
      exact null.1
    left
    rw [Field.missing, optional, Bool.true_or, if_pos rfl,
      regular.optional_empty listed optional]
  next filled =>
    rcases hypothesis read with fits | ⟨leaf, kind, rfl, gap⟩
    · exact .inr fits
    · exact .inl (regular.gap listed kind gap)

theorem fitsFields_of_readPlaces (regular : format.Regular stable) {name : ρ}
    {table : List (Field ρ ℓ)}
    (known : ∀ field ∈ table, field ∈ format.fields name)
    {items : List Json} {fields : List (String × Value ρ σ)}
    (read : format.readPlaces table items = some fields)
    (hypothesis : ∀ item ∈ items, ∀ kind value,
      format.readValue kind item = some value →
        format.Fits kind value ∨ ∃ leaf, kind = .leaf leaf ∧
          value = .absent ∧ format.read leaf item = some none) :
    format.FitsFields table fields := by
  induction items generalizing table fields with
  | nil =>
      rw [readPlaces] at read
      split at read
      next defaulted =>
        cases read
        clear known
        induction table with
        | nil => trivial
        | cons field table rest =>
            rw [List.all_cons, Bool.and_eq_true] at defaulted
            refine ⟨⟨rfl, .inl ?_⟩, rest defaulted.2⟩
            rw [Field.missing, defaulted.1, Bool.or_true, if_pos rfl]
      next => cases read
  | cons item items rest =>
      cases table with
      | nil => simp [readPlaces] at read
      | cons field table =>
          rw [readPlaces] at read
          obtain ⟨value, head, others⟩ := Option.bind_eq_some_iff.mp read
          obtain ⟨later, tail, rfl⟩ := Option.map_eq_some_iff.mp others
          refine ⟨⟨rfl, ?_⟩, ?_⟩
          · exact fitsField_of_readField regular
              (known field List.mem_cons_self) head
              (hypothesis item List.mem_cons_self field.kind value)
          · exact rest
              (fun other listed => known other
                (List.mem_cons_of_mem _ listed)) tail
              (fun other listed => hypothesis other
                (List.mem_cons_of_mem _ listed))

theorem fits_or_gap_of_readValue (regular : format.Regular stable)
    (json : Json) (kind : Kind ρ ℓ) (value : Value ρ σ)
    (read : format.readValue kind json = some value) :
    format.Fits kind value ∨ ∃ leaf, kind = .leaf leaf ∧ value = .absent ∧
      format.read leaf json = some none := by
  induction json using Json.tree_induction generalizing kind value with
  | arr items hypothesis =>
      cases kind with
      | leaf leaf => exact leafFits read
      | record name =>
          rw [readValue] at read
          obtain ⟨fields, places, rfl⟩ := Option.map_eq_some_iff.mp read
          exact .inl ⟨rfl, fitsFields_of_readPlaces regular
            (fun _ listed => listed) places hypothesis⟩
      | records name =>
          rw [readValue, readItems_eq] at read
          obtain ⟨values, all, rfl⟩ := Option.map_eq_some_iff.mp read
          left
          rw [Fits, fitsItems_iff]
          intro held among
          obtain ⟨item, listed, read⟩ := exists_of_mem_mapM all among
          rcases hypothesis item listed _ _ read with fits | ⟨_, kind, -⟩
          · exact fits
          · cases kind
  | obj members hypothesis =>
      cases kind with
      | leaf leaf => exact leafFits read
      | record name =>
          obtain ⟨fields, rfl, reads⟩ := reads_of_readValue read
          refine .inl ⟨rfl, (fitsFields_iff (format.distinct name)).mpr
            ⟨reads.names, ?_⟩⟩
          intro field listed held among
          have distinct : (fields.map Prod.fst).Nodup :=
            reads.names ▸ format.distinct name
          have lookup := (mem_iff_lookup distinct).mp among
          by_cases present : ∃ json, (field.name, json) ∈ members
          · obtain ⟨json, member⟩ := present
            obtain ⟨other, read, found⟩ :=
              reads.known field listed json member
            rw [lookup] at found
            cases found
            exact fitsField_of_readField regular listed read
              (hypothesis _ member field.kind held)
          · obtain ⟨other, missing, found⟩ := reads.missing field listed
              fun json member => present ⟨json, member⟩
            rw [lookup] at found
            cases found
            exact .inl missing
      | records name => simp [readValue] at read
  | _ =>
      cases kind with
      | leaf leaf => exact leafFits read
      | _ => simp [readValue] at read

theorem fits_of_readValue (regular : format.Regular stable) {name : ρ}
    {json : Json} {value : Value ρ σ}
    (read : format.readValue (.record name) json = some value) :
    format.Fits (.record name) value := by
  rcases fits_or_gap_of_readValue regular json (.record name) value read with
    fits | ⟨_, kind, -⟩
  · exact fits
  · cases kind

end Format

end Replex.Data.Records
