import Replex.Data.Rereading
import Replex.Routes.PassThrough

namespace Replex.Payload

open Data Data.Json Data.Records

/-! What the policy transforms render as JSON, read as a payload once more. -/

section

variable (conversions : Conversions)

/-- A printed float may be read as one that is printed differently. -/
def Stable : Scalar → Prop
  | .float printed => conversions.float64 printed = some printed
  | _ => True

/-- What is missing is not shown, or is shown as null and read as missing. -/
def regularField (field : Field RecordName LeafKind) : Bool :=
  match field.kind with
  | .records _ => !field.optional
  | .record _ => field.skippedIfEmpty || field.optional || !field.defaulted
  | .leaf leaf =>
      (leaf != .optionNumberFromString || field.defaulted) &&
        (field.skippedIfEmpty || field.optional || !field.defaulted)

theorem regularField_of_mem {name : RecordName}
    {field : Field RecordName LeafKind} (listed : field ∈ fieldsOf name) :
    regularField field = true := by
  have all : (fieldsOf name).all regularField = true := by
    cases name <;> decide +kernel
  exact List.all_eq_true.mp all field listed

theorem mapM_text?_map (texts : List String) :
    (texts.map str).mapM text? = some texts := by
  rw [mapM_map_eq_some_iff]
  exact fun _ _ => rfl

theorem readLeaf_none {leaf : LeafKind} {json : Json}
    (read : readLeaf conversions leaf json = some none) :
    leaf = .optionNumberFromString := by
  cases leaf with
  | optionNumberFromString => rfl
  | strings => cases json <;> simp [readLeaf] at read
  | bool => cases json <;> simp [readLeaf] at read
  | float64 => cases json <;> simp [readLeaf] at read
  | _ => simp [readLeaf] at read

theorem readLeaf_writeScalar_iff {leaf : LeafKind} {json : Json}
    {scalar : Scalar}
    (read : readLeaf conversions leaf json = some (some scalar)) :
    readLeaf conversions leaf (writeScalar scalar) = some (some scalar) ↔
      Stable conversions scalar := by
  cases leaf with
  | string =>
      obtain ⟨text, -, equal⟩ := Option.map_eq_some_iff.mp read
      cases equal
      exact iff_of_true rfl trivial
  | strings =>
      cases json with
      | arr items =>
          obtain ⟨texts, -, equal⟩ := Option.map_eq_some_iff.mp read
          cases equal
          refine iff_of_true ?_ trivial
          rw [writeScalar, readLeaf, mapM_text?_map]
          rfl
      | _ => simp [readLeaf] at read
  | int32 | int64 =>
      rw [readLeaf] at read
      obtain ⟨value, given, equal⟩ := Option.map_eq_some_iff.mp read
      cases equal
      refine iff_of_true ?_ trivial
      rw [readLeaf, writeScalar, ← eq_of_machineInt? given, given]
      rfl
  | float64 =>
      cases json with
      | num number =>
          obtain ⟨printed, -, equal⟩ := Option.map_eq_some_iff.mp read
          cases equal
          simp [readLeaf, writeScalar, Stable]
      | _ => simp [readLeaf] at read
  | bool =>
      cases json with
      | bool value =>
          cases read
          exact iff_of_true rfl trivial
      | _ => simp [readLeaf] at read
  | specialBool =>
      obtain ⟨value, -, equal⟩ := Option.map_eq_some_iff.mp read
      cases equal
      refine iff_of_true ?_ trivial
      rw [readLeaf, writeScalar, conversions.bool_self]
      rfl
  | numberFromString =>
      obtain ⟨value, -, equal⟩ := Option.map_eq_some_iff.mp read
      cases equal
      refine iff_of_true ?_ trivial
      rw [readLeaf, writeScalar, conversions.number_self]
      rfl
  | optionNumberFromString =>
      rw [readLeaf, Option.some.injEq, Option.map_eq_some_iff] at read
      obtain ⟨value, -, rfl⟩ := read
      refine iff_of_true ?_ trivial
      rw [readLeaf, writeScalar, conversions.optionNumber_self]
      rfl
  | optionStringFromNumber =>
      obtain ⟨text, -, equal⟩ := Option.map_eq_some_iff.mp read
      cases equal
      refine iff_of_true ?_ trivial
      rw [readLeaf, writeScalar, conversions.string_self]
      rfl

theorem format_regular :
    (format conversions).Regular (Stable conversions) where
  optional_empty {name field} listed optional := by
    have regular := regularField_of_mem listed
    unfold regularField at regular
    unfold Field.empty
    split
    next kind => simp [kind, optional] at regular
    next => rfl
  gap {name field leaf json} listed kind read := by
    have regular := regularField_of_mem listed
    have which := readLeaf_none conversions read
    simp [regularField, kind, which] at regular
    simp [Field.missing, Field.empty, kind, regular]
  shown_absent {name field} listed missing shown := by
    have regular := regularField_of_mem listed
    unfold regularField at regular
    unfold Field.missing Field.empty at missing
    cases kind : field.kind <;> cases optional : field.optional <;> simp_all
  write_ne_null scalar := by cases scalar <;> simp [format, writeScalar]
  stable_iff := readLeaf_writeScalar_iff conversions

/-! The transforms leave every value in its place. -/

variable {conversions}

theorem fits_list_iff {kind : Kind RecordName LeafKind} {items : List Node} :
    (format conversions).Fits kind (.list items) ↔
      ∃ name, kind = .records name ∧
        ∀ item ∈ items, (format conversions).Fits (.record name) item := by
  cases kind with
  | records name =>
      rw [Format.Fits, Format.fitsItems_iff]
      simp
  | _ => simp [Format.Fits]

theorem missing_of_change {change : Node → Node}
    (absent : change .absent = .absent) (nil : change (.list []) = .list [])
    {field : Field RecordName LeafKind} {value : Node}
    (missing : field.missing = some value) :
    field.missing = some (change value) := by
  have empty := (@Format.valueIsEmpty_of_missing _ _ _
    (format plainConversions) _ _ missing).1
  rw [missing, empty]
  unfold Field.empty
  split
  · rw [nil]
  · rw [absent]

/-- A change that keeps to the kinds, and to what stands for a missing
member. -/
structure KeepsKinds (conversions : Conversions) (change : Node → Node) :
    Prop where
  absent : change .absent = .absent
  nil : change (.list []) = .list []
  fits : ∀ {kind value}, (format conversions).Fits kind value →
    (format conversions).Fits kind (change value)

theorem KeepsKinds.field {change : Node → Node}
    (keeps : KeepsKinds conversions change)
    {field : Field RecordName LeafKind} {value : Node}
    (fits : field.missing = some value ∨
      (format conversions).Fits field.kind value) :
    field.missing = some (change value) ∨
      (format conversions).Fits field.kind (change value) := by
  rcases fits with missing | fits
  · exact .inl (missing_of_change keeps.absent keeps.nil missing)
  · exact .inr (keeps.fits fits)

theorem keepsKinds_mapItems {media : List Node → List Node}
    (shrinks : ∀ items, ∀ item ∈ media items, item ∈ items) :
    KeepsKinds conversions (mapItems media) where
  absent := rfl
  nil := by
    rw [mapItems, List.eq_nil_iff_forall_not_mem.mpr fun item listed =>
      List.not_mem_nil (shrinks [] item listed)]
  fits {kind value} fits := by
    cases value with
    | list items =>
        obtain ⟨name, rfl, every⟩ := fits_list_iff.mp fits
        exact fits_list_iff.mpr ⟨name, rfl, fun item listed =>
          every item (shrinks items item listed)⟩
    | _ => exact fits

theorem fits_stripRecursive {media : List Node → List Node}
    {keep : Node → Bool}
    (shrinks : ∀ items, ∀ item ∈ media items, item ∈ items) (value : Node)
    (kind : Kind RecordName LeafKind)
    (fits : (format conversions).Fits kind value) :
    (format conversions).Fits kind (stripRecursive media keep value) := by
  induction value using Value.tree_induction generalizing kind with
  | absent => exact fits
  | leaf scalar => exact fits
  | list items hypothesis =>
      obtain ⟨name, rfl, every⟩ := fits_list_iff.mp fits
      apply fits_list_iff.mpr ⟨name, rfl, ?_⟩
      clear fits
      induction items with
      | nil =>
          intro item listed
          cases listed
      | cons child items rest =>
          have first := hypothesis child List.mem_cons_self (.record name)
            (every child List.mem_cons_self)
          have others := rest
            (fun item listed => hypothesis item (List.mem_cons_of_mem _ listed))
            (fun item listed => every item (List.mem_cons_of_mem _ listed))
          intro item listed
          rw [stripItems] at listed
          split at listed
          · rcases List.mem_cons.mp listed with rfl | listed
            · exact first
            · exact others item listed
          · exact others item listed
  | record other fields hypothesis =>
      cases kind with
      | record name =>
          obtain ⟨same, fits⟩ := fits
          refine ⟨same, ?_⟩
          clear same
          generalize (format conversions).fields name = table at fits ⊢
          induction fields generalizing table with
          | nil => exact fits
          | cons pair fields rest =>
              obtain ⟨key, value⟩ := pair
              cases table with
              | nil => exact fits
              | cons field table =>
                  obtain ⟨⟨named, here⟩, later⟩ := fits
                  have others := rest (fun member listed => hypothesis member
                    (List.mem_cons_of_mem _ listed)) table later
                  refine ⟨⟨named, ?_⟩, others⟩
                  split
                  · exact (keepsKinds_mapItems shrinks).field here
                  · split
                    · rcases here with missing | fits
                      · exact .inl (missing_of_change rfl rfl missing)
                      · exact .inr (hypothesis (key, value)
                          List.mem_cons_self field.kind fits)
                    · exact here
      | _ => simp [Format.Fits] at fits

theorem keepsKinds_stripRecursive {media : List Node → List Node}
    {keep : Node → Bool}
    (shrinks : ∀ items, ∀ item ∈ media items, item ∈ items) :
    KeepsKinds conversions (stripRecursive media keep) where
  absent := rfl
  nil := rfl
  fits fits := fits_stripRecursive shrinks _ _ fits

theorem keepsKinds_transformMetadata
    (current : Except Unit ResolutionPolicy) (failClosed : Bool) :
    KeepsKinds conversions (transformMetadata current failClosed) := by
  have same : KeepsKinds conversions fun item => item :=
    ⟨rfl, rfl, fun fits => fits⟩
  cases current with
  | error error =>
      cases failClosed with
      | true => exact keepsKinds_stripRecursive (by simp)
      | false => exact same
  | ok policy =>
      cases unlimited : policy.isUnrestricted with
      | true =>
          rw [show transformMetadata (.ok policy) failClosed =
            fun item => item by
              funext item
              simp [transformMetadata, unlimited]]
          exact same
      | false =>
          rw [show transformMetadata (.ok policy) failClosed =
            filterMediaRecursive policy by
              funext item
              simp [transformMetadata, unlimited]]
          exact keepsKinds_stripRecursive fun items item listed =>
            List.mem_of_mem_filter listed

theorem fitsFields_modifyFields {table : List (Field RecordName LeafKind)}
    {fields : List (String × Node)} {key : String} {change : Node → Node}
    (changes : ∀ field ∈ table, field.name = key → ∀ value,
      (key, value) ∈ fields →
      field.missing = some value ∨
          (format conversions).Fits field.kind value →
        field.missing = some (change value) ∨
          (format conversions).Fits field.kind (change value))
    (fits : (format conversions).FitsFields table fields) :
    (format conversions).FitsFields table
      (Value.modifyFields key change fields) := by
  induction fields generalizing table with
  | nil => exact fits
  | cons pair fields hypothesis =>
      obtain ⟨name, value⟩ := pair
      cases table with
      | nil => exact fits
      | cons field table =>
          obtain ⟨⟨named, here⟩, later⟩ := fits
          have rest := hypothesis (fun other listed same held among =>
            changes other (List.mem_cons_of_mem _ listed) same held
              (List.mem_cons_of_mem _ among)) later
          rw [Value.modifyFields, List.map_cons]
          by_cases same : name = key
          · subst same
            rw [if_pos rfl]
            exact ⟨⟨named, changes field List.mem_cons_self named.symm value
              List.mem_cons_self here⟩, rest⟩
          · rw [if_neg same]
            exact ⟨⟨named, here⟩, rest⟩

theorem field_unique {field known : Field RecordName LeafKind}
    {name : RecordName} (among : field ∈ fieldsOf name)
    (listed : known ∈ fieldsOf name) (named : field.name = known.name) :
    field = known := by
  have found := Format.find?_name (nodup_names name) among
  rw [named, Format.find?_name (nodup_names name) listed] at found
  exact (Option.some.inj found).symm

theorem children_listed {key : String} (listed : key ∈ listKeys) :
    children key .metaData ∈ fieldsOf .mediaContainer := by
  simp only [listKeys, List.mem_cons, List.not_mem_nil, or_false] at listed
  rcases listed with rfl | rfl | rfl | rfl <;>
    simp [fieldsOf, mediaContainerFields]

/-- Items in one list of a container take the place of the items there. -/
theorem fits_modify_list {key : String} (listed : key ∈ listKeys)
    {container : Node} {items : List Node}
    (each : ∀ item ∈ items,
      (format conversions).Fits (.record .metaData) item)
    (fits : (format conversions).Fits (.record .mediaContainer) container) :
    (format conversions).Fits (.record .mediaContainer)
      (container.modify key (mapItems fun _ => items)) := by
  cases container with
  | record name fields =>
      obtain ⟨rfl, fits⟩ := fits
      refine ⟨rfl, fitsFields_modifyFields ?_ fits⟩
      intro field among named value there held
      rw [field_unique among (children_listed listed) named] at held ⊢
      right
      rcases held with missing | held
      · cases missing
        exact fits_list_iff.mpr ⟨.metaData, rfl, each⟩
      · cases value with
        | list others => exact fits_list_iff.mpr ⟨.metaData, rfl, each⟩
        | _ => exact held
  | _ => exact fits

theorem fits_items {key : String} (listed : key ∈ listKeys)
    {container : Node}
    (fits : (format conversions).Fits (.record .mediaContainer) container)
    {item : Node} (among : item ∈ (container.get key).items) :
    (format conversions).Fits (.record .metaData) item := by
  cases container with
  | record name fields =>
      obtain ⟨rfl, fits⟩ := fits
      obtain ⟨names, held⟩ := (Format.fitsFields_iff
        ((format conversions).distinct .mediaContainer)).mp fits
      cases found : fields.lookup key with
      | none => simp [Value.get, found, Value.items] at among
      | some value =>
          have distinct : (fields.map Prod.fst).Nodup :=
            names ▸ (format conversions).distinct .mediaContainer
          rw [Value.get_of_lookup found] at among
          have there := (mem_iff_lookup distinct).mpr found
          rcases held _ (children_listed listed) value there with
            missing | fits
          · cases missing
            cases among
          · cases value with
            | list items =>
                obtain ⟨name, same, every⟩ := fits_list_iff.mp fits
                cases same
                exact every item among
            | _ => cases among
  | _ => cases among

theorem fits_withLists {container : Node} {changed : List (List Node)}
    (each : ∀ list ∈ changed, ∀ item ∈ list,
      (format conversions).Fits (.record .metaData) item)
    (fits : (format conversions).Fits (.record .mediaContainer) container) :
    (format conversions).Fits (.record .mediaContainer)
      (withLists container changed) := by
  unfold withLists
  split
  · apply fits_modify_list (by decide) (each _ (by simp))
    apply fits_modify_list (by decide) (each _ (by simp))
    apply fits_modify_list (by decide) (each _ (by simp))
    exact fits_modify_list (by decide) (each _ (by simp)) fits
  · exact fits

theorem fits_applyTransform (keep : MetaData → Bool) {change : Node → Node}
    (keeps : KeepsKinds conversions change) {container : Node}
    (fits : (format conversions).Fits (.record .mediaContainer) container) :
    (format conversions).Fits (.record .mediaContainer)
      (applyTransform keep change container) := by
  have held : ∀ item ∈ (lists container).flatten,
      (format conversions).Fits (.record .metaData) item := by
    intro item listed
    obtain ⟨list, among, inside⟩ := List.mem_flatten.mp listed
    obtain ⟨key, known, rfl⟩ := List.mem_map.mp among
    exact fits_items known fits inside
  refine fits_withLists ?_ fits
  intro list among item inside
  rw [Sweep.loop_eq_sweep _ _ _ _ (Nat.le_refl _)] at among
  have listed := List.mem_flatten.mpr ⟨list, among, inside⟩
  rw [Sweep.flatten_sweep, List.mem_append] at listed
  rcases listed with changed | unreached
  · obtain ⟨original, reached, rfl⟩ := List.mem_map.mp changed
    exact keeps.fits (held original (Sweep.mem_of_mem_reached reached).1)
  · exact held item (Sweep.mem_of_mem_unreached unreached)

theorem keepsKinds_recount (container : Node) {value : Node}
    (fits : (optional "size" .int64).missing = some value ∨
      (format conversions).Fits (.leaf .int64) value) :
    (optional "size" .int64).missing = some (recount container value) ∨
      (format conversions).Fits (.leaf .int64) (recount container value) := by
  rcases fits with missing | fits
  · cases missing
    exact .inl rfl
  · cases value with
    | leaf scalar =>
        right
        rw [recount]
        generalize sizeOfLength64
          (Sweep.current (lists container)).length = counted
        have inside : -2 ^ 63 ≤ counted.toInt ∧ counted.toInt < 2 ^ 63 :=
          ⟨Int64.le_toInt counted, Int64.toInt_lt counted⟩
        refine ⟨num (.int counted.toInt), ?_⟩
        change (machineInt? (2 ^ 63) (num (.int counted.toInt))).map _ = _
        rw [machineInt?, if_pos inside]
        rfl
    | _ => exact .inr fits

theorem fits_resize {container : Node}
    (fits : (format conversions).Fits (.record .mediaContainer) container) :
    (format conversions).Fits (.record .mediaContainer)
      (resize container) := by
  unfold resize
  generalize counted : recount container = change
  cases container with
  | record name fields =>
      obtain ⟨rfl, fits⟩ := fits
      refine ⟨rfl, fitsFields_modifyFields ?_ fits⟩
      intro field among named value there held
      have known : optional "size" .int64 ∈ fieldsOf .mediaContainer :=
        @size_field conversions
      rw [field_unique among known named] at held ⊢
      rw [← counted]
      exact keepsKinds_recount _ held
  | _ => exact fits

theorem fits_transformContainer (current : Except Unit ResolutionPolicy)
    (failClosed : Bool) {container : Node}
    (fits : (format conversions).Fits (.record .mediaContainer) container) :
    (format conversions).Fits (.record .mediaContainer)
      (transformContainer current failClosed container) := by
  apply fits_resize
  apply fits_applyTransform _ ⟨rfl, rfl, fun fits => fits⟩
  exact fits_applyTransform _
    (keepsKinds_transformMetadata current failClosed) fits

theorem fits_wrapper (current : Except Unit ResolutionPolicy)
    (failClosed : Bool) {wrapper : Node}
    (fits : (format conversions).Fits (.record .mediaContainerWrapper)
      wrapper) :
    (format conversions).Fits (.record .mediaContainerWrapper)
      (wrapper.modify "MediaContainer"
        (transformContainer current failClosed)) := by
  cases wrapper with
  | record name fields =>
      obtain ⟨rfl, fits⟩ := fits
      refine ⟨rfl, fitsFields_modifyFields ?_ fits⟩
      intro field among named value there held
      obtain rfl := List.mem_singleton.mp among
      rcases held with missing | held
      · cases missing
      · exact .inr (fits_transformContainer current failClosed held)
  | _ => exact fits

end

/-! What is left out although it cannot be missing. -/

def holdsTexts (field : Field RecordName LeafKind) : Bool :=
  match field.kind with
  | .leaf .strings => true
  | _ => false

/-- Every field that may be left out can be missing, but for one. -/
def canBeMissing (name : RecordName) (field : Field RecordName LeafKind) :
    Bool :=
  !field.skippedIfEmpty ||
    (field.optional || field.defaulted) && !holdsTexts field ||
    decide (name = .displayField ∧ field.name = "fields") && holdsTexts field

theorem canBeMissing_of_mem {name : RecordName}
    {field : Field RecordName LeafKind} (listed : field ∈ fieldsOf name) :
    canBeMissing name field = true := by
  have all : (fieldsOf name).all (canBeMissing name) = true := by
    cases name <;> decide +kernel
  exact List.all_eq_true.mp all field listed

section

variable {conversions : Conversions}

theorem kind_of_holdsTexts {field : Field RecordName LeafKind}
    (holds : holdsTexts field = true) : field.kind = .leaf .strings := by
  unfold holdsTexts at holds
  split at holds
  · assumption
  · cases holds

theorem texts_of_fits {value : Node}
    (fits : (format conversions).Fits (.leaf .strings) value) :
    ∃ texts, value = .leaf (.texts texts) := by
  cases value with
  | leaf scalar =>
      obtain ⟨json, read⟩ := fits
      cases json with
      | arr items =>
          obtain ⟨texts, -, equal⟩ := Option.map_eq_some_iff.mp read
          cases equal
          exact ⟨texts, rfl⟩
      | _ => simp [format, readLeaf] at read
  | _ => simp [Format.Fits] at fits

/-- Only a leaf of texts can be empty. -/
theorem eq_strings_of_empty {leaf : LeafKind} {json : Json} {scalar : Scalar}
    (read : readLeaf conversions leaf json = some (some scalar))
    (empty : scalarIsEmpty scalar = true) : leaf = .strings := by
  cases scalar with
  | texts texts =>
      cases leaf with
      | strings => rfl
      | bool | float64 => cases json <;> simp [readLeaf] at read
      | _ => simp [readLeaf] at read
  | _ => cases empty

theorem vanishes_iff {name : RecordName} {fields : List (String × Node)}
    (fits : (format conversions).Fits (.record name) (.record name fields))
    {key : String} {value : Node} (among : (key, value) ∈ fields) :
    (format conversions).Vanishes name key value ↔
      name = .displayField ∧ key = "fields" ∧ value = .leaf (.texts []) := by
  obtain ⟨names, fits⟩ := (Format.fitsFields_iff (nodup_names name)).mp fits.2
  constructor
  · rintro ⟨field, listed, rfl, hidden, stands⟩
    obtain ⟨skipped, empty⟩ := Bool.and_eq_true_iff.mp hidden
    have held := (fits field listed value among).resolve_left stands
    have table := canBeMissing_of_mem listed
    simp only [canBeMissing, skipped, Bool.not_true, Bool.false_or,
      Bool.or_eq_true, decide_eq_true_eq, Bool.and_eq_true,
      Bool.not_eq_true'] at table
    rcases table with ⟨missable, plain⟩ | ⟨⟨rfl, named⟩, texts⟩
    · exfalso
      cases kind : field.kind with
      | leaf leaf =>
          rw [kind] at held
          cases value with
          | leaf scalar =>
              obtain ⟨json, read⟩ := held
              have strings := eq_strings_of_empty read empty
              simp [holdsTexts, kind, strings] at plain
          | _ => simp [Format.Fits] at held
      | record other =>
          rw [kind] at held
          cases value with
          | record => cases empty
          | _ => simp [Format.Fits] at held
      | records other =>
          rw [kind] at held
          cases value with
          | list items =>
              obtain rfl := List.isEmpty_iff.mp empty
              apply stands
              simp [Field.missing, Field.empty, kind, missable]
          | _ => simp [Format.Fits] at held
    · rw [kind_of_holdsTexts texts] at held
      obtain ⟨listed, rfl⟩ := texts_of_fits held
      obtain rfl := List.isEmpty_iff.mp empty
      exact ⟨rfl, named, rfl⟩
  · rintro ⟨rfl, rfl, rfl⟩
    refine ⟨{ required "fields" .strings with skippedIfEmpty := true }, ?_, rfl,
      rfl, ?_⟩
    · exact List.mem_cons_of_mem _ List.mem_cons_self
    · simp [Field.missing, required]

end

/-- No list of display fields is empty, and every float is read back as it was
printed. -/
structure ReadsAgain (conversions : Conversions) (shown : Node) : Prop where
  fields : ∀ fields, (Value.record .displayField fields).Within shown →
    ("fields", Value.leaf (.texts [])) ∉ fields
  floats : ∀ printed, (Value.leaf (.float printed)).Within shown →
    conversions.float64 printed = some printed

theorem repeats_iff_readsAgain {conversions : Conversions} {shown : Node}
    {kind : Kind RecordName LeafKind}
    (fits : (format conversions).Fits kind shown) :
    (format conversions).Repeats (Stable conversions) shown ↔
      ReadsAgain conversions shown := by
  rw [Format.repeats_iff]
  constructor
  · rintro ⟨leaves, records⟩
    refine ⟨?_, fun printed within => leaves _ within⟩
    intro fields within among
    apply records .displayField fields within _ among
    exact (vanishes_iff (Format.fits_of_within within fits) among).mpr
      ⟨rfl, rfl, rfl⟩
  · intro again
    refine ⟨?_, ?_⟩
    · intro scalar within
      cases scalar with
      | float printed => exact again.floats printed within
      | _ => trivial
    · rintro name fields within ⟨key, value⟩ among vanishes
      obtain ⟨rfl, rfl, rfl⟩ :=
        (vanishes_iff (Format.fits_of_within within fits) among).mp vanishes
      exact again.fields fields within among

/-- An answer to a client that accepts JSON is read back as the payload that
was rendered, unless a float of it is not or a list of display fields is empty:
an empty list is left out, but cannot be missing. -/
theorem rendered_payload_reads_back_iff (conversions : Conversions)
    {payload : Json} {wrapper : Node}
    (read : (format conversions).readValue (.record .mediaContainerWrapper)
      payload = some wrapper)
    (current : Except Unit ResolutionPolicy) (failClosed : Bool) :
    let shown := wrapper.modify "MediaContainer"
      (transformContainer current failClosed)
    ∃ rendered,
      applyPolicyTransforms conversions current failClosed payload =
          some rendered ∧
        ((format conversions).readValue (.record .mediaContainerWrapper)
            rendered = some shown ↔
          ReadsAgain conversions shown) := by
  intro shown
  refine ⟨(format conversions).writeValue shown, ?_, ?_⟩
  · rw [applyPolicyTransforms, read]
    rfl
  · have regular := format_regular conversions
    have fits := Format.fits_of_readValue regular read
    have fitsShown := fits_wrapper current failClosed fits
    rw [← repeats_iff_readsAgain fitsShown]
    exact Format.readValue_writeValue_iff regular _ fitsShown

def withDisplayFields (fields : List (String × Json)) : Json :=
  obj [("MediaContainer", obj [("Meta", obj [("DisplayFields",
    arr [obj (("type", str "movie") :: fields)])])])]

set_option maxRecDepth 20000 in
theorem empty_display_fields_cannot_be_read_back :
    let payload := withDisplayFields [("fields", arr [])]
    let rendered := withDisplayFields []
    applyPolicyTransforms plainConversions (.ok .unrestricted) true payload =
        some rendered ∧
      (format plainConversions).readValue (.record .mediaContainerWrapper)
        rendered = none ∧
      ∃ shown, (format plainConversions).readValue
          (.record .mediaContainerWrapper) payload = some shown ∧
        ¬ ReadsAgain plainConversions
          (shown.modify "MediaContainer"
            (transformContainer (.ok .unrestricted) true)) := by
  intro payload rendered
  refine ⟨rfl, rfl, ?_⟩
  cases read : (format plainConversions).readValue
      (.record .mediaContainerWrapper) payload with
  | none => cases read
  | some shown =>
      refine ⟨shown, rfl, ?_⟩
      intro repeats
      obtain ⟨again, answered, reads⟩ := rendered_payload_reads_back_iff
        plainConversions read (.ok .unrestricted) true
      have readAgain := reads.mpr repeats
      cases answered
      cases readAgain

end Replex.Payload
