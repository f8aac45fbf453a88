import Replex.Payload
import Replex.Routes.LibraryReplay

namespace Replex.Payload

open Data Data.Json Data.Records

/-! The policy transforms over payloads as a whole, and what they let through
for an account without limits. -/

abbrev Node := Value RecordName Scalar

def textOf : Node → Option String
  | .leaf (.text text) => some text
  | _ => none

def integerOf : Node → Option Int64
  | .leaf (.integer value) => some (Int64.ofInt value)
  | _ => none

def mediaOf (version : Node) : Media where
  id := (integerOf (version.get "id")).getD 0
  bitrate := integerOf (version.get "bitrate")
  videoResolution := textOf (version.get "videoResolution")
  height := integerOf (version.get "height")
  width := integerOf (version.get "width")

/-- What the filters read of an item. -/
def itemOf (item : Node) : MetaData where
  title := (textOf (item.get "title")).getD ""
  type := (textOf (item.get "type")).getD ""
  context := textOf (item.get "context")
  hubIdentifier := textOf (item.get "hubIdentifier")
  media := (item.get "Media").items.map mediaOf

def survivesPruning (child : Node) : Bool :=
  let empty (key : String) := (child.get key).items.isEmpty
  let structural := empty "Media" &&
    (!empty "Metadata" || !empty "Directory" || !empty "Video")
  let originallyPlayable :=
    ["movie", "episode", "clip", "track"].contains (itemOf child).type
  !originallyPlayable || !empty "Media" || structural

def mapItems (change : List Node → List Node) : Node → Node
  | .list items => .list (change items)
  | value => value

section

variable (media : List Node → List Node) (keep : Node → Bool)

/-! Both recursions over an item: one changes the versions, one says which of
the children stay. -/

mutual
def stripRecursive : Node → Node
  | .record name fields => .record name (stripFields fields)
  | .list items => .list (stripItems items)
  | value => value

def stripFields : List (String × Node) → List (String × Node)
  | [] => []
  | (key, value) :: fields =>
      (key,
        if key = "Media" then mapItems media value
        else if key = "Metadata" ∨ key = "Directory" ∨ key = "Video" then
          stripRecursive value
        else value) :: stripFields fields

def stripItems : List Node → List Node
  | [] => []
  | child :: rest =>
      let child := stripRecursive child
      if keep child then child :: stripItems rest else stripItems rest
end

end

def filterMediaRecursive (policy : ResolutionPolicy) : Node → Node :=
  stripRecursive
    (fun versions => versions.filter fun version =>
      mediaAllowed (mediaOf version) policy)
    survivesPruning

def clearMediaRecursive : Node → Node :=
  stripRecursive (fun _ => []) (fun _ => true)

def transformMetadata (current : Except Unit ResolutionPolicy)
    (failClosed : Bool) (item : Node) : Node :=
  match current with
  | .error _ => if failClosed then clearMediaRecursive item else item
  | .ok policy =>
      if policy.isUnrestricted then item else filterMediaRecursive policy item

def listKeys : List String :=
  ["Metadata", "Hub", "Video", "Directory"]

def lists (container : Node) : List (List Node) :=
  listKeys.map fun key => (container.get key).items

def withLists (container : Node) : List (List Node) → Node
  | [metadata, hub, video, directory] =>
      (((container.modify "Metadata" (mapItems fun _ => metadata)).modify
        "Hub" (mapItems fun _ => hub)).modify
          "Video" (mapItems fun _ => video)).modify
            "Directory" (mapItems fun _ => directory)
  | _ => container

def applyTransform (filterMetadata : MetaData → Bool)
    (transformMetadata : Node → Node) (container : Node) : Node :=
  withLists container
    (Sweep.loop (fun item => filterMetadata (itemOf item)) transformMetadata
      (Sweep.size (lists container)) 0 (lists container))

def recount (container : Node) : Node → Node
  | .leaf _ =>
      .leaf (.integer
        (sizeOfLength64 (Sweep.current (lists container)).length).toInt)
  | size => size

/-- A size that was reported is reported anew. -/
def resize (container : Node) : Node :=
  container.modify "size" (recount container)

def transformContainer (current : Except Unit ResolutionPolicy)
    (failClosed : Bool) (container : Node) : Node :=
  resize
    (applyTransform (visibilityFilterMetadata current) id
      (applyTransform (policyFilterMetadata current failClosed)
        (transformMetadata current failClosed) container))

/-- The JSON answer to a payload; none to one that cannot be read. -/
def applyPolicyTransforms (conversions : Conversions)
    (current : Except Unit ResolutionPolicy) (failClosed : Bool)
    (payload : Json) : Option Json :=
  ((format conversions).readValue (.record .mediaContainerWrapper)
    payload).map fun wrapper =>
      (format conversions).writeValue
        (wrapper.modify "MediaContainer"
          (transformContainer current failClosed))

/-! What the filters see of a payload is treated as a payload of its own
would be. -/

theorem lookup_stripFields (media : List Node → List Node)
    (keep : Node → Bool) (key : String) (fields : List (String × Node)) :
    (stripFields media keep fields).lookup key =
      (fields.lookup key).map fun value =>
        if key = "Media" then mapItems media value
        else if key = "Metadata" ∨ key = "Directory" ∨ key = "Video" then
          stripRecursive media keep value
        else value := by
  induction fields with
  | nil => rfl
  | cons field fields hypothesis =>
      obtain ⟨name, first⟩ := field
      rw [stripFields, List.lookup_cons, List.lookup_cons]
      by_cases same : key = name
      · subst same
        simp
      · have passed : (key == name) = false := beq_eq_false_iff_ne.mpr same
        rw [passed, hypothesis]

theorem get_stripRecursive_media (media : List Node → List Node)
    (keep : Node → Bool) (item : Node) :
    (stripRecursive media keep item).get "Media" =
      mapItems media (item.get "Media") := by
  cases item with
  | record name fields =>
      simp only [stripRecursive, Value.get, lookup_stripFields, if_pos]
      cases fields.lookup "Media" <;> rfl
  | _ => rfl

theorem get_stripRecursive_of_ne (media : List Node → List Node)
    (keep : Node → Bool) (item : Node) (key : String)
    (other : key ∉ ["Media", "Metadata", "Directory", "Video"]) :
    (stripRecursive media keep item).get key = item.get key := by
  cases item with
  | record name fields =>
      have apart : key ≠ "Media" ∧
          ¬ (key = "Metadata" ∨ key = "Directory" ∨ key = "Video") := by
        simpa [not_or] using other
      simp only [stripRecursive, Value.get, lookup_stripFields,
        if_neg apart.1, if_neg apart.2, Option.map_id']
  | _ => rfl

theorem items_mapItems (change : List Node → List Node)
    (empty : change [] = []) (value : Node) :
    (mapItems change value).items = change value.items := by
  cases value with
  | list items => rfl
  | _ => exact empty.symm

theorem itemOf_stripRecursive {media : List Node → List Node}
    (empty : media [] = []) (keep : Node → Bool) (item : Node) :
    itemOf (stripRecursive media keep item) =
      { itemOf item with
        media := (media (item.get "Media").items).map mediaOf } := by
  unfold itemOf
  rw [get_stripRecursive_media, items_mapItems media empty]
  simp only [get_stripRecursive_of_ne media keep item "title" (by decide),
    get_stripRecursive_of_ne media keep item "type" (by decide),
    get_stripRecursive_of_ne media keep item "context" (by decide),
    get_stripRecursive_of_ne media keep item "hubIdentifier" (by decide)]

theorem itemOf_transformMetadata (current : Except Unit ResolutionPolicy)
    (failClosed : Bool) (item : Node) :
    itemOf (transformMetadata current failClosed item) =
      policyTransformMetadata current failClosed (itemOf item) := by
  unfold transformMetadata policyTransformMetadata
  cases current with
  | error failure =>
      dsimp only
      split
      · rw [clearMediaRecursive, itemOf_stripRecursive rfl,
          clearMediaRecursive_eq]
        rfl
      · rfl
  | ok policy =>
      dsimp only
      split
      · rfl
      · rw [filterMediaRecursive, itemOf_stripRecursive rfl,
          filterMediaRecursive_eq, allowedMedia]
        simp only [itemOf, List.filter_map]
        rfl

def containerOf (container : Node) : MediaContainer where
  size := integerOf (container.get "size")
  metadata := (container.get "Metadata").items.map itemOf
  hub := (container.get "Hub").items.map itemOf
  video := (container.get "Video").items.map itemOf
  directory := (container.get "Directory").items.map itemOf

theorem lists_containerOf (container : Node) :
    (containerOf container).lists =
      (lists container).map (List.map itemOf) :=
  rfl

/-- The lists of a container are there, and its size is a number if it is. -/
structure Shaped (container : Node) : Prop where
  lists : ∀ key ∈ listKeys, ∃ items, container.get key = .list items
  size : container.get "size" = .absent ∨
    ∃ value, container.get "size" = .leaf (.integer value)

theorem get_withLists_of_ne {key : String} (other : key ∉ listKeys)
    (container : Node) (changed : List (List Node)) :
    (withLists container changed).get key = container.get key := by
  simp only [listKeys, List.mem_cons, List.not_mem_nil, or_false,
    not_or] at other
  unfold withLists
  split
  · rw [Value.get_modify_of_ne other.2.2.2, Value.get_modify_of_ne other.2.2.1,
      Value.get_modify_of_ne other.2.1, Value.get_modify_of_ne other.1]
  · rfl

theorem Shaped.get_withLists {container : Node} (shaped : Shaped container)
    (metadata hub video directory : List Node) :
    let changed := withLists container [metadata, hub, video, directory]
    changed.get "Metadata" = .list metadata ∧ changed.get "Hub" = .list hub ∧
      changed.get "Video" = .list video ∧
      changed.get "Directory" = .list directory := by
  obtain ⟨_, first⟩ := shaped.lists "Metadata" (by decide)
  obtain ⟨_, second⟩ := shaped.lists "Hub" (by decide)
  obtain ⟨_, third⟩ := shaped.lists "Video" (by decide)
  obtain ⟨_, fourth⟩ := shaped.lists "Directory" (by decide)
  have still (list : List Node) :
      mapItems (fun _ => list) (.absent : Node) = .absent := rfl
  refine ⟨?_, ?_, ?_, ?_⟩ <;>
    simp [withLists, Value.get_modify_self (still _),
      Value.get_modify_of_ne, first, second, third, fourth, mapItems]

theorem Shaped.withLists {container : Node} (shaped : Shaped container)
    {changed : List (List Node)} (four : changed.length = 4) :
    Shaped (withLists container changed) ∧
      containerOf (Payload.withLists container changed) =
        (containerOf container).withLists
          (changed.map (List.map itemOf)) := by
  match changed, four with
  | [metadata, hub, video, directory], _ =>
      obtain ⟨first, second, third, fourth⟩ :=
        shaped.get_withLists metadata hub video directory
      have size := @get_withLists_of_ne "size" (by decide) container
        [metadata, hub, video, directory]
      refine ⟨⟨?_, ?_⟩, ?_⟩
      · intro key listed
        simp only [listKeys, List.mem_cons, List.not_mem_nil,
          or_false] at listed
        rcases listed with rfl | rfl | rfl | rfl
        · exact ⟨_, first⟩
        · exact ⟨_, second⟩
        · exact ⟨_, third⟩
        · exact ⟨_, fourth⟩
      · rw [size]
        exact shaped.size
      · unfold containerOf
        rw [first, second, third, fourth, size]
        rfl

theorem Shaped.applyTransform {container : Node} (shaped : Shaped container)
    {transform : Transform} {change : Node → Node}
    (plain : transform.transformMediacontainer = id)
    (changes : ∀ item,
      itemOf (change item) = transform.transformMetadata (itemOf item)) :
    Shaped (applyTransform transform.filterMetadata change container) ∧
      containerOf (Payload.applyTransform transform.filterMetadata change
          container) =
        transform.apply (containerOf container) := by
  have swept := @Shaped.withLists container shaped
    (Sweep.sweep (fun item => transform.filterMetadata (itemOf item)) change
      (Payload.lists container)) (Sweep.length_sweep ..)
  rw [Payload.applyTransform, Sweep.loop_eq_sweep _ _ _ _ (Nat.le_refl _),
    apply_of_plain transform plain, lists_containerOf,
    ← Sweep.map_sweep changes]
  exact swept

theorem current_map {α β : Type} (view : α → β) (lists : List (List α)) :
    Sweep.current (lists.map (List.map view)) =
      (Sweep.current lists).map view := by
  induction lists with
  | nil => rfl
  | cons list rest hypothesis =>
      cases list with
      | nil => simpa using hypothesis
      | cons item items => rfl

theorem containerOf_resize {container : Node} (shaped : Shaped container) :
    containerOf (resize container) = (containerOf container).resize := by
  have length : (containerOf container).children.length =
      (Sweep.current (lists container)).length := by
    rw [← current_lists, lists_containerOf, current_map, List.length_map]
  have size : integerOf ((resize container).get "size") =
      (integerOf (container.get "size")).map fun _ =>
        sizeOfLength64 (Sweep.current (lists container)).length := by
    rw [resize, Value.get_modify_self rfl]
    rcases shaped.size with absent | ⟨value, present⟩
    · rw [absent]
      rfl
    · rw [present]
      simp [recount, integerOf]
  have others {key : String} (other : key ≠ "size") :
      (resize container).get key = container.get key :=
    Value.get_modify_of_ne other _ container
  unfold MediaContainer.resize
  rw [length]
  unfold containerOf
  rw [size, others (by decide), others (by decide), others (by decide),
    others (by decide)]

theorem containerOf_transformContainer {container : Node}
    (shaped : Shaped container) (current : Except Unit ResolutionPolicy)
    (failClosed : Bool) :
    containerOf (transformContainer current failClosed container) =
      Replex.applyPolicyTransforms current failClosed
        (containerOf container) := by
  obtain ⟨stillShaped, versions⟩ := @Shaped.applyTransform container shaped
    (resolutionPolicyTransform current failClosed) _ rfl
    (itemOf_transformMetadata current failClosed)
  obtain ⟨alsoShaped, visible⟩ := @Shaped.applyTransform _ stillShaped
    (collectionVisibilityTransform current) id rfl fun _ => rfl
  unfold transformContainer Replex.applyPolicyTransforms applyTo
  rw [List.foldl_cons, List.foldl_cons, List.foldl_nil, ← versions, ← visible]
  exact containerOf_resize alsoShaped

section

variable {conversions : Conversions} {members : List (String × Json)}
  {fields : List (String × Node)}

theorem lookup_list
    (reads : (format conversions).Reads .mediaContainer members fields)
    {key : String} (listed : key ∈ listKeys) :
    ∃ items, fields.lookup key = some (.list items) ∧
      items.length = Format.arrayLength members key := by
  have field : children key .metaData ∈
      (format conversions).fields .mediaContainer := by
    simp only [listKeys, List.mem_cons, List.not_mem_nil, or_false] at listed
    rcases listed with rfl | rfl | rfl | rfl <;>
      simp [format, fieldsOf, mediaContainerFields]
  exact reads.lookup_records field rfl rfl

theorem size_field :
    optional "size" .int64 ∈ (format conversions).fields .mediaContainer := by
  simp [format, fieldsOf, mediaContainerFields]

theorem lookup_size
    (reads : (format conversions).Reads .mediaContainer members fields)
    {json : Json} (listed : ("size", json) ∈ members) (filled : json ≠ null) :
    ∃ value, json = num (.int value) ∧
      fields.lookup "size" = some (.leaf (.integer value)) := by
  obtain ⟨found, read, lookup⟩ := reads.known _ size_field json listed
  rw [Format.readField_of_ne_null filled] at read
  simp only [optional] at read lookup
  rw [Format.readValue] at read
  obtain ⟨scalar?, taken, rfl⟩ := Option.map_eq_some_iff.mp read
  obtain ⟨value, given, rfl⟩ := Option.map_eq_some_iff.mp taken
  exact ⟨value, eq_of_machineInt? given, lookup⟩

theorem shaped_of_reads
    (reads : (format conversions).Reads .mediaContainer members fields) :
    Shaped (.record .mediaContainer fields) := by
  constructor
  · intro key listed
    obtain ⟨items, lookup, -⟩ := lookup_list reads listed
    exact ⟨items, Value.get_of_lookup lookup⟩
  · by_cases present : ∃ json, ("size", json) ∈ members
    · obtain ⟨json, listed⟩ := present
      by_cases filled : json = null
      · subst filled
        obtain ⟨found, read, lookup⟩ := reads.known _ size_field null listed
        cases read
        exact .inl (Value.get_of_lookup lookup)
      · obtain ⟨value, -, lookup⟩ := lookup_size reads listed filled
        exact .inr ⟨value, Value.get_of_lookup lookup⟩
    · obtain ⟨found, missing, lookup⟩ := reads.missing _ size_field
        fun json listed => present ⟨json, listed⟩
      cases missing
      exact .inl (Value.get_of_lookup lookup)

end

/-! An account without limits. -/

theorem transformMetadata_of_unrestricted {policy : ResolutionPolicy}
    (unlimited : policy.isUnrestricted = true) (failClosed : Bool) :
    transformMetadata (.ok policy) failClosed = id := by
  funext item
  simp [transformMetadata, unlimited]

theorem policyFilterMetadata_of_unrestricted {policy : ResolutionPolicy}
    (unlimited : policy.isUnrestricted = true) (failClosed : Bool)
    (item : MetaData) :
    policyFilterMetadata (.ok policy) failClosed item = true := by
  simp [policyFilterMetadata, unlimited]

theorem visibilityFilterMetadata_of_none {policy : ResolutionPolicy}
    (none : policy.hiddenCollections = []) (item : MetaData) :
    visibilityFilterMetadata (.ok policy) item = true := by
  simp [visibilityFilterMetadata, isHidden, none]

section

variable {conversions : Conversions} {members : List (String × Json)}
  {fields : List (String × Node)}

theorem withLists_lists
    (reads : (format conversions).Reads .mediaContainer members fields) :
    withLists (.record .mediaContainer fields)
        (lists (.record .mediaContainer fields)) =
      .record .mediaContainer fields := by
  have distinct : (fields.map Prod.fst).Nodup :=
    reads.names ▸ (format conversions).distinct .mediaContainer
  have still (key : String) (listed : key ∈ listKeys) :
      Value.modifyFields key (mapItems fun _ =>
        (Value.get key (.record .mediaContainer fields)).items) fields =
          fields := by
    apply Value.modifyFields_of_unchanged
    intro value held
    obtain ⟨items, lookup, -⟩ := lookup_list reads listed
    rw [Value.get_of_lookup lookup]
    rw [(mem_iff_lookup distinct).mp held] at lookup
    cases lookup
    rfl
  unfold lists listKeys
  simp only [List.map_cons, List.map_nil, withLists, Value.modify,
    still "Metadata" (by decide), still "Hub" (by decide),
    still "Video" (by decide), still "Directory" (by decide)]

theorem applyTransform_of_all
    (reads : (format conversions).Reads .mediaContainer members fields)
    {filterMetadata : MetaData → Bool}
    (all : ∀ item, filterMetadata item = true) :
    applyTransform filterMetadata id (.record .mediaContainer fields) =
      .record .mediaContainer fields := by
  rw [applyTransform, Sweep.loop_eq_sweep _ _ _ _ (Nat.le_refl _),
    Sweep.sweep_id fun item => all (itemOf item), withLists_lists reads]

/-- All that is left to do is to count. -/
theorem transformContainer_of_unrestricted
    (reads : (format conversions).Reads .mediaContainer members fields)
    {policy : ResolutionPolicy} (unlimited : policy.isUnrestricted = true)
    (none : policy.hiddenCollections = []) (failClosed : Bool) :
    transformContainer (.ok policy) failClosed
        (.record .mediaContainer fields) =
      resize (.record .mediaContainer fields) := by
  rw [transformContainer, transformMetadata_of_unrestricted unlimited,
    applyTransform_of_all reads
      (policyFilterMetadata_of_unrestricted unlimited failClosed),
    applyTransform_of_all reads (visibilityFilterMetadata_of_none none)]

end

/-- The length of the list that the container shows. -/
def visibleLength (members : List (String × Json)) : Nat :=
  ((listKeys.map (Format.arrayLength members)).find? (0 < ·)).getD 0

/-- A size, where there is one, counts the list that is shown. -/
def SizeTold (members : List (String × Json)) : Prop :=
  ∀ json, ("size", json) ∈ members → json ≠ null →
    Carried json
      (num (.int (sizeOfLength64 (visibleLength members)).toInt))

theorem length_current {α : Type} (lists : List (List α)) :
    (Sweep.current lists).length =
      ((lists.map List.length).find? (0 < ·)).getD 0 := by
  induction lists with
  | nil => rfl
  | cons list rest hypothesis =>
      cases list with
      | nil => simpa [Sweep.current] using hypothesis
      | cons item items => simp [Sweep.current]

section

variable {conversions : Conversions} {members : List (String × Json)}
  {fields : List (String × Node)}

theorem length_current_lists
    (reads : (format conversions).Reads .mediaContainer members fields) :
    (Sweep.current (lists (.record .mediaContainer fields))).length =
      visibleLength members := by
  rw [length_current, visibleLength, lists, List.map_map]
  congr 2
  apply List.map_congr_left
  intro key listed
  obtain ⟨items, lookup, length⟩ := lookup_list reads listed
  simp [Value.get_of_lookup lookup, Value.items, length]

theorem carried_container_iff
    (reads : (format conversions).Reads .mediaContainer members fields) :
    Carried (obj members) ((format conversions).writeValue
        (resize (.record .mediaContainer fields))) ↔
      (format conversions).Lossless (.record .mediaContainer) (obj members) ∧
        SizeTold members := by
  have distinct : (fields.map Prod.fst).Nodup :=
    reads.names ▸ (format conversions).distinct .mediaContainer
  have member {key : String} {json : Json} (listed : (key, json) ∈ members)
      (filled : json ≠ null) :
      (format conversions).Shows .mediaContainer fields key json ↔
        (format conversions).LosslessMember .mediaContainer key json :=
    Format.shows_iff reads listed filled fun kind _ =>
      Format.carried_writeValue_iff kind filled
  have resized {json : Json} (listed : ("size", json) ∈ members)
      (filled : json ≠ null) :
      (format conversions).Shows .mediaContainer
          (Value.modifyFields "size" (recount (.record .mediaContainer fields))
            fields) "size" json ↔
        Carried json
          (num (.int (sizeOfLength64 (visibleLength members)).toInt)) := by
    obtain ⟨value, -, lookup⟩ := lookup_size reads listed filled
    rw [Format.shows_modify_iff (.leaf (.integer value)), recount,
      length_current_lists reads]
    · exact and_iff_right rfl
    · intro other
      rw [mem_iff_lookup distinct, lookup]
      simp [eq_comm]
  rw [resize, Value.modify, Format.carried_writeValue_record_iff,
    Format.Lossless]
  change _ ↔ Format.LosslessMembers _
    ((format conversions).fields .mediaContainer) members ∧ _
  rw [Format.losslessMembers_iff]
  constructor
  · intro every
    constructor
    · intro key json listed filled
      by_cases same : key = "size"
      · subst same
        obtain ⟨value, rfl, -⟩ := lookup_size reads listed filled
        refine ⟨_, size_field, rfl, fun _ impossible => ?_, trivial⟩
        cases impossible
      · apply (member listed filled).mp
        exact (Format.shows_modify_of_ne same _).mp
          (every key json listed filled)
    · intro json listed filled
      exact (resized listed filled).mp (every "size" json listed filled)
  · rintro ⟨lossless, told⟩ key json listed filled
    by_cases same : key = "size"
    · subst same
      exact (resized listed filled).mpr (told json listed filled)
    · apply (Format.shows_modify_of_ne same _).mpr
      exact (member listed filled).mpr (lossless key json listed filled)

theorem exists_fields_applyTransform (filterMetadata : MetaData → Bool)
    (transformMetadata : Node → Node) (name : RecordName)
    (fields : List (String × Node)) :
    ∃ changed, applyTransform filterMetadata transformMetadata
      (.record name fields) = .record name changed := by
  unfold applyTransform withLists
  split
  · exact ⟨_, rfl⟩
  · exact ⟨_, rfl⟩

theorem exists_fields_transformContainer
    (current : Except Unit ResolutionPolicy) (failClosed : Bool)
    (name : RecordName) (fields : List (String × Node)) :
    ∃ changed, transformContainer current failClosed (.record name fields) =
      .record name changed := by
  obtain ⟨filtered, first⟩ := exists_fields_applyTransform
    (policyFilterMetadata current failClosed)
    (transformMetadata current failClosed) name fields
  obtain ⟨visible, second⟩ := exists_fields_applyTransform
    (visibilityFilterMetadata current) id name filtered
  rw [transformContainer, first, second]
  exact ⟨_, rfl⟩

theorem carried_transformContainer_iff {policy : ResolutionPolicy}
    (unlimited : policy.isUnrestricted = true)
    (none : policy.hiddenCollections = []) (failClosed : Bool) {json : Json}
    {container : Node}
    (read : (format conversions).readValue (.record .mediaContainer) json =
      some container) :
    Carried json ((format conversions).writeValue
        (transformContainer (.ok policy) failClosed container)) ↔
      (format conversions).Lossless (.record .mediaContainer) json ∧
        ∀ parts, json = obj parts → SizeTold parts := by
  cases json with
  | obj parts =>
      obtain ⟨fields, rfl, reads⟩ := Format.reads_of_readValue read
      rw [transformContainer_of_unrestricted reads unlimited none,
        carried_container_iff reads]
      simp
  | arr items =>
      obtain ⟨fields, rfl⟩ := Format.exists_fields_of_readValue read
      obtain ⟨changed, equal⟩ := exists_fields_transformContainer
        (.ok policy) failClosed .mediaContainer fields
      rw [equal, Format.writeValue]
      have lost : ¬ (format conversions).Lossless (.record .mediaContainer)
          (arr items) := by
        simp [Format.Lossless]
      exact iff_of_false id fun both => lost both.1
  | _ => simp [Format.readValue] at read

theorem carried_wrapper_iff {policy : ResolutionPolicy}
    (unlimited : policy.isUnrestricted = true)
    (none : policy.hiddenCollections = []) (failClosed : Bool)
    (reads : (format conversions).Reads .mediaContainerWrapper members
      fields) :
    Carried (obj members) ((format conversions).writeValue
        (Value.modify "MediaContainer" (transformContainer (.ok policy)
          failClosed) (.record .mediaContainerWrapper fields))) ↔
      (format conversions).Lossless (.record .mediaContainerWrapper)
          (obj members) ∧
        ∀ parts, ("MediaContainer", obj parts) ∈ members →
          SizeTold parts := by
  have distinct : (fields.map Prod.fst).Nodup :=
    reads.names ▸ (format conversions).distinct .mediaContainerWrapper
  have inner {json : Json} (listed : ("MediaContainer", json) ∈ members)
      (filled : json ≠ null) :
      (format conversions).Shows .mediaContainerWrapper
          (Value.modifyFields "MediaContainer"
            (transformContainer (.ok policy) failClosed) fields)
          "MediaContainer" json ↔
        (format conversions).LosslessMember .mediaContainerWrapper
            "MediaContainer" json ∧
          ∀ parts, json = obj parts → SizeTold parts := by
    obtain ⟨container, read, lookup⟩ := reads.known
      { name := "MediaContainer", kind := .record .mediaContainer }
      List.mem_cons_self json listed
    rw [Format.readField_of_ne_null filled] at read
    rw [Format.shows_modify_iff container,
      carried_transformContainer_iff unlimited none failClosed read]
    · have whole : (format conversions).LosslessMember .mediaContainerWrapper
            "MediaContainer" json ↔
          (format conversions).Lossless (.record .mediaContainer) json := by
        simp [Format.LosslessMember, format, fieldsOf,
          mediaContainerWrapperFields]
      rw [whole]
      exact and_iff_right rfl
    · intro other
      rw [mem_iff_lookup distinct, lookup]
      simp [eq_comm]
  have others {key : String} {json : Json} (listed : (key, json) ∈ members)
      (filled : json ≠ null) (other : key ≠ "MediaContainer") :
      (format conversions).Shows .mediaContainerWrapper
          (Value.modifyFields "MediaContainer"
            (transformContainer (.ok policy) failClosed) fields) key json ↔
        (format conversions).LosslessMember .mediaContainerWrapper key
          json := by
    rw [Format.shows_modify_of_ne other]
    exact Format.shows_iff reads listed filled fun kind _ =>
      Format.carried_writeValue_iff kind filled
  rw [Value.modify, Format.carried_writeValue_record_iff, Format.Lossless]
  change _ ↔ Format.LosslessMembers _
    ((format conversions).fields .mediaContainerWrapper) members ∧ _
  rw [Format.losslessMembers_iff]
  constructor
  · intro every
    constructor
    · intro key json listed filled
      by_cases same : key = "MediaContainer"
      · subst same
        exact ((inner listed filled).mp (every _ json listed filled)).1
      · exact (others listed filled same).mp (every key json listed filled)
    · intro parts listed
      have filled : obj parts ≠ null := by simp
      exact ((inner listed filled).mp (every _ _ listed filled)).2 parts rfl
  · rintro ⟨lossless, told⟩ key json listed filled
    by_cases same : key = "MediaContainer"
    · subst same
      apply (inner listed filled).mpr
      refine ⟨lossless _ json listed filled, ?_⟩
      rintro parts rfl
      exact told parts listed
    · exact (others listed filled same).mpr (lossless key json listed filled)

end

/-- Known members only, at every depth and in the types that the records have
for them, and a size that counts what is shown. Of a payload that is an array
nothing stays at its place. -/
def SurvivesReading (conversions : Conversions) : Json → Prop
  | obj members =>
      (format conversions).Lossless (.record .mediaContainerWrapper)
          (obj members) ∧
        ∀ parts, ("MediaContainer", obj parts) ∈ members → SizeTold parts
  | payload => Memberless payload

/-- For an account without limits the answer keeps every member of the payload
exactly when the payload has none that reading loses. -/
theorem unrestricted_loses_nothing_iff (conversions : Conversions)
    {policy : ResolutionPolicy} (unlimited : policy.isUnrestricted = true)
    (none : policy.hiddenCollections = []) (failClosed : Bool)
    {payload rendered : Json}
    (answered : applyPolicyTransforms conversions (.ok policy) failClosed
      payload = some rendered) :
    KeptBy payload rendered ↔ SurvivesReading conversions payload := by
  obtain ⟨wrapper, read, rfl⟩ := Option.map_eq_some_iff.mp answered
  cases payload with
  | obj members =>
      obtain ⟨fields, rfl, reads⟩ := Format.reads_of_readValue read
      rw [keptBy_obj_iff (by rw [Value.modify, Format.writeValue]),
        carried_wrapper_iff unlimited none failClosed reads]
      rfl
  | arr items =>
      obtain ⟨fields, rfl⟩ := Format.exists_fields_of_readValue read
      rw [Value.modify, Format.writeValue, keptBy_arr_iff]
      rfl
  | _ => simp [Format.readValue] at read

/-! The rating image of the audience, whose field is misspelt. -/

def ratedMovie (image : List (String × Json)) : Json :=
  obj [("MediaContainer", obj [("size", num (.int 1)),
    ("Metadata", arr [obj ([("title", str "Heat"), ("type", str "movie")] ++
      image)])])]

theorem lossless_movie :
    (format plainConversions).Lossless (.record .metaData)
      (obj [("title", str "Heat"), ("type", str "movie")]) := by
  refine ⟨fun _ => ⟨required "title" .string, ?_, rfl, nofun, trivial⟩,
    fun _ => ⟨required "type" .string, ?_, rfl, nofun, trivial⟩, trivial⟩
  · change _ ∈ metaDataFields
    simp [metaDataFields]
  · change _ ∈ metaDataFields
    simp [metaDataFields]

theorem lossless_ratedMovie :
    (format plainConversions).Lossless (.record .mediaContainerWrapper)
      (ratedMovie []) := by
  refine ⟨fun _ => ⟨_, List.mem_cons_self, rfl, nofun, ?_⟩, trivial⟩
  refine ⟨fun _ => ⟨optional "size" .int64, List.mem_cons_self, rfl, nofun,
    trivial⟩, fun _ => ⟨children "Metadata" .metaData, ?_, rfl, nofun, ?_⟩,
    trivial⟩
  · change _ ∈ mediaContainerFields
    simp [mediaContainerFields]
  · exact ⟨lossless_movie, trivial⟩

set_option maxRecDepth 20000 in
theorem plain_movie_keeps_everything :
    KeptBy (ratedMovie []) (ratedMovie []) := by
  have unlimited : ResolutionPolicy.unrestricted.isUnrestricted = true := rfl
  apply (unrestricted_loses_nothing_iff plainConversions unlimited rfl true
    rfl).mpr
  refine ⟨lossless_ratedMovie, ?_⟩
  intro parts listed json size _
  cases List.mem_singleton.mp listed
  simp at size
  subst size
  rfl

set_option maxRecDepth 20000 in
theorem audience_rating_image_lost :
    let payload := ratedMovie
      [("audienceRatingImage", str "rottentomatoes://image.rating.upright")]
    applyPolicyTransforms plainConversions (.ok .unrestricted) true payload =
        some (ratedMovie []) ∧
      ¬ KeptBy payload (ratedMovie []) := by
  refine ⟨rfl, ?_⟩
  intro kept
  have carried := (keptBy_obj_iff rfl).mp kept
  obtain ⟨container, only, carried⟩ := carried.1 nofun
  cases List.mem_singleton.mp only
  obtain ⟨items, listed, carried⟩ := carried.2.1 nofun
  obtain rfl : items =
      arr [obj [("title", str "Heat"), ("type", str "movie")]] := by
    simpa using listed
  obtain ⟨image, listed, -⟩ := carried.1.2.2.1 nofun
  simp at listed

end Replex.Payload
