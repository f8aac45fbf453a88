import Replex.Data.Records

namespace Replex.Payload

open Data Data.Json Data.Records

/-! Plex's payloads whole, as they are read from JSON and rendered to it. -/

inductive RecordName where
  | mediaContainerWrapper | mediaContainer | metaData | media | mediaPart
  | stream | guid | tag | image | label | context | «meta» | metaType
  | displayField | displayImage
  deriving DecidableEq

inductive LeafKind where
  | string | strings | int32 | int64 | float64 | bool | specialBool
  | numberFromString | optionNumberFromString | optionStringFromNumber
  deriving DecidableEq

inductive Scalar where
  | text (text : String)
  | texts (texts : List String)
  | integer (value : Int)
  | float (printed : JsonNumber)
  | boolean (value : Bool)
  deriving DecidableEq

/-- The conversions of other crates, and what is known of them. -/
structure Conversions where
  /-- What is printed for the 64-bit float that is read from a number. -/
  float64 : JsonNumber → Option JsonNumber
  deserializeBoolFromAnything : Json → Option Bool
  deserializeNumberFromString : Json → Option Int64
  deserializeOptionNumberFromString : Json → Option (Option Int64)
  deserializeStringFromNumber : Json → Option String
  bool_self : ∀ value, deserializeBoolFromAnything (bool value) = some value
  number_self : ∀ value : Int64,
    deserializeNumberFromString (num (.int value.toInt)) = some value
  number_source : ∀ json value,
    deserializeNumberFromString json = some value →
      json = num (.int value.toInt) ∨ ∃ text, json = str text
  optionNumber_self : ∀ value : Int64,
    deserializeOptionNumberFromString (num (.int value.toInt)) =
      some (some value)
  optionNumber_source : ∀ json value,
    deserializeOptionNumberFromString json = some (some value) →
      json = num (.int value.toInt) ∨ ∃ text, json = str text
  string_self : ∀ text, deserializeStringFromNumber (str text) = some text
  string_source : ∀ json text,
    deserializeStringFromNumber json = some text →
      json = str text ∨ ∃ number, json = num number

/-! The fields, in the order of the source. -/

section

variable (name : String) (leaf : LeafKind) (record : RecordName)

def required : Field RecordName LeafKind where
  name := name
  kind := .leaf leaf

def optional : Field RecordName LeafKind where
  name := name
  kind := .leaf leaf
  optional := true
  skippedIfEmpty := true

def defaulted : Field RecordName LeafKind where
  name := name
  kind := .leaf leaf
  defaulted := true
  skippedIfEmpty := true

def optionalRecord : Field RecordName LeafKind where
  name := name
  kind := .record record
  optional := true
  skippedIfEmpty := true

def children : Field RecordName LeafKind where
  name := name
  kind := .records record
  defaulted := true
  skippedIfEmpty := true

end

def mediaContainerWrapperFields : List (Field RecordName LeafKind) :=
  [{ name := "MediaContainer", kind := .record .mediaContainer }]

def mediaContainerFields : List (Field RecordName LeafKind) :=
  [optional "size" .int64,
    optional "totalSize" .int32,
    optional "offset" .int32,
    optional "allowSync" .specialBool,
    optional "identifier" .string,
    defaulted "librarySectionID" .optionNumberFromString,
    optional "librarySectionTitle" .string,
    optional "librarySectionUUID" .string,
    children "Hub" .metaData,
    children "Metadata" .metaData,
    children "Video" .metaData,
    children "Directory" .metaData,
    optional "playQueueID" .int64,
    optional "playQueueSelectedItemID" .int64,
    optional "playQueueSelectedItemOffset" .int32,
    optional "playQueueSelectedMetadataItemID" .string,
    optional "playQueueShuffled" .bool,
    optional "playQueueSourceURI" .string,
    optional "playQueueTotalCount" .int32,
    optional "playQueueVersion" .int32,
    optional "mediaTagPrefix" .string,
    defaulted "mediaTagVersion" .optionNumberFromString,
    defaulted "directPlayDecisionCode" .optionNumberFromString,
    { optional "directPlayDecisionText" .string with defaulted := true },
    defaulted "generalDecisionCode" .optionNumberFromString,
    { optional "generalDecisionText" .string with defaulted := true },
    { optional "resourceSession" .string with defaulted := true },
    defaulted "transcodeDecisionCode" .optionNumberFromString,
    { optional "transcodeDecisionText" .string with defaulted := true },
    optionalRecord "Meta" .meta]

/-- The names are those that serde derives: the renamings of the XML side, such
as the one of `audiance_rating_image`, do not count here. -/
def metaDataFields : List (Field RecordName LeafKind) :=
  [optional "ratingKey" .string,
    optional "key" .string,
    optional "guid" .string,
    optional "primaryGuid" .string,
    required "title" .string,
    optional "slug" .string,
    optional "tagline" .string,
    optional "thumb" .string,
    optional "theme" .string,
    optional "composite" .string,
    optional "playlistType" .string,
    optional "banner" .string,
    optional "icon" .string,
    optional "viewGroup" .string,
    optional "addedAt" .int64,
    optional "updatedAt" .int64,
    optional "lastViewedAt" .int64,
    optional "includedAt" .int64,
    optional "duration" .int64,
    optional "viewMode" .int32,
    optional "art" .string,
    optional "index" .int32,
    optional "subtype" .string,
    optional "studio" .string,
    optional "contentRating" .string,
    optional "rating" .float64,
    optional "audienceRating" .float64,
    optional "viewOffset" .int64,
    optional "primaryExtraKey" .string,
    optional "chapterSource" .string,
    optional "ratingImage" .string,
    optional "audianceRatingImage" .string,
    optional "parentYear" .int32,
    optional "parentIndex" .int32,
    optional "parentGuid" .string,
    optional "parentStudio" .string,
    optional "parentKey" .string,
    optional "parentRatingKey" .string,
    optional "parentTitle" .string,
    optional "parentArt" .string,
    optional "parentThumb" .string,
    optional "grandparentRatingKey" .string,
    optional "grandparentKey" .string,
    optional "grandparentGuid" .string,
    optional "grandparentTitle" .string,
    optional "grandparentThumb" .string,
    optional "grandparentArt" .string,
    defaulted "librarySectionID" .optionNumberFromString,
    optional "librarySectionTitle" .string,
    optional "librarySectionKey" .string,
    required "type" .string,
    optional "summary" .string,
    optional "year" .int32,
    optional "promoted" .specialBool,
    optional "skipDetails" .specialBool,
    optional "placeholder" .bool,
    optional "context" .string,
    optional "hubKey" .string,
    optional "hubIdentifier" .string,
    optional "size" .int32,
    optional "more" .specialBool,
    optional "style" .string,
    optionalRecord "Meta" .meta,
    children "Metadata" .metaData,
    children "Directory" .metaData,
    children "Video" .metaData,
    defaulted "childCount" .optionStringFromNumber,
    optional "skipChildren" .bool,
    optional "leafCount" .int32,
    optional "viewedLeafCount" .int32,
    optional "viewCount" .int32,
    children "Label" .label,
    optional "originallyAvailableAt" .string,
    children "Media" .media,
    children "Guid" .guid,
    optional "userState" .specialBool,
    children "Image" .image,
    optionalRecord "Context" .context,
    optional "extraType" .int32,
    optional "playQueueItemID" .int64,
    children "Collection" .tag,
    children "Country" .tag,
    children "Director" .tag,
    children "Genre" .tag]

def mediaFields : List (Field RecordName LeafKind) :=
  [required "id" .numberFromString,
    optional "duration" .int64,
    optional "bitrate" .int64,
    optional "audioChannels" .int64,
    optional "audioCodec" .string,
    optional "videoCodec" .string,
    optional "videoResolution" .string,
    optional "height" .int64,
    optional "width" .int64,
    optional "partCount" .int32,
    optional "channelArt" .string,
    optional "videoProfile" .string,
    optional "videoFrameRate" .string,
    optional "container" .string,
    optional "protocol" .string,
    optional "optimizedForStreaming" .specialBool,
    optional "selected" .bool,
    children "Part" .mediaPart]

def mediaPartFields : List (Field RecordName LeafKind) :=
  [required "id" .numberFromString,
    optional "key" .string,
    optional "duration" .int64,
    optional "file" .string,
    optional "size" .int64,
    optional "container" .string,
    optional "videoProfile" .string,
    optional "protocol" .string,
    optional "optimizedForStreaming" .specialBool,
    optional "selected" .bool,
    children "Stream" .stream]

/-- `DOVIELPresent` alone is rendered even where it is absent. -/
def streamFields : List (Field RecordName LeafKind) :=
  [required "id" .numberFromString,
    optional "streamType" .int64,
    optional "default" .bool,
    optional "codec" .string,
    optional "index" .int64,
    optional "bitrate" .int64,
    optional "language" .string,
    optional "languageTag" .string,
    optional "languageCode" .string,
    optional "DOVIBLCompatID" .int64,
    optional "DOVIBLPresent" .bool,
    { optional "DOVIELPresent" .bool with skippedIfEmpty := false },
    optional "DOVILevel" .int64,
    optional "DOVIPresent" .bool,
    optional "DOVIProfile" .int64,
    optional "DOVIRPUPresent" .bool,
    optional "DOVIVersion" .string,
    optional "bitDepth" .int64,
    optional "chromaLocation" .string,
    optional "chromaSubsampling" .string,
    optional "codedHeight" .int64,
    optional "codedWidth" .int64,
    optional "colorPrimaries" .string,
    optional "colorRange" .string,
    optional "colorSpace" .string,
    optional "colorTrc" .string,
    optional "frameRate" .float64,
    optional "height" .int64,
    optional "level" .int64,
    optional "original" .bool,
    optional "profile" .string,
    optional "refFrames" .int64,
    optional "width" .int64,
    optional "displayTitle" .string,
    optional "extendedDisplayTitle" .string,
    optional "hasScalingMatrix" .bool,
    optional "scanType" .string,
    optional "selected" .bool,
    optional "channels" .int64,
    optional "audioChannelLayout" .string,
    optional "samplingRate" .int64,
    optional "forced" .bool,
    optional "title" .string,
    optional "hearingImpaired" .bool,
    optional "decision" .string]

def fieldsOf : RecordName → List (Field RecordName LeafKind)
  | .mediaContainerWrapper => mediaContainerWrapperFields
  | .mediaContainer => mediaContainerFields
  | .metaData => metaDataFields
  | .media => mediaFields
  | .mediaPart => mediaPartFields
  | .stream => streamFields
  | .guid => [required "id" .string]
  | .tag => [required "tag" .string]
  | .image =>
      [optional "alt" .string, required "type" .string, required "url" .string]
  | .label =>
      [required "id" .numberFromString, required "tag" .string,
        required "filter" .string]
  | .context => [children "Image" .image]
  | .meta =>
      [children "DisplayFields" .displayField,
        children "DisplayImage" .displayImage, optionalRecord "type" .metaType]
  | .metaType =>
      [optional "type" .string, optional "active" .bool,
        optional "title" .string]
  | .displayField =>
      [optional "type" .string,
        { required "fields" .strings with skippedIfEmpty := true }]
  | .displayImage => [optional "type" .string, optional "imageType" .string]

/-- No two fields of a record share a name. -/
theorem nodup_names (name : RecordName) :
    ((fieldsOf name).map Field.name).Nodup := by
  cases name <;> decide +kernel

/-! Leaves and the format as a whole. -/

def text? : Json → Option String
  | str text => some text
  | _ => none

def machineInt? (bound : Int) : Json → Option Int
  | num (.int value) =>
      if -bound ≤ value ∧ value < bound then some value else none
  | _ => none

def readLeaf (conversions : Conversions) :
    LeafKind → Json → Option (Option Scalar)
  | .string, json => (text? json).map fun text => some (.text text)
  | .strings, arr items =>
      (items.mapM text?).map fun texts => some (.texts texts)
  | .int32, json =>
      (machineInt? (2 ^ 31) json).map fun value => some (.integer value)
  | .int64, json =>
      (machineInt? (2 ^ 63) json).map fun value => some (.integer value)
  | .float64, num number =>
      (conversions.float64 number).map fun printed => some (.float printed)
  | .bool, .bool value => some (some (.boolean value))
  | .specialBool, json =>
      (conversions.deserializeBoolFromAnything json).map fun value =>
        some (.boolean value)
  | .numberFromString, json =>
      (conversions.deserializeNumberFromString json).map fun value =>
        some (.integer value.toInt)
  | .optionNumberFromString, json =>
      -- A failure is taken for a missing number.
      some (((conversions.deserializeOptionNumberFromString json).getD
        none).map fun value => .integer value.toInt)
  | .optionStringFromNumber, json =>
      (conversions.deserializeStringFromNumber json).map fun text =>
        some (.text text)
  | _, _ => none

def writeScalar : Scalar → Json
  | .text text => str text
  | .texts texts => arr (texts.map str)
  | .integer value => num (.int value)
  | .float printed => num printed
  | .boolean value => bool value

def scalarIsEmpty : Scalar → Bool
  | .texts texts => texts.isEmpty
  | _ => false

/-- Strings, machine integers and booleans come back as they were; what is
converted on the way in does so only if there was nothing to convert. -/
def LeafKept (conversions : Conversions) (leaf : LeafKind) (json : Json) :
    Prop :=
  match leaf with
  | .string | .strings | .int32 | .int64 | .bool => True
  | .float64 => ∃ number printed, json = num number ∧
      conversions.float64 number = some printed ∧
      number.value = printed.value
  | .specialBool => ∃ value, json = bool value
  | .numberFromString | .optionNumberFromString =>
      ∃ value : Int64, json = num (.int value.toInt)
  | .optionStringFromNumber => ∃ text, json = str text

theorem carried_str_iff {json : Json} {text : String} :
    Carried json (str text) ↔ json = str text := by
  cases json <;> simp [Carried]

theorem carried_bool_iff {json : Json} {value : Bool} :
    Carried json (bool value) ↔ json = bool value := by
  cases json <;> simp [Carried]

theorem eq_of_text? {json : Json} {text : String}
    (read : text? json = some text) : json = str text := by
  cases json with
  | str other =>
      cases read
      rfl
  | _ => cases read

theorem eq_of_machineInt? {bound value : Int} {json : Json}
    (read : machineInt? bound json = some value) :
    json = num (.int value) := by
  unfold machineInt? at read
  split at read
  · split at read
    · cases read
      rfl
    · cases read
  · cases read

theorem carried_of_mapM_text? {items : List Json} {texts : List String}
    (all : items.mapM text? = some texts) :
    Carried (arr items) (arr (texts.map str)) := by
  rw [Carried, carriedItems_iff]
  apply (@forall₂_map_of_mapM _ _ _ _ _ _ (fun _ => True) _ _ all ?_).mpr
  · exact fun _ _ => trivial
  · intro item _ text read
    simp [carried_str_iff, eq_of_text? read]

theorem exists_integer_iff {json : Json} {value : Int64}
    (source : json = num (.int value.toInt) ∨ ∃ text, json = str text) :
    (∃ other : Int64, json = num (.int other.toInt)) ↔
      Carried json (num (.int value.toInt)) := by
  rcases source with rfl | ⟨text, rfl⟩ <;> simp [Carried]

theorem leafKept_iff (conversions : Conversions) {leaf : LeafKind}
    {json : Json} {scalar? : Option Scalar}
    (read : readLeaf conversions leaf json = some scalar?)
    (filled : json ≠ null) :
    LeafKept conversions leaf json ↔
      ∃ scalar, scalar? = some scalar ∧ Carried json (writeScalar scalar) := by
  cases leaf with
  | string =>
      obtain ⟨text, given, rfl⟩ := Option.map_eq_some_iff.mp read
      have same := eq_of_text? given
      subst same
      exact ⟨fun _ => ⟨_, rfl, rfl⟩, fun _ => trivial⟩
  | strings =>
      cases json with
      | arr items =>
          obtain ⟨texts, given, rfl⟩ := Option.map_eq_some_iff.mp read
          simpa [LeafKept, writeScalar] using carried_of_mapM_text? given
      | _ => cases read
  | int32 | int64 =>
      rw [readLeaf] at read
      obtain ⟨value, given, rfl⟩ := Option.map_eq_some_iff.mp read
      have same := eq_of_machineInt? given
      subst same
      exact ⟨fun _ => ⟨_, rfl, rfl⟩, fun _ => trivial⟩
  | bool =>
      cases json with
      | bool value =>
          cases read
          exact ⟨fun _ => ⟨_, rfl, rfl⟩, fun _ => trivial⟩
      | _ => cases read
  | float64 =>
      cases json with
      | num number =>
          obtain ⟨printed, given, rfl⟩ := Option.map_eq_some_iff.mp read
          constructor
          · rintro ⟨_, _, same, other, equal⟩
            cases same
            rw [given] at other
            cases other
            exact ⟨_, rfl, equal⟩
          · rintro ⟨_, same, carried⟩
            cases same
            exact ⟨number, printed, rfl, given, carried⟩
      | _ => cases read
  | specialBool =>
      obtain ⟨value, given, rfl⟩ := Option.map_eq_some_iff.mp read
      simp only [LeafKept, Option.some.injEq, exists_eq_left', writeScalar,
        carried_bool_iff]
      constructor
      · rintro ⟨other, rfl⟩
        rw [conversions.bool_self] at given
        cases given
        rfl
      · exact fun same => ⟨value, same⟩
  | numberFromString =>
      obtain ⟨value, given, rfl⟩ := Option.map_eq_some_iff.mp read
      rw [LeafKept, exists_integer_iff
        (conversions.number_source json value given)]
      simp [writeScalar]
  | optionNumberFromString =>
      rw [readLeaf, Option.some.injEq] at read
      subst read
      cases given : (conversions.deserializeOptionNumberFromString
          json).getD none with
      | none =>
          rw [LeafKept]
          constructor
          · rintro ⟨value, rfl⟩
            rw [conversions.optionNumber_self] at given
            cases given
          · rintro ⟨scalar, impossible, -⟩
            cases impossible
      | some value =>
          have source : conversions.deserializeOptionNumberFromString json =
              some (some value) := by
            cases outcome : conversions.deserializeOptionNumberFromString
                json with
            | none => simp [outcome] at given
            | some found => simpa [outcome] using given
          rw [LeafKept, exists_integer_iff
            (conversions.optionNumber_source json value source)]
          simp [writeScalar]
  | optionStringFromNumber =>
      obtain ⟨text, given, rfl⟩ := Option.map_eq_some_iff.mp read
      simp only [LeafKept, Option.some.injEq, exists_eq_left', writeScalar,
        carried_str_iff]
      constructor
      · rintro ⟨other, rfl⟩
        rw [conversions.string_self] at given
        cases given
        rfl
      · exact fun same => ⟨text, same⟩

theorem scalarIsEmpty_iff {json : Json} {scalar : Scalar}
    (carried : Carried json (writeScalar scalar)) :
    scalarIsEmpty scalar = true ↔ json = arr [] := by
  cases scalar with
  | texts texts =>
      cases json with
      | arr items =>
          have lengths := (carriedItems_iff.mp carried).length_eq
          rw [List.length_map] at lengths
          simp only [scalarIsEmpty, List.isEmpty_iff, arr.injEq]
          grind
      | _ => simp [writeScalar, Carried] at carried
  | _ => cases json <;> simp [writeScalar, Carried, scalarIsEmpty] at carried ⊢

def format (conversions : Conversions) :
    Format RecordName LeafKind Scalar where
  fields := fieldsOf
  read := readLeaf conversions
  write := writeScalar
  isEmpty := scalarIsEmpty
  Kept := LeafKept conversions
  distinct := nodup_names
  kept_iff := leafKept_iff conversions
  isEmpty_iff := scalarIsEmpty_iff

/-- Conversions that convert nothing. -/
def plainConversions : Conversions where
  float64 := some
  deserializeBoolFromAnything
    | .bool value => some value
    | _ => none
  deserializeNumberFromString
    | num (.int value) =>
        if (Int64.ofInt value).toInt = value then some (Int64.ofInt value)
        else none
    | _ => none
  deserializeOptionNumberFromString
    | num (.int value) =>
        if (Int64.ofInt value).toInt = value then
          some (some (Int64.ofInt value))
        else
          none
    | _ => none
  deserializeStringFromNumber := text?
  bool_self _ := rfl
  number_self value := by simp
  number_source json value read := by
    split at read
    · split at read
      next same =>
        cases read
        exact .inl (by rw [same])
      next => cases read
    · cases read
  optionNumber_self value := by simp
  optionNumber_source json value read := by
    split at read
    · split at read
      next same =>
        cases read
        exact .inl (by rw [same])
      next => cases read
    · cases read
  string_self _ := rfl
  string_source _ _ read := .inl (eq_of_text? read)

end Replex.Payload
