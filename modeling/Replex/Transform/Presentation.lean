import Replex.Transform.Builder

namespace Replex

open Data

/-! What a client sees changes with its settings: rows are dropped, merged and
restyled. No policy is involved. -/

/-- What Plex says about collections. A failed lookup answers nothing. -/
structure Lookups where
  collection : Int32 → Option MediaContainer
  sectionCollections : Int64 → Option MediaContainer

structure Presentation extends Lookups where
  settings : DisplaySettings
  options : PlexContext

section

variable (presentation : Presentation)

/-! Rows of collections. -/

def getCollectionIdFromHub (hub : MetaData) : Option Int32 :=
  (hub.hubIdentifier.map (Text.splitLast '.')).bind DecimalText.int32?

def hubRestrictionFilter (item : MetaData) : Bool :=
  if !presentation.settings.hubRestrictions then
    true
  else if !item.isCollectionHub then
    true
  else if item.size.getD 0 = 0 then
    false
  else
    let sectionId := item.librarySectionId.or
      (item.hubIdentifier.bind fun identifier =>
        ((Text.split '.' identifier)[2]?).bind DecimalText.int64?)
    match sectionId.bind presentation.sectionCollections with
    | none => true
    | some collections =>
        let ids := collections.children.filterMap MetaData.ratingKey
        (item.hubIdentifier.map (Text.splitLast '.')).all ids.contains

def hubRestrictionTransform : Transform where
  filterMetadata := hubRestrictionFilter presentation

def excludeWatched (hub : MetaData) : Bool :=
  if !hub.isCollectionHub then
    presentation.settings.excludeWatched
  else
    match getCollectionIdFromHub hub with
    | none => presentation.settings.excludeWatched
    | some id =>
        match presentation.collection id with
        | none => false
        | some collection =>
            presentation.settings.excludeWatched ||
              collection.metadata.head?.any fun item =>
                item.hasLabel "REPLEX_EXCLUDE_WATCHED"

def hubWatchedTransform : Transform where
  transformMetadata item :=
    if item.isHub && excludeWatched presentation item then
      item.modifyChildren (·.filter fun child => !child.isWatched)
    else
      item

/-! Hero rows. -/

structure ClientHeroStyle where
  includeMeta : Bool := true
  type : String := "mixed"
  style : Option String := some "hero"
  childType : Option String := none
  coverArtAsThumb : Bool := true
  coverArtAsArt : Bool := false

def isTv (context : PlexContext) : Bool :=
  let product := Text.toLowercase (context.product.getD "")
  let device := Text.toLowercase (context.device.getD "")
  let model := Text.toLowercase (context.model.getD "")
  Text.contains product "(tv)" || Text.contains product "apple tv" ||
    Text.contains product "android tv" || Text.contains device "apple tv" ||
    Text.contains model "appletv"

def ClientHeroStyle.fromContext (context : PlexContext) : ClientHeroStyle :=
  match context.platform.getD .generic with
  | .android =>
      { style := if isTv context then some "hero" else none
        type := "clip"
        childType := some "clip"
        coverArtAsArt := true }
  | .roku => {}
  | .ios | .tvOS => { coverArtAsArt := true, coverArtAsThumb := false }
  | _ =>
      if Text.toLowercase (context.product.getD "") = "plex web" then
        { coverArtAsArt := true }
      else
        {}

def heroMeta : Meta where
  displayFields :=
    [{ type := some "movie", fields := ["title", "originallyAvailableAt"] },
      { type := some "show", fields := ["title", "childCount"] },
      { type := some "clip", fields := ["title", "originallyAvailableAt"] },
      { type := some "mixed", fields := ["title", "originallyAvailableAt"] }]
  displayImages :=
    ["hero", "mixed", "clip", "movie", "show"].map fun type =>
      { type := some type, imageType := some "coverArt" }

/-- The value after `prefix::` in the first label that has one. -/
def MetaData.getLabelValue (item : MetaData) (start : String) :
    Option String :=
  let search := Text.toLowercase (start ++ "::")
  (item.labels.find? fun label =>
    Text.startsWith (Text.toLowercase label.tag) search).map fun label =>
      String.ofList (label.tag.toList.drop search.toList.length)

/-- Rewrites the first `coverArt` and drops the others; every other image
stays. -/
def replaceCoverArt (title coverArt : String) : List Image → List Image
  | [] => []
  | image :: rest =>
      if image.type = "coverArt" then
        { image with url := coverArt, alt := some title } ::
          rest.filter fun image => image.type ≠ "coverArt"
      else
        image :: replaceCoverArt title coverArt rest

def upsertCoverArt (images : List Image) (title coverArt : String) :
    List Image :=
  if images.any fun image => image.type == "coverArt" then
    replaceCoverArt title coverArt images
  else
    images ++ [{ type := "coverArt", url := coverArt, alt := some title }]

def heroCoverArt (options : PlexContext) (item : MetaData) : Option String :=
  match item.getLabelValue "REPLEXHEROURL" with
  | some customUrl => some customUrl
  | none => do
      let guid ← item.guid
      let guid :=
        if Text.startsWith guid "plex://episode" then
          item.parentGuid.getD guid
        else
          guid
      let token ← options.token
      let host ← options.forwardedHost.or options.host
      some (options.forwardedProto.getD "http" ++ "://" ++ host ++
        "/replex/image/hero/" ++ Text.replace guid "plex://" "" ++
        "?X-Plex-Token=" ++ token)

def mediaStyleMetadata (options : PlexContext) (style : Style)
    (item : MetaData) : MetaData :=
  match style with
  | .shelf => item
  | .hero =>
      let definition := ClientHeroStyle.fromContext options
      let item := { item with type := definition.childType.getD item.type }
      match heroCoverArt options item with
      | none => item
      | some coverArt =>
          { item with
            images := upsertCoverArt item.images item.title coverArt
            art := if definition.coverArtAsArt then some coverArt else item.art
            thumb :=
              if definition.coverArtAsThumb then some coverArt
              else item.thumb }

def mediaStyleTransform (style : Style) : Transform where
  transformMetadata := mediaStyleMetadata presentation.options style
  transformMediacontainer container :=
    match style with
    | .hero => { container with «meta» := some heroMeta }
    | .shelf => container

def heroChild (options : PlexContext) (child : MetaData) : MetaData :=
  mediaStyleMetadata options .hero
    { child with
      type := (ClientHeroStyle.fromContext options).childType.getD child.type }

def labelledHero (collection : Option MediaContainer) : Bool :=
  collection.any fun container =>
    container.children.head?.any fun item => item.hasLabel "REPLEXHERO"

def isHero (hub : MetaData) : Bool :=
  hub.isHub &&
    (hub.style == some "hero" ||
      ((presentation.settings.heroRows.getD []).any fun row =>
        row ≠ "" && hub.hubIdentifier.any (Text.contains · row)) ||
      (hub.isCollectionHub &&
        (getCollectionIdFromHub hub).any fun id =>
          labelledHero (presentation.collection id)))

def hubStyleMetadata (item : MetaData) : MetaData :=
  if isHero presentation item then
    let style := ClientHeroStyle.fromContext presentation.options
    let item :=
      { item with
        style := style.style
        type := style.type
        «meta» := if style.includeMeta then some heroMeta else item.meta }
    item.setChildren (item.children.map (heroChild presentation.options))
  else
    item

def hubStyleTransform : Transform where
  transformMetadata := hubStyleMetadata presentation

/-! Merged rows. -/

/-- Alternates until one list ends, then goes on with the other. -/
def interleave {α : Type} : List α → List α → List α
  | [], right => right
  | left, [] => left
  | leftHead :: left, rightHead :: right =>
      leftHead :: rightHead :: interleave left right

theorem mem_interleave {α : Type} {item : α} {left right : List α} :
    item ∈ interleave left right ↔ item ∈ left ∨ item ∈ right := by
  induction left generalizing right with
  | nil => simp [interleave]
  | cons head left hypothesis =>
      cases right with
      | nil => simp [interleave]
      | cons rightHead right =>
          simp only [interleave, List.mem_cons, hypothesis]
          grind

def stripChildrenKey (key : String) : String :=
  ["/hubs/library/collections/", "/library/collections/", "/children"].foldl
    (fun key part => Text.replace key part "") key

def mergeChildrenKeys (left right : String) : String :=
  "/library/collections/" ++ stripChildrenKey left ++ "," ++
    stripChildrenKey right ++ "/children"

/-- Merges a collection row into the earlier row of the same title, when both
have keys. -/
def interleaveHub (newHubs : List MetaData) (hub : MetaData) :
    List MetaData :=
  if hub.size.getD 0 = 0 then
    newHubs
  else if !hub.isCollectionHub then
    newHubs ++ [hub]
  else
    match newHubs.findIdx? fun other => other.title == hub.title with
    | none => newHubs ++ [hub]
    | some index =>
        match newHubs[index]? with
        | none => newHubs
        | some earlier =>
            match earlier.key, hub.key with
            | some leftKey, some rightKey =>
                let merged :=
                  { earlier with
                    key := some (mergeChildrenKeys leftKey rightKey) }
                newHubs.set index (merged.setChildren
                  (interleave earlier.children hub.children))
            | _, _ => newHubs ++ [hub]

def hubInterleaveTransform : Transform where
  transformMediacontainer container :=
    if presentation.settings.interleave then
      container.setChildren (container.children.foldl interleaveHub [])
    else
      container

/-! User state and keys. -/

def hideUserState (item : MetaData) : MetaData :=
  { item with
    userState :=
      if presentation.settings.disableUserState then some false
      else item.userState
    leafCount :=
      if presentation.settings.disableLeafCount then none else item.leafCount }

def userStateTransform : Transform where
  transformMetadata item :=
    if item.isHub then
      item.modifyChildren (·.map (hideUserState presentation))
    else
      hideUserState presentation item

def hubKeyTransform : Transform where
  transformMetadata item :=
    match item.isHub, item.key with
    | true, some key =>
        if Text.startsWith key "/replex" then
          item
        else
          { item with
            key := some ("/replex/" ++ item.style.getD "shelf" ++ key) }
    | _, _ => item

/-! The children of merged collections. -/

/-- A page of a collection's children, as Plex answers it. -/
abbrev ChildrenLoader : Type :=
  (id : Nat) → (offset limit : Int32) → Option MediaContainer

def shownChildren (watchedExcluded : Bool) (children : MediaContainer) :
    List MetaData :=
  if watchedExcluded then
    (children.modifyChildren
      (·.filter fun child => !child.isWatched)).children
  else
    children.children

/-- The row of one collection, empty when a lookup fails. -/
def collectionRow (load : ChildrenLoader) (id : Nat) (offset limit : Int32) :
    List MetaData :=
  match presentation.collection (Int32.ofNat id),
      load id offset limit with
  | some collection, some children =>
      let watchedExcluded := presentation.settings.excludeWatched ||
        collection.metadata.head?.any fun item =>
          item.hasLabel "REPLEX_EXCLUDE_WATCHED"
      shownChildren watchedExcluded children
  | _, _ => []

def libraryInterleaveTransform (load : ChildrenLoader) (ids : List Nat)
    (offset limit : Int32) : Transform where
  transformMediacontainer container :=
    if presentation.settings.interleave then
      let rows := ids.map fun id => collectionRow presentation load id
        offset limit
      { container with
        totalSize := some (rows.foldl
          (fun total row => total + Int32.ofNat row.length) 0)
        metadata := rows.foldl interleave [] }
    else
      container

def collectionStyleTransform (ids : List Nat) : Transform where
  transformMediacontainer container :=
    match ids with
    | [] => container
    | id :: _ =>
        if labelledHero (presentation.collection (Int32.ofNat id)) then
          let styled := { container with «meta» := some heroMeta }
          styled.setChildren
            (container.children.map (heroChild presentation.options))
        else
          container

end

end Replex
