import Replex.Data.Text
import Replex.Data.DecimalText

namespace Replex

open Data

/-! The part of Plex's payloads the proxy reads or rewrites. -/

/-- Split at the commas, and nothing else. -/
def deserializeCommaSeperatedString (value : Option String) :
    Option (List String) :=
  value.map (Text.split ',')

inductive Platform where
  | android | ios | tvOS | safari | chrome | roku | web | generic
  deriving DecidableEq, Repr

inductive Style where
  | hero | shelf
  deriving DecidableEq, Repr

structure Resolution where
  height : Int64
  width : Int64
  deriving DecidableEq

structure PlexContext where
  platform : Option Platform := none
  username : Option String := none
  screenResolution : List Resolution := []
  product : Option String := none
  count : Option Int32 := none
  clientIdentifier : Option String := none
  token : Option String := none
  model : Option String := none
  device : Option String := none
  contentDirectoryId : Option (List String) := none
  pinnedContentDirectoryId : Option (List String) := none
  containerSize : Option Int32 := none
  containerStart : Option Int32 := none
  forwardedProto : Option String := none
  forwardedHost : Option String := none
  excludeContinueWatching : Bool := false
  host : Option String := none
  deriving DecidableEq

structure Stream where
  id : Int64
  streamType : Option Int64 := none
  decision : Option String := none
  deriving DecidableEq

structure MediaPart where
  id : Int64
  key : Option String := none
  streams : List Stream := []
  deriving DecidableEq

structure Media where
  id : Int64
  bitrate : Option Int64 := none
  videoResolution : Option String := none
  height : Option Int64 := none
  width : Option Int64 := none
  parts : List MediaPart := []
  deriving DecidableEq

structure Image where
  alt : Option String := none
  type : String
  url : String
  deriving DecidableEq

structure Label where
  tag : String
  deriving DecidableEq

structure DisplayField where
  type : Option String
  fields : List String
  deriving DecidableEq

structure DisplayImage where
  type : Option String
  imageType : Option String
  deriving DecidableEq

structure Meta where
  displayFields : List DisplayField
  displayImages : List DisplayImage
  deriving DecidableEq

structure MetaData where
  ratingKey : Option String := none
  key : Option String := none
  guid : Option String := none
  title : String := ""
  thumb : Option String := none
  art : Option String := none
  parentGuid : Option String := none
  librarySectionId : Option Int64 := none
  type : String := ""
  context : Option String := none
  hubIdentifier : Option String := none
  size : Option Int32 := none
  style : Option String := none
  «meta» : Option Meta := none
  metadata : List MetaData := []
  directory : List MetaData := []
  video : List MetaData := []
  leafCount : Option Int32 := none
  viewedLeafCount : Option Int32 := none
  viewCount : Option Int32 := none
  labels : List Label := []
  media : List Media := []
  userState : Option Bool := none
  images : List Image := []

namespace MetaData

def childNodes (item : MetaData) : List MetaData :=
  item.metadata ++ item.directory ++ item.video

mutual
/-- An item and everything at any depth below it. -/
def nodes (item : MetaData) : List MetaData :=
  match item with
  | item@{ metadata, directory, video, .. } =>
      item :: (listNodes metadata ++ listNodes directory ++ listNodes video)

def listNodes : List MetaData → List MetaData
  | [] => []
  | item :: rest => nodes item ++ listNodes rest
end

theorem mem_listNodes {list : List MetaData} {node : MetaData} :
    node ∈ listNodes list ↔ ∃ item ∈ list, node ∈ item.nodes := by
  induction list with
  | nil => simp [listNodes]
  | cons item list hypothesis => simp [listNodes, hypothesis]

theorem mem_nodes {item node : MetaData} :
    node ∈ item.nodes ↔
      node = item ∨ ∃ child ∈ item.childNodes, node ∈ child.nodes := by
  cases item
  simp [nodes, childNodes, mem_listNodes, or_and_right, exists_or]

theorem forall_mem_nodes {item : MetaData} {property : MetaData → Prop} :
    (∀ node ∈ item.nodes, property node) ↔
      property item ∧
        ∀ child ∈ item.childNodes, ∀ node ∈ child.nodes, property node := by
  constructor
  · intro every
    refine ⟨every item (mem_nodes.mpr (.inl rfl)), ?_⟩
    intro child listed node among
    exact every node (mem_nodes.mpr (.inr ⟨child, listed, among⟩))
  · rintro ⟨top, below⟩ node among
    rcases mem_nodes.mp among with rfl | ⟨child, listed, among⟩
    · exact top
    · exact below child listed node among

theorem self_mem_nodes (item : MetaData) : item ∈ item.nodes :=
  mem_nodes.mpr (.inl rfl)

theorem tree_induction {motive : MetaData → Prop}
    (node : ∀ item, (∀ child ∈ item.childNodes, motive child) → motive item)
    (item : MetaData) : motive item := by
  refine @MetaData.rec motive (fun list => ∀ child ∈ list, motive child)
    ?_ ?_ ?_ item
  · intro _ _ _ _ _ _ _ _ _ _ _ _ _ _ metadata directory video _ _ _ _ _ _ _
      metadataHolds directoryHolds videoHolds
    refine node _ fun child member => ?_
    simp only [childNodes, List.mem_append] at member
    rcases member with (member | member) | member
    · exact metadataHolds child member
    · exact directoryHolds child member
    · exact videoHolds child member
  · intro child member
    cases member
  · intro head tail headHolds tailHolds child member
    rcases List.mem_cons.mp member with rfl | member
    · exact headHolds
    · exact tailHolds child member

end MetaData

def sizeOfLength (length : Nat) : Int32 :=
  if length < 2 ^ 31 then Int32.ofNat length else Int32.maxValue

def sizeOfLength64 (length : Nat) : Int64 :=
  if length < 2 ^ 63 then Int64.ofNat length else Int64.maxValue

namespace MetaData

/-- The list `children_mut` exposes, rewritten by `change`. -/
def modifyChildren (change : List MetaData → List MetaData)
    (item : MetaData) : MetaData :=
  if !item.metadata.isEmpty then
    { item with metadata := change item.metadata }
  else if !item.video.isEmpty then
    { item with video := change item.video }
  else if !item.directory.isEmpty then
    { item with directory := change item.directory }
  else
    { item with metadata := change item.metadata }

/-- Only one of the child lists changes. -/
theorem exists_modifyChildren (change : List MetaData → List MetaData)
    (item : MetaData) :
    ∃ metadata directory video, item.modifyChildren change =
      { item with metadata, directory, video } := by
  unfold modifyChildren
  split
  · exact ⟨_, _, _, rfl⟩
  · split
    · exact ⟨_, _, _, rfl⟩
    · split
      · exact ⟨_, _, _, rfl⟩
      · exact ⟨_, _, _, rfl⟩

def childrenMut (item : MetaData) : List MetaData :=
  if !item.metadata.isEmpty then item.metadata
  else if !item.video.isEmpty then item.video
  else if !item.directory.isEmpty then item.directory
  else item.metadata

/-- Unlike `children_mut`, reads `directory` before `video`. -/
def children (item : MetaData) : List MetaData :=
  if !item.metadata.isEmpty then item.metadata
  else if !item.directory.isEmpty then item.directory
  else if !item.video.isEmpty then item.video
  else []

/-- Replaces the first nonempty list. With all three empty the value is
dropped and only the size changes. -/
def setChildren (item : MetaData) (value : List MetaData) : MetaData :=
  let item :=
    if !item.metadata.isEmpty then { item with metadata := value }
    else if !item.directory.isEmpty then { item with directory := value }
    else if !item.video.isEmpty then { item with video := value }
    else item
  { item with size := some (sizeOfLength value.length) }

def isHub (item : MetaData) : Bool :=
  item.hubIdentifier.isSome

def isCollectionHub (item : MetaData) : Bool :=
  item.isHub && item.context.any fun context =>
    Text.startsWith context "hub.custom.collection"

def hasLabel (item : MetaData) (name : String) : Bool :=
  item.labels.any fun label =>
    Text.toLowercase label.tag == Text.toLowercase name

/-- `view_count` stays set on a show that was marked unwatched, so shows are
judged by their leaves. -/
def isWatched (item : MetaData) : Bool :=
  (item.leafCount.isNone && item.viewCount.any fun count => decide (0 < count))
    || item.viewedLeafCount.any fun viewed => item.leafCount.getD 0 == viewed

end MetaData

structure MediaContainer where
  size : Option Int64 := none
  totalSize : Option Int32 := none
  offset : Option Int32 := none
  librarySectionId : Option Int64 := none
  hub : List MetaData := []
  metadata : List MetaData := []
  video : List MetaData := []
  directory : List MetaData := []
  generalDecisionCode : Option Int64 := none
  «meta» : Option Meta := none

namespace MediaContainer

/-- The four child lists, in the order in which every accessor prefers them. -/
def lists (container : MediaContainer) : List (List MetaData) :=
  [container.metadata, container.hub, container.video, container.directory]

def withLists (container : MediaContainer) :
    List (List MetaData) → MediaContainer
  | [metadata, hub, video, directory] =>
      { container with metadata, hub, video, directory }
  | _ => container

def children (container : MediaContainer) : List MetaData :=
  if !container.metadata.isEmpty then container.metadata
  else if !container.hub.isEmpty then container.hub
  else if !container.video.isEmpty then container.video
  else container.directory

def modifyChildren (change : List MetaData → List MetaData)
    (container : MediaContainer) : MediaContainer :=
  if !container.metadata.isEmpty then
    { container with metadata := change container.metadata }
  else if !container.hub.isEmpty then
    { container with hub := change container.hub }
  else if !container.video.isEmpty then
    { container with video := change container.video }
  else if !container.directory.isEmpty then
    { container with directory := change container.directory }
  else
    { container with metadata := change container.metadata }

def setChildren (container : MediaContainer) (value : List MetaData) :
    MediaContainer :=
  let container :=
    if !container.metadata.isEmpty then { container with metadata := value }
    else if !container.hub.isEmpty then { container with hub := value }
    else if !container.video.isEmpty then { container with video := value }
    else if !container.directory.isEmpty then
      { container with directory := value }
    else container
  { container with size := some (sizeOfLength64 value.length) }

end MediaContainer

end Replex
