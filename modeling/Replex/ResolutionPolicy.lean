import Replex.Models
import Replex.Data.FirstMin
import Mathlib.Order.Lattice

namespace Replex

open Data

/-! Per-account limits: what a policy permits and which version it prefers. -/

inductive ResolutionLimit where
  | p480 | p720 | p1080 | p2160 | unlimited
  deriving DecidableEq, Repr

namespace ResolutionLimit

/-- Later variants are laxer. -/
def rank : ResolutionLimit → Nat
  | p480 => 0
  | p720 => 1
  | p1080 => 2
  | p2160 => 3
  | unlimited => 4

theorem rank_injective : Function.Injective rank := by
  intro left right equation
  cases left <;> cases right <;> first | rfl | cases equation

instance : LinearOrder ResolutionLimit :=
  LinearOrder.lift' rank rank_injective

def parse (text : String) : Option ResolutionLimit :=
  match Text.toLowercase (Text.trim text) with
  | "480" => some p480
  | "720" => some p720
  | "1080" | "2k" => some p1080
  | "4k" | "2160" => some p2160
  | "unlimited" | "" => some unlimited
  | _ => none

def isUnrestricted (limit : ResolutionLimit) : Bool :=
  limit == unlimited

end ResolutionLimit

structure PolicyEntry where
  username : Option String := none
  uuid : Option String := none
  maxResolution : ResolutionLimit
  maxBitrate : Option Int64 := none
  visibleCollections : List String := []
  deriving DecidableEq

structure UserIdentity where
  id : Int64
  uuid : String
  username : String
  deriving DecidableEq

inductive IdentitySource where
  | verifiedPlex | sharedResource | sharedServer | tokenFingerprint
  | legacyClientIdentifier | usernameFallback
  deriving DecidableEq, Repr

structure ResolvedIdentity where
  identity : UserIdentity
  source : IdentitySource
  deriving DecidableEq

structure ResolutionPolicy where
  limit : ResolutionLimit
  maxBitrate : Option Int64 := none
  hiddenCollections : List String := []
  deriving DecidableEq

def ResolutionPolicy.unrestricted : ResolutionPolicy where
  limit := .unlimited

def ResolutionPolicy.isUnrestricted (policy : ResolutionPolicy) : Bool :=
  policy.limit.isUnrestricted

theorem ResolutionPolicy.isUnrestricted_eq_false_iff
    (policy : ResolutionPolicy) :
    policy.isUnrestricted = false ↔ policy.limit ≠ .unlimited := by
  simp [isUnrestricted, ResolutionLimit.isUnrestricted]

def matchedEntry (policies : List PolicyEntry) (identity : UserIdentity) :
    Option PolicyEntry :=
  (policies.find? fun entry => entry.uuid == some identity.uuid).or
    (policies.find? fun entry => entry.username == some identity.username)

def resolvePolicy (policies : List PolicyEntry)
    (defaultLimit : ResolutionLimit)
    (defaultHiddenCollections : List String) (identity : UserIdentity) :
    ResolutionPolicy :=
  let matched := matchedEntry policies identity
  let visible := (matched.map PolicyEntry.visibleCollections).getD []
  { limit := (matched.map PolicyEntry.maxResolution).getD defaultLimit
    maxBitrate := matched.bind PolicyEntry.maxBitrate
    hiddenCollections :=
      defaultHiddenCollections.filter fun title => !visible.contains title }

def classifyDimensions (width height : Option Int64) :
    Option ResolutionLimit :=
  match width, height with
  | some width, some height =>
      if ¬ (0 < width ∧ 0 < height) then none
      else if 4096 < width ∨ 2160 < height then none
      else if 1920 < width ∨ 1080 < height then some .p2160
      else if 1280 < width ∨ 720 < height then some .p1080
      else if 720 < width ∨ 480 < height then some .p720
      else some .p480
  | _, _ => none

/-- A label and dimensions that disagree are read as the higher of the two. -/
def classify (media : Media) : Option ResolutionLimit :=
  match media.videoResolution.bind ResolutionLimit.parse,
      classifyDimensions media.width media.height with
  | some text, some dimensions => some (max text dimensions)
  | some text, none => some text
  | none, dimensions => dimensions

/-- A version that cannot be classified is refused under any limit. -/
def mediaAllowed (media : Media) (policy : ResolutionPolicy) : Bool :=
  policy.isUnrestricted ||
    match classify media with
    | some limit => decide (limit ≤ policy.limit)
    | none => false

def allowedMedia (media : List Media) (policy : ResolutionPolicy) :
    List Media :=
  media.filter (mediaAllowed · policy)

/-- Pixel count; products wrap as the release build's `i64` does. -/
def Media.density (media : Media) : Int64 :=
  media.width.getD 0 * media.height.getD 0

def selectionKey (screenResolution : Option (Int64 × Int64))
    (media : Media) : Int :=
  match screenResolution with
  | some (width, height) => (media.density - width * height).abs.toInt
  | none => (-media.density).toInt

def bestAllowedMedia (media : List Media) (policy : ResolutionPolicy)
    (screenResolution : Option (Int64 × Int64)) : Option Media :=
  FirstMin.minByKey (selectionKey screenResolution) (allowedMedia media policy)

theorem mem_allowedMedia {media : List Media} {policy : ResolutionPolicy}
    {version : Media} :
    version ∈ allowedMedia media policy ↔
      version ∈ media ∧ mediaAllowed version policy = true :=
  List.mem_filter

theorem bestAllowedMedia_mem {media : List Media} {policy : ResolutionPolicy}
    {screen : Option (Int64 × Int64)} {best : Media}
    (selected : bestAllowedMedia media policy screen = some best) :
    best ∈ media ∧ mediaAllowed best policy = true :=
  mem_allowedMedia.mp (FirstMin.minByKey_mem selected)

/-- No permitted version is closer to the screen. -/
theorem bestAllowedMedia_least {media : List Media}
    {policy : ResolutionPolicy} {screen : Option (Int64 × Int64)}
    {best version : Media}
    (selected : bestAllowedMedia media policy screen = some best)
    (listed : version ∈ media)
    (allowed : mediaAllowed version policy = true) :
    selectionKey screen best ≤ selectionKey screen version :=
  FirstMin.minByKey_le selected version (mem_allowedMedia.mpr ⟨listed, allowed⟩)

theorem bestAllowedMedia_eq_none_iff {media : List Media}
    {policy : ResolutionPolicy} {screen : Option (Int64 × Int64)} :
    bestAllowedMedia media policy screen = none ↔
      ∀ version ∈ media, mediaAllowed version policy = false := by
  rw [bestAllowedMedia, FirstMin.minByKey_eq_none_iff, allowedMedia,
    List.filter_eq_nil_iff]
  simp

/-! The runtime policy every request reads a snapshot of. -/

structure PolicySnapshot where
  enabled : Bool
  entries : List PolicyEntry
  defaultLimit : ResolutionLimit
  failClosed : Bool
  hiddenCollections : List String
  generation : UInt64

def PolicySnapshot.resolve (snapshot : PolicySnapshot)
    (identity : UserIdentity) : ResolutionPolicy :=
  resolvePolicy snapshot.entries snapshot.defaultLimit
    snapshot.hiddenCollections identity

end Replex
