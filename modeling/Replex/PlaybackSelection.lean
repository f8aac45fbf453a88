import Mathlib.Data.List.MinMax
import Mathlib.Data.Prod.Lex
import Replex.Data.StableSort
import Replex.ResolutionPolicy

namespace Replex.PlaybackSelection

open Data

/-! Which of an item's versions the optional playback hoops prefer, by the
number of pixels and always under its original index. -/

/-- `-1` and absence mean the first version. -/
def requestedMediaIndex : Option String → Option Nat
  | none => some 0
  | some value => if value = "-1" then some 0 else DecimalText.usize? value

def unsigned128? (value : Int64) : Option Nat :=
  if 0 ≤ value then some value.toInt.toNat else none

def checkedMul128 (left right : Nat) : Option Nat :=
  if left * right < 2 ^ 128 then some (left * right) else none

def density (media : Media) : Option Nat := do
  let width ← unsigned128? (← media.width)
  let height ← unsigned128? (← media.height)
  checkedMul128 width height

/-- Versions without dimensions come last, and of two equally close ones the
larger comes first. -/
def fitKey (screenDensity : Nat) (media : Media) : Nat ×ₗ Nat ×ₗ Nat :=
  match density media with
  | some value =>
      toLex (0, toLex ((value - screenDensity) + (screenDensity - value),
        2 ^ 128 - 1 - value))
  | none => toLex (1, toLex (2 ^ 128 - 1, 2 ^ 128 - 1))

def bestFitIndex (media : List Media) (screen : Int64 × Int64) :
    Option Nat := do
  let width ← unsigned128? screen.1
  let height ← unsigned128? screen.2
  let screenDensity ← checkedMul128 width height
  let best ← media.zipIdx.argmin fun entry => fitKey screenDensity entry.1
  some best.2

def fallbackEligible (media : List Media) (selectedIndex : Nat)
    (fallbackResolution : String) (policy : Option ResolutionPolicy)
    (index : Nat) : Bool :=
  decide (index ≠ selectedIndex) &&
    media[index]?.any fun item =>
      (item.videoResolution.any fun value =>
        !Text.eqIgnoreAsciiCase value fallbackResolution) &&
      policy.all (mediaAllowed item)

def densityAt (media : List Media) (index : Nat) : Nat :=
  (media[index]?.bind density).getD 0

def fallbackIndexes (media : List Media) (selectedIndex : Nat)
    (fallbackResolution : String) (policy : Option ResolutionPolicy) :
    List Nat :=
  StableSort.byFallingWeight (densityAt media)
    ((List.range media.length).filter
      (fallbackEligible media selectedIndex fallbackResolution policy))

def decidedPart (decision : MediaContainer) : Option MediaPart := do
  let item ← decision.metadata.head?
  let media ← item.media.head?
  media.parts.head?

def decisionIsTranscoding (decision : MediaContainer) : Bool :=
  (decidedPart decision).any fun part =>
    part.streams.any fun stream =>
      stream.streamType == some 1 && stream.decision == some "transcode"

section

variable {media : List Media} {selectedIndex : Nat}
  {fallbackResolution : String} {policy : Option ResolutionPolicy}

theorem mem_fallbackIndexes {index : Nat} :
    index ∈ fallbackIndexes media selectedIndex fallbackResolution policy ↔
      fallbackEligible media selectedIndex fallbackResolution policy
        index = true := by
  unfold fallbackIndexes
  rw [StableSort.mem_byFallingWeight, List.mem_filter, List.mem_range]
  apply and_iff_right_of_imp
  intro eligible
  by_contra outside
  have absent : media[index]? = none :=
    List.getElem?_eq_none (Nat.le_of_not_lt outside)
  simp [fallbackEligible, absent] at eligible

theorem allowed_of_fallbackEligible {index : Nat} {limits : ResolutionPolicy}
    (eligible : fallbackEligible media selectedIndex fallbackResolution
      (some limits) index = true) :
    media[index]?.any (mediaAllowed · limits) = true := by
  cases found : media[index]? with
  | none => simp [fallbackEligible, found] at eligible
  | some item =>
      simp only [fallbackEligible, found, Option.any_some, Option.all_some,
        Bool.and_eq_true] at eligible
      exact eligible.2.2

/-- Foremost is the eligible version with the most pixels, the first of them
in the list. -/
theorem head_fallbackIndexes_eq_some_iff {index : Nat} :
    (fallbackIndexes media selectedIndex fallbackResolution
        policy).head? = some index ↔
      fallbackEligible media selectedIndex fallbackResolution policy
          index = true ∧
        ∀ other, fallbackEligible media selectedIndex fallbackResolution policy
            other = true →
          other = index ∨
            StableSort.Before (densityAt media) index other := by
  have ascending : ((List.range media.length).filter (fallbackEligible media
      selectedIndex fallbackResolution policy)).Pairwise (· < ·) :=
    List.Pairwise.filter _ List.pairwise_lt_range
  have members (other : Nat) : other ∈ (List.range media.length).filter
      (fallbackEligible media selectedIndex fallbackResolution policy) ↔
        fallbackEligible media selectedIndex fallbackResolution policy
          other = true := by
    rw [← mem_fallbackIndexes, fallbackIndexes, StableSort.mem_byFallingWeight]
  unfold fallbackIndexes
  rw [StableSort.head_byFallingWeight_eq_some_iff ascending]
  simp only [members]

end

end Replex.PlaybackSelection
