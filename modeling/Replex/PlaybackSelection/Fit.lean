import Replex.PlaybackSelection

namespace Replex.PlaybackSelection

open Data FirstMin

/-! The automatic choice in exact integers. The widened products of two
64-bit dimensions never leave the 128-bit range, so the checked arithmetic of
the key never gives up. -/

/-- The pixels of a version whose two dimensions are known and not negative. -/
def knownPixels (media : Media) : Option Nat :=
  match media.width, media.height with
  | some width, some height =>
      if 0 ≤ width ∧ 0 ≤ height then
        some (width.toInt.toNat * height.toInt.toNat)
      else none
  | _, _ => none

def screenPixels (screen : Int64 × Int64) : Nat :=
  screen.1.toInt.toNat * screen.2.toInt.toNat

def distance (screenDensity pixels : Nat) : Nat :=
  (pixels - screenDensity) + (screenDensity - pixels)

section

variable {media : List Media} {screen : Int64 × Int64}

theorem toNat_lt (value : Int64) : value.toInt.toNat < 2 ^ 63 := by
  have := value.toInt_lt
  omega

theorem product_lt (left right : Int64) :
    left.toInt.toNat * right.toInt.toNat < 2 ^ 126 :=
  calc
    left.toInt.toNat * right.toInt.toNat < 2 ^ 63 * 2 ^ 63 :=
      Nat.mul_lt_mul'' (toNat_lt left) (toNat_lt right)
    _ = 2 ^ 126 := by decide

theorem knownPixels_lt {version : Media} {pixels : Nat}
    (known : knownPixels version = some pixels) : pixels < 2 ^ 126 := by
  unfold knownPixels at known
  split at known
  · split at known
    · cases known
      exact product_lt _ _
    · cases known
  · cases known

theorem density_eq_knownPixels (version : Media) :
    density version = knownPixels version := by
  unfold density knownPixels
  cases version.width with
  | none => rfl
  | some width =>
      cases version.height with
      | none =>
          by_cases positive : 0 ≤ width <;> simp [unsigned128?]
      | some height =>
          have fits : width.toInt.toNat * height.toInt.toNat < 2 ^ 128 :=
            (product_lt width height).trans (by decide)
          by_cases positive : 0 ≤ width <;>
            by_cases other : 0 ≤ height <;>
            simp [unsigned128?, checkedMul128, positive, other]
          exact fits

theorem fitKey_of_known {screenDensity pixels : Nat} {version : Media}
    (known : knownPixels version = some pixels) :
    fitKey screenDensity version =
      toLex (0, toLex (distance screenDensity pixels,
        2 ^ 128 - 1 - pixels)) := by
  simp only [fitKey, density_eq_knownPixels, known, distance]

theorem fitKey_of_unknown {screenDensity : Nat} {version : Media}
    (unknown : knownPixels version = none) :
    fitKey screenDensity version =
      toLex (1, toLex (2 ^ 128 - 1, 2 ^ 128 - 1)) := by
  simp only [fitKey, density_eq_knownPixels, unknown]

theorem fitKey_le_iff {screenDensity pixels others : Nat}
    {version other : Media} (known : knownPixels version = some pixels)
    (known' : knownPixels other = some others) :
    fitKey screenDensity version ≤ fitKey screenDensity other ↔
      distance screenDensity pixels < distance screenDensity others ∨
        distance screenDensity pixels = distance screenDensity others ∧
          others ≤ pixels := by
  have bound := knownPixels_lt known
  have bound' := knownPixels_lt known'
  rw [fitKey_of_known known, fitKey_of_known known']
  simp only [Prod.Lex.toLex_le_toLex, lt_self_iff_false, false_or, true_and]
  apply or_congr_right
  apply and_congr_right
  intro _
  omega

theorem fitKey_lt_of_unknown {screenDensity pixels : Nat}
    {version other : Media} (known : knownPixels version = some pixels)
    (unknown : knownPixels other = none) :
    fitKey screenDensity version < fitKey screenDensity other := by
  rw [fitKey_of_known known, fitKey_of_unknown unknown]
  simp [Prod.Lex.toLex_lt_toLex]

theorem fitKey_eq_iff {screenDensity : Nat} {version other : Media} :
    fitKey screenDensity other = fitKey screenDensity version ↔
      knownPixels other = knownPixels version := by
  constructor
  · intro equal
    cases known : knownPixels version with
    | none =>
        cases known' : knownPixels other with
        | none => rfl
        | some others =>
            exact absurd equal (fitKey_lt_of_unknown known' known).ne
    | some pixels =>
        cases known' : knownPixels other with
        | none => exact absurd equal (fitKey_lt_of_unknown known known').ne'
        | some others =>
            have upper := (fitKey_le_iff known known').mp equal.ge
            have lower := (fitKey_le_iff known' known).mp equal.le
            have same : others = pixels := by omega
            rw [same]
  · intro equal
    simp only [fitKey, density_eq_knownPixels, equal]

theorem bestFitIndex_eq_some_iff (width : 0 ≤ screen.1)
    (height : 0 ≤ screen.2) {index : Nat} :
    bestFitIndex media screen = some index ↔
      ∃ item, FirstLeast (fitKey (screenPixels screen)) media index item := by
  have fits : checkedMul128 screen.1.toInt.toNat screen.2.toInt.toNat =
      some (screenPixels screen) :=
    if_pos ((product_lt screen.1 screen.2).trans (by decide))
  simp only [bestFitIndex, unsigned128?, width, height, if_true,
    Option.bind_eq_bind, Option.bind_some, fits, ← argmin_zipIdx_eq_some_iff]
  cases media.zipIdx.argmin
      fun entry => fitKey (screenPixels screen) entry.1 with
  | none => simp
  | some entry => simp [Prod.ext_iff]

/-- The documented choice: the closest pixel count, the larger of two equally
close ones, the first of equal ones, and a version without dimensions only
where there is no other. -/
structure BestFit (media : List Media) (screen : Int64 × Int64)
    (index : Nat) (version : Media) : Prop where
  found : media[index]? = some version
  known : (∃ other ∈ media, (knownPixels other).isSome) →
    (knownPixels version).isSome
  closest : ∀ {pixels others : Nat}, knownPixels version = some pixels →
    ∀ other ∈ media, knownPixels other = some others →
      distance (screenPixels screen) pixels ≤
        distance (screenPixels screen) others
  densest : ∀ {pixels others : Nat}, knownPixels version = some pixels →
    ∀ other ∈ media, knownPixels other = some others →
      distance (screenPixels screen) others =
        distance (screenPixels screen) pixels → others ≤ pixels
  earliest : ∀ {position : Nat} {other : Media},
    media[position]? = some other →
      knownPixels other = knownPixels version → index ≤ position

theorem BestFit.of_firstLeast {index : Nat} {version : Media}
    (chosen : FirstLeast (fitKey (screenPixels screen)) media index version) :
    BestFit media screen index version where
  found := chosen.found
  known := by
    rintro ⟨other, listed, known⟩
    obtain ⟨position, elsewhere⟩ := List.mem_iff_getElem?.mp listed
    obtain ⟨pixels, known⟩ := Option.isSome_iff_exists.mp known
    by_contra unknown
    rw [Option.not_isSome_iff_eq_none] at unknown
    exact absurd (chosen.least elsewhere)
      (not_le.mpr (fitKey_lt_of_unknown known unknown))
  closest := by
    intro pixels others known other listed known'
    obtain ⟨position, elsewhere⟩ := List.mem_iff_getElem?.mp listed
    have order := (fitKey_le_iff known known').mp (chosen.least elsewhere)
    omega
  densest := by
    intro pixels others known other listed known' equal
    obtain ⟨position, elsewhere⟩ := List.mem_iff_getElem?.mp listed
    have order := (fitKey_le_iff known known').mp (chosen.least elsewhere)
    omega
  earliest := by
    intro position other elsewhere equal
    exact chosen.first elsewhere (fitKey_eq_iff.mpr equal)

theorem BestFit.firstLeast {index : Nat} {version : Media}
    (best : BestFit media screen index version) :
    FirstLeast (fitKey (screenPixels screen)) media index version where
  found := best.found
  least := by
    intro position other elsewhere
    have listed : other ∈ media := List.mem_of_getElem? elsewhere
    cases known : knownPixels version with
    | none =>
        cases known' : knownPixels other with
        | none => exact (fitKey_eq_iff.mpr (known.trans known'.symm)).le
        | some others =>
            have some := best.known ⟨other, listed, by simp [known']⟩
            simp [known] at some
    | some pixels =>
        cases known' : knownPixels other with
        | none => exact (fitKey_lt_of_unknown known known').le
        | some others =>
            have closer := best.closest known other listed known'
            have denser := best.densest known other listed known'
            apply (fitKey_le_iff known known').mpr
            omega
  first := by
    intro position other elsewhere equal
    exact best.earliest elsewhere (fitKey_eq_iff.mp equal)

theorem bestFitIndex_optimal (width : 0 ≤ screen.1) (height : 0 ≤ screen.2) :
    ((∃ index, bestFitIndex media screen = some index) ↔ media ≠ []) ∧
      (∀ index, bestFitIndex media screen = some index ↔
        ∃ version, BestFit media screen index version) ∧
      screenPixels screen < 2 ^ 128 ∧
      ∀ version ∈ media, density version = knownPixels version ∧
        ∀ pixels, knownPixels version = some pixels →
          pixels ≤ 2 ^ 128 - 1 ∧
            distance (screenPixels screen) pixels < 2 ^ 128 := by
  have spec (index : Nat) : bestFitIndex media screen = some index ↔
      ∃ version, BestFit media screen index version := by
    rw [bestFitIndex_eq_some_iff width height]
    exact exists_congr fun version =>
      ⟨BestFit.of_firstLeast, BestFit.firstLeast⟩
  have bound : screenPixels screen < 2 ^ 126 := product_lt screen.1 screen.2
  refine ⟨⟨?_, ?_⟩, spec, by omega, ?_⟩
  · rintro ⟨index, chosen⟩ rfl
    obtain ⟨version, best⟩ := (spec index).mp chosen
    simpa using best.found
  · intro nonempty
    obtain ⟨index, version, chosen⟩ : ∃ index version,
        FirstLeast (fitKey (screenPixels screen)) media index version :=
      exists_firstLeast nonempty
    exact ⟨index, (spec index).mpr ⟨version, .of_firstLeast chosen⟩⟩
  · intro version _
    refine ⟨density_eq_knownPixels version, ?_⟩
    intro pixels known
    have := knownPixels_lt known
    unfold distance
    omega

theorem bestFitIndex_optimal_below_screen :
    bestFitIndex
        [{ id := 10, width := some 3840, height := some 2160 }, { id := 11 },
          { id := 12, width := some 1920, height := some 1080 }]
        (1280, 720) = some 2 ∧
      ∃ version, BestFit
        [{ id := 10, width := some 3840, height := some 2160 }, { id := 11 },
          { id := 12, width := some 1920, height := some 1080 }]
        (1280, 720) 2 version := by
  have chosen : bestFitIndex
      [{ id := 10, width := some 3840, height := some 2160 }, { id := 11 },
        { id := 12, width := some 1920, height := some 1080 }]
      (1280, 720) = some 2 := by decide
  exact ⟨chosen, ((bestFitIndex_optimal (by decide)
    (by decide)).2.1 2).mp chosen⟩

end

section

variable {media : List Media} {selectedIndex : Nat}
  {fallbackResolution : String} {policy : Option ResolutionPolicy}

def knownPixelsAt (media : List Media) (index : Nat) : Nat :=
  (media[index]?.bind knownPixels).getD 0

theorem densityAt_eq_knownPixelsAt :
    densityAt media = knownPixelsAt media := by
  funext index
  simp only [densityAt, knownPixelsAt, funext density_eq_knownPixels]

theorem eqIgnoreAsciiCase_iff (left right : String) :
    Text.eqIgnoreAsciiCase left right = true ↔
      Text.toAsciiLowercase left = Text.toAsciiLowercase right := by
  unfold Text.eqIgnoreAsciiCase Text.toAsciiLowercase
  rw [beq_iff_eq, String.ofList_inj]

theorem fallbackEligible_iff {index : Nat} :
    fallbackEligible media selectedIndex fallbackResolution policy
        index = true ↔
      index ≠ selectedIndex ∧ ∃ version, media[index]? = some version ∧
        (∃ label, version.videoResolution = some label ∧
          Text.toAsciiLowercase label ≠
            Text.toAsciiLowercase fallbackResolution) ∧
        ∀ limits, policy = some limits →
          mediaAllowed version limits = true := by
  unfold fallbackEligible
  rw [Bool.and_eq_true, decide_eq_true_iff]
  apply and_congr_right
  intro _
  cases media[index]? with
  | none => simp
  | some version =>
      simp [Option.any_eq_true, Option.all_eq_true, ← eqIgnoreAsciiCase_iff]

theorem pairwise_fallbackIndexes :
    (fallbackIndexes media selectedIndex fallbackResolution policy).Pairwise
      (StableSort.Before (knownPixelsAt media)) := by
  unfold fallbackIndexes
  rw [densityAt_eq_knownPixelsAt]
  exact StableSort.pairwise_byFallingWeight
    (List.Pairwise.filter _ List.pairwise_lt_range)

theorem fallbackIndexes_complete_and_ordered :
    (fallbackIndexes media selectedIndex fallbackResolution policy).Nodup ∧
      (∀ index, index ∈ fallbackIndexes media selectedIndex
          fallbackResolution policy ↔
        index ≠ selectedIndex ∧ ∃ version, media[index]? = some version ∧
          (∃ label, version.videoResolution = some label ∧
            Text.toAsciiLowercase label ≠
              Text.toAsciiLowercase fallbackResolution) ∧
          ∀ limits, policy = some limits →
            mediaAllowed version limits = true) ∧
      (fallbackIndexes media selectedIndex fallbackResolution policy).Pairwise
        fun left right =>
          knownPixelsAt media right < knownPixelsAt media left ∨
            knownPixelsAt media left = knownPixelsAt media right ∧
              left < right := by
  refine ⟨?_, ?_, pairwise_fallbackIndexes⟩
  · apply pairwise_fallbackIndexes.imp
    rintro index _ before rfl
    exact before.asymm before
  · intro index
    rw [mem_fallbackIndexes, fallbackEligible_iff]

end

end Replex.PlaybackSelection
