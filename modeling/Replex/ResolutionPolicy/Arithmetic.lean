import Replex.Data.SignedWord
import Replex.ResolutionPolicy

namespace Replex

open Data FirstMin SignedWord

/-! Choosing a version under a policy with every operation checked: the screen
comes from a client header and the dimensions from the server, neither of them
bounded. -/

def parseResolution (part : String) : Option Resolution :=
  if part = "" then none
  else match Text.split 'x' part with
    | width :: height :: _ => do
        let width ← DecimalText.int64? width
        let height ← DecimalText.int64? height
        some { width := width, height := height }
    | _ => none

def deserializeScreenResolution (isNumeric : Char → Bool)
    (header : Option String) : List Resolution :=
  match header with
  | some text =>
      let cleaned := String.ofList
        (text.toList.filter fun char =>
          isNumeric char || char == 'x' || char == ',')
      (Text.split ',' cleaned).filterMap parseResolution
  | none => []

/-- The screens the policy hoop can pass on: none, or one a header names. -/
def ReportedScreen (isNumeric : Char → Bool) (header : Option String)
    (screen : Option (Int64 × Int64)) : Prop :=
  screen = none ∨
    ∃ resolution ∈ deserializeScreenResolution isNumeric header,
      screen = some (resolution.width, resolution.height)

def checkedOffset (density : Int64) : Option Int64 → Option Int64
  | some deviceDensity => (checkedSub density deviceDensity).bind checkedAbs
  | none => checkedNeg density

def checkedSelectionKey (deviceDensity : Option Int64) (media : Media) :
    Option Int :=
  ((checkedMul (media.width.getD 0) (media.height.getD 0)).bind
    fun density => checkedOffset density deviceDensity).map Int64.toInt

def checkedDeviceDensity (screen : Option (Int64 × Int64)) :
    Option (Option Int64) :=
  match screen with
  | some (width, height) => (checkedMul width height).map some
  | none => some none

/-- `none` where an operation leaves the range. -/
def bestAllowedMediaChecked (media : List Media) (policy : ResolutionPolicy)
    (screenResolution : Option (Int64 × Int64)) : Option (Option Media) :=
  if (allowedMedia media policy).isEmpty then some none
  else do
    let deviceDensity ← checkedDeviceDensity screenResolution
    minByKey? (checkedSelectionKey deviceDensity) (allowedMedia media policy)

section

variable {isNumeric : Char → Bool} {header : Option String}
  {screen : Option (Int64 × Int64)} {media : List Media}
  {policy : ResolutionPolicy}

/-! First the reading of the header, which drops every sign. -/

theorem nonneg_of_digits? {chars : List Char} {value : Int}
    (unsigned : '-' ∉ chars)
    (read : DecimalText.magnitude? chars = some value) : 0 ≤ value := by
  unfold DecimalText.magnitude? at read
  split at read
  · simp at unsigned
  · obtain ⟨digits, _, rfl⟩ := Option.map_eq_some_iff.mp read
    exact Int.natCast_nonneg digits
  · obtain ⟨digits, _, rfl⟩ := Option.map_eq_some_iff.mp read
    exact Int.natCast_nonneg digits

theorem nonneg_of_int64? {text : String} {value : Int64}
    (unsigned : '-' ∉ text.toList)
    (read : DecimalText.int64? text = some value) : 0 ≤ value.toInt := by
  unfold DecimalText.int64? DecimalText.signed? at read
  obtain ⟨number, kept, rfl⟩ := Option.map_eq_some_iff.mp read
  obtain ⟨parsed, range⟩ := Option.filter_eq_some_iff.mp kept
  have bounds := of_decide_eq_true range
  rw [Int64.toInt_ofInt_of_le bounds.1 bounds.2]
  exact nonneg_of_digits? unsigned parsed

theorem nonneg_of_parseResolution {part : String} {resolution : Resolution}
    (unsigned : '-' ∉ part.toList)
    (read : parseResolution part = some resolution) :
    0 ≤ resolution.width.toInt ∧ 0 ≤ resolution.height.toInt := by
  unfold parseResolution at read
  split at read
  · cases read
  · split at read
    · rename_i widthText heightText rest pieces
      simp only [Option.bind_eq_bind, Option.bind_eq_some_iff] at read
      obtain ⟨width, readWidth, height, readHeight, built⟩ := read
      cases built
      have plain {piece : String}
          (listed : piece ∈ Text.split 'x' part) : '-' ∉ piece.toList :=
        fun held => unsigned (Text.mem_of_mem_split listed held).1
      rw [pieces] at plain
      exact ⟨nonneg_of_int64? (plain (by simp)) readWidth,
        nonneg_of_int64? (plain (by simp)) readHeight⟩
    · cases read

theorem nonneg_of_reported (numeric : isNumeric '-' = false)
    {size : Int64 × Int64}
    (reported : ReportedScreen isNumeric header (some size)) :
    0 ≤ size.1.toInt ∧ 0 ≤ size.2.toInt := by
  rcases reported with absent | ⟨resolution, listed, equal⟩
  · cases absent
  · cases equal
    unfold deserializeScreenResolution at listed
    split at listed
    · obtain ⟨part, member, read⟩ := List.mem_filterMap.mp listed
      apply nonneg_of_parseResolution _ read
      intro sign
      have held := (Text.mem_of_mem_split member sign).1
      simp [numeric] at held
    · cases listed

/-! Then the arithmetic, each operation beside its exact result. -/

/-- The pixels of a version, a missing dimension counting as zero. -/
def Media.exactDensity (media : Media) : Int :=
  (media.width.getD 0).toInt * (media.height.getD 0).toInt

def exactDevice (screen : Option (Int64 × Int64)) : Int :=
  match screen with
  | some (width, height) => width.toInt * height.toInt
  | none => 0

def exactKey (screen : Option (Int64 × Int64)) (version : Media) : Int :=
  match screen with
  | some _ => (version.exactDensity - exactDevice screen).natAbs
  | none => -version.exactDensity

/-- The range in which the whole key of a version can be computed. -/
def KeyInRange (screen : Option (Int64 × Int64)) (version : Media) : Prop :=
  exactDevice screen - 2 ^ 63 < version.exactDensity ∧
    version.exactDensity < 2 ^ 63

instance (screen : Option (Int64 × Int64)) (version : Media) :
    Decidable (KeyInRange screen version) :=
  inferInstanceAs (Decidable (_ ∧ _))

theorem inRange_exactDensity (nonneg : 0 ≤ exactDevice screen)
    {version : Media} (bounded : KeyInRange screen version) :
    InRange version.exactDensity := by
  obtain ⟨lower, upper⟩ := bounded
  exact ⟨by omega, upper⟩

theorem checkedSelectionKey_none (version : Media) :
    checkedSelectionKey none version =
      if KeyInRange none version then some (exactKey none version)
      else none := by
  by_cases fits : InRange version.exactDensity
  · have product : checkedMul (version.width.getD 0)
        (version.height.getD 0) = some version.density :=
      checkedMul_of_inRange fits
    have density : version.density.toInt = version.exactDensity :=
      toInt_mul fits
    have upper := fits.2
    have negated : InRange (-version.density.toInt) ↔
        KeyInRange none version := by
      rw [inRange_neg_iff, density, KeyInRange, exactDevice]
      omega
    rw [checkedSelectionKey, product, Option.bind_some, checkedOffset]
    by_cases bounded : KeyInRange none version
    · have inside := negated.mpr bounded
      have value : checkedNeg version.density = some (-version.density) :=
        checkedNeg_of_inRange inside
      rw [value, if_pos bounded, Option.map_some, toInt_neg inside, density,
        exactKey]
    · have value : checkedNeg version.density = none :=
        checkedNeg_of_not_inRange (mt negated.mp bounded)
      rw [value, if_neg bounded, Option.map_none]
  · have product : checkedMul (version.width.getD 0)
        (version.height.getD 0) = none :=
      checkedMul_of_not_inRange fits
    have outside : ¬ KeyInRange none version :=
      mt (@inRange_exactDensity none (Int.le_refl 0) version) fits
    rw [checkedSelectionKey, product, if_neg outside, Option.bind_none,
      Option.map_none]

theorem toInt_of_checkedMul {left right value : Int64}
    (multiplied : checkedMul left right = some value) :
    value.toInt = left.toInt * right.toInt := by
  unfold checkedMul at multiplied
  split at multiplied
  · rename_i fits
    cases multiplied
    exact toInt_mul fits
  · cases multiplied

theorem checkedSelectionKey_some {size : Int64 × Int64}
    (nonneg : 0 ≤ exactDevice (some size)) {device : Int64}
    (exactly : device.toInt = exactDevice (some size)) (version : Media) :
    checkedSelectionKey (some device) version =
      if KeyInRange (some size) version then some (exactKey (some size) version)
      else none := by
  by_cases fits : InRange version.exactDensity
  · have product : checkedMul (version.width.getD 0)
        (version.height.getD 0) = some version.density :=
      checkedMul_of_inRange fits
    have density : version.density.toInt = version.exactDensity :=
      toInt_mul fits
    have upper := fits.2
    rw [checkedSelectionKey, product, Option.bind_some, checkedOffset]
    by_cases apart : InRange (version.density.toInt - device.toInt)
    · have subtracted : checkedSub version.density device =
          some (version.density - device) :=
        checkedSub_of_inRange apart
      have difference := toInt_sub apart
      rw [density, exactly] at difference
      have absolute :
          InRange ((version.density - device).toInt.natAbs : Int) ↔
            KeyInRange (some size) version := by
        rw [inRange_natAbs_iff, difference, KeyInRange]
        omega
      by_cases bounded : KeyInRange (some size) version
      · have value : checkedAbs (version.density - device) =
            some (version.density - device).abs :=
          checkedAbs_of_inRange (absolute.mpr bounded)
        rw [subtracted, Option.bind_some, value, if_pos bounded,
          Option.map_some, toInt_abs (absolute.mpr bounded), difference,
          exactKey]
      · have value : checkedAbs (version.density - device) = none :=
          checkedAbs_of_not_inRange (mt absolute.mp bounded)
        rw [subtracted, Option.bind_some, value, if_neg bounded,
          Option.map_none]
    · have subtracted : checkedSub version.density device = none :=
        checkedSub_of_not_inRange apart
      have outside : ¬ KeyInRange (some size) version := by
        rintro ⟨low, high⟩
        apply apart
        rw [density, exactly]
        exact ⟨by omega, by omega⟩
      rw [subtracted, if_neg outside, Option.bind_none, Option.map_none]
  · have product : checkedMul (version.width.getD 0)
        (version.height.getD 0) = none :=
      checkedMul_of_not_inRange fits
    have outside : ¬ KeyInRange (some size) version :=
      mt (inRange_exactDensity nonneg) fits
    rw [checkedSelectionKey, product, if_neg outside, Option.bind_none,
      Option.map_none]

theorem checkedSelectionKey_eq (nonneg : 0 ≤ exactDevice screen)
    {deviceDensity : Option Int64}
    (device : checkedDeviceDensity screen = some deviceDensity)
    (version : Media) :
    checkedSelectionKey deviceDensity version =
      if KeyInRange screen version then some (exactKey screen version)
      else none := by
  cases screen with
  | none =>
      cases device
      exact checkedSelectionKey_none version
  | some size =>
      obtain ⟨value, multiplied, rfl⟩ := Option.map_eq_some_iff.mp device
      exact checkedSelectionKey_some nonneg (toInt_of_checkedMul multiplied)
        version

/-- Where the checked key is computed, the wrapping one is the same. -/
theorem selectionKey_eq_exactKey (nonneg : 0 ≤ exactDevice screen)
    (screenFits : exactDevice screen < 2 ^ 63) {version : Media}
    (bounded : KeyInRange screen version) :
    selectionKey screen version = exactKey screen version := by
  have density : version.density.toInt = version.exactDensity :=
    toInt_mul (inRange_exactDensity nonneg bounded)
  obtain ⟨low, high⟩ := bounded
  cases screen with
  | none =>
      show (-version.density).toInt = -version.exactDensity
      rw [toInt_neg, density]
      rw [inRange_neg_iff, density]
      simpa [exactDevice] using low
  | some size =>
      obtain ⟨width, height⟩ := size
      have screenProduct : (width * height).toInt =
          exactDevice (some (width, height)) :=
        toInt_mul ⟨by simp only [exactDevice] at nonneg; omega, screenFits⟩
      have difference : (version.density - width * height).toInt =
          version.exactDensity - exactDevice (some (width, height)) := by
        rw [toInt_sub, density, screenProduct]
        rw [density, screenProduct]
        exact ⟨by omega, by omega⟩
      show (version.density - width * height).abs.toInt = _
      rw [toInt_abs, difference]
      · rfl
      · rw [inRange_natAbs_iff, difference]
        omega

theorem checkedDeviceDensity_isSome_iff (nonneg : 0 ≤ exactDevice screen) :
    (checkedDeviceDensity screen).isSome = true ↔
      exactDevice screen < 2 ^ 63 := by
  cases screen with
  | none => simp [checkedDeviceDensity, exactDevice]
  | some size =>
      obtain ⟨width, height⟩ := size
      simp only [exactDevice] at nonneg
      by_cases fits : InRange (width.toInt * height.toInt)
      · simpa [checkedDeviceDensity, checkedMul, fits, exactDevice]
          using fits.2
      · have large : ¬ width.toInt * height.toInt < 2 ^ 63 :=
          fun small => fits ⟨by omega, small⟩
        simpa [checkedDeviceDensity, checkedMul, fits, exactDevice]
          using large

theorem minByKey?_of_short {list : List Media} (short : list.length ≤ 1)
    (partialKey : Media → Option Int) (key : Media → Int) :
    minByKey? partialKey list = some (minByKey key list) := by
  match list, short with
  | [], _ => rfl
  | [_], _ => rfl

/-- With every operation in range the checked choice is the one the release
build makes. -/
theorem bestAllowedMedia_of_checked (nonneg : 0 ≤ exactDevice screen)
    {chosen : Option Media}
    (computed : bestAllowedMediaChecked media policy screen = some chosen) :
    bestAllowedMedia media policy screen = chosen := by
  unfold bestAllowedMediaChecked at computed
  split at computed
  · rename_i empty
    cases computed
    rw [List.isEmpty_iff] at empty
    simp [bestAllowedMedia, empty, minByKey]
  · obtain ⟨device, found, computed⟩ := Option.bind_eq_some_iff.mp computed
    have screenFits : exactDevice screen < 2 ^ 63 :=
      (checkedDeviceDensity_isSome_iff nonneg).mp (by simp [found])
    have all := minByKey?_isSome_iff.mp
      (Option.isSome_iff_exists.mpr ⟨chosen, computed⟩)
    rcases all with short | keys
    · rw [minByKey?_of_short short _ (selectionKey screen)] at computed
      exact Option.some.inj computed
    · have agree : ∀ version ∈ allowedMedia media policy,
          checkedSelectionKey device version =
            some (selectionKey screen version) := by
        intro version listed
        have key := keys version listed
        rw [checkedSelectionKey_eq nonneg found] at key ⊢
        by_cases bounded : KeyInRange screen version
        · rw [if_pos bounded,
            selectionKey_eq_exactKey nonneg screenFits bounded]
        · simp [bounded] at key
      rw [minByKey?_eq_some agree] at computed
      exact Option.some.inj computed

theorem bestAllowedMediaChecked_isSome_iff
    (nonneg : 0 ≤ exactDevice screen) :
    (bestAllowedMediaChecked media policy screen).isSome = true ↔
      allowedMedia media policy = [] ∨
        exactDevice screen < 2 ^ 63 ∧
          ((allowedMedia media policy).length = 1 ∨
            ∀ version ∈ allowedMedia media policy,
              KeyInRange screen version) := by
  unfold bestAllowedMediaChecked
  by_cases empty : allowedMedia media policy = []
  · simp [empty]
  · have some : 0 < (allowedMedia media policy).length :=
      List.length_pos_of_ne_nil empty
    have one : (allowedMedia media policy).length ≤ 1 ↔
        (allowedMedia media policy).length = 1 := by omega
    rw [← checkedDeviceDensity_isSome_iff nonneg]
    cases found : checkedDeviceDensity screen with
    | none => simp [empty]
    | some device =>
        have keys (version : Media) :
            (checkedSelectionKey device version).isSome = true ↔
              KeyInRange screen version := by
          rw [checkedSelectionKey_eq nonneg found]
          by_cases bounded : KeyInRange screen version <;> simp [bounded]
        simp only [List.isEmpty_iff, empty, if_false, false_or,
          Option.bind_eq_bind, Option.bind_some, Option.isSome_some,
          true_and, minByKey?_isSome_iff, keys, one]

theorem exactDevice_nonneg (numeric : isNumeric '-' = false)
    (reported : ReportedScreen isNumeric header screen) :
    0 ≤ exactDevice screen := by
  cases screen with
  | none => exact Int.le_refl 0
  | some size =>
      obtain ⟨wide, high⟩ := nonneg_of_reported numeric reported
      exact Int.mul_nonneg wide high

/-- Every operation stays in range exactly when no version is permitted, or
the screen's pixels fit and either a single version is permitted, whose key is
never computed, or the pixels of each lie within reach of the screen's. -/
theorem bestAllowedMedia_arithmetic_in_range_iff
    (numeric : isNumeric '-' = false)
    (reported : ReportedScreen isNumeric header screen) :
    (∃ chosen, bestAllowedMediaChecked media policy screen = some chosen ∧
        bestAllowedMedia media policy screen = chosen) ↔
      allowedMedia media policy = [] ∨
        exactDevice screen < 2 ^ 63 ∧
          ((allowedMedia media policy).length = 1 ∨
            ∀ version ∈ allowedMedia media policy,
              exactDevice screen - 2 ^ 63 < version.exactDensity ∧
                version.exactDensity < 2 ^ 63) := by
  have nonneg := exactDevice_nonneg numeric reported
  have spec := @bestAllowedMediaChecked_isSome_iff screen media policy nonneg
  simp only [KeyInRange] at spec
  rw [← spec, Option.isSome_iff_exists]
  constructor
  · rintro ⟨chosen, computed, _⟩
    exact ⟨chosen, computed⟩
  · rintro ⟨chosen, computed⟩
    exact ⟨chosen, computed, bestAllowedMedia_of_checked nonneg computed⟩

theorem bestAllowedMedia_arithmetic_in_range_for_full_hd :
    ∃ chosen,
      bestAllowedMediaChecked
          [{ id := 1, width := some 3840, height := some 2160 }, { id := 2 }]
          .unrestricted (some (1920, 1080)) = some chosen ∧
        bestAllowedMedia
          [{ id := 1, width := some 3840, height := some 2160 }, { id := 2 }]
          .unrestricted (some (1920, 1080)) = chosen := by
  have reported : ReportedScreen Char.isDigit (some "1920x1080")
      (some (1920, 1080)) :=
    .inr ⟨{ width := 1920, height := 1080 }, by decide +kernel, rfl⟩
  refine (bestAllowedMedia_arithmetic_in_range_iff (by decide) reported).mpr
    (.inr ⟨by decide, .inr ?_⟩)
  decide

theorem bestAllowedMedia_arithmetic_out_of_range :
    ¬ ∀ (header : Option String) (screen : Option (Int64 × Int64))
      (media : List Media) (policy : ResolutionPolicy),
      ReportedScreen Char.isDigit header screen →
        ∃ chosen,
          bestAllowedMediaChecked media policy screen = some chosen := by
  intro inRange
  have reported : ReportedScreen Char.isDigit (some "9999999999x9999999999")
      (some (9999999999, 9999999999)) :=
    .inr ⟨{ width := 9999999999, height := 9999999999 },
      by decide +kernel, rfl⟩
  obtain ⟨chosen, computed⟩ := inRange _ _
    [{ id := 1, width := some 1920, height := some 1080 }] { limit := .p1080 }
    reported
  have overflow : bestAllowedMediaChecked
      [{ id := 1, width := some 1920, height := some 1080 }] { limit := .p1080 }
      (some (9999999999, 9999999999)) = none := by decide
  rw [overflow] at computed
  cases computed

end

end Replex
