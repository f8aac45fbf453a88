import Replex.ResolutionPolicy

namespace Replex

/-! How labels and pixel dimensions are weighed against each other. -/

namespace ResolutionLimit

/-- The largest width and height that a limit stands for. -/
def bounds : ResolutionLimit → Int64 × Int64
  | p480 => (720, 480)
  | p720 => (1280, 720)
  | p1080 => (1920, 1080)
  | p2160 => (4096, 2160)
  | unlimited => (Int64.maxValue, Int64.maxValue)

def Fits (limit : ResolutionLimit) (width height : Int64) : Prop :=
  width ≤ limit.bounds.1 ∧ height ≤ limit.bounds.2

theorem Fits.of_le {limit : ResolutionLimit} {width height : Int64}
    {widthNow heightNow : Int64} (fits : limit.Fits widthNow heightNow)
    (wider : width ≤ widthNow) (higher : height ≤ heightNow) :
    limit.Fits width height :=
  ⟨Int64.le_trans wider fits.1, Int64.le_trans higher fits.2⟩

theorem Fits.mono {limit other : ResolutionLimit} {width height : Int64}
    (fits : limit.Fits width height) (laxer : limit ≤ other) :
    other.Fits width height := by
  have bounds : limit.bounds.1 ≤ other.bounds.1 ∧
      limit.bounds.2 ≤ other.bounds.2 := by
    revert laxer
    cases limit <;> cases other <;> decide
  exact ⟨Int64.le_trans fits.1 bounds.1, Int64.le_trans fits.2 bounds.2⟩

end ResolutionLimit

open ResolutionLimit

section

variable {width height : Int64} (wide : 0 < width) (high : 0 < height)

include wide high

theorem classifyDimensions_eq_none_iff :
    classifyDimensions (some width) (some height) = none ↔
      ¬ p2160.Fits width height := by
  unfold classifyDimensions Fits bounds
  grind

/-- Dimensions are classified by the strictest limit they fit. -/
theorem fits_of_classifyDimensions {found : ResolutionLimit}
    (known : classifyDimensions (some width) (some height) = some found) :
    found.Fits width height ∧
      ∀ limit, limit.Fits width height → found ≤ limit := by
  unfold classifyDimensions at known
  constructor
  · unfold Fits bounds
    cases found <;> grind
  · intro limit fits
    unfold Fits bounds at fits
    cases found <;> cases limit <;> first | decide | grind

theorem classifyDimensions_le_iff {found limit : ResolutionLimit}
    (known : classifyDimensions (some width) (some height) = some found) :
    found ≤ limit ↔ limit.Fits width height := by
  obtain ⟨fits, least⟩ := fits_of_classifyDimensions wide high known
  exact ⟨fits.mono, least limit⟩

end

/-- Whether the version is labelled as something that the limit permits. -/
def LabelPermitted (limit : ResolutionLimit) (media : Media) : Prop :=
  ∃ label, media.videoResolution.bind ResolutionLimit.parse = some label ∧
    label ≤ limit

theorem mediaAllowed_iff {policy : ResolutionPolicy}
    (restricted : policy.isUnrestricted = false) {media : Media}
    {width height : Int64} (hasWidth : media.width = some width)
    (hasHeight : media.height = some height) (wide : 0 < width)
    (high : 0 < height) :
    mediaAllowed media policy = true ↔
      (∀ label, media.videoResolution.bind ResolutionLimit.parse =
          some label → label ≤ policy.limit) ∧
        (policy.limit.Fits width height ∨
          ¬ p2160.Fits width height ∧ LabelPermitted policy.limit media) := by
  unfold mediaAllowed classify LabelPermitted
  rw [restricted, hasWidth, hasHeight, Bool.false_or]
  cases known : classifyDimensions (some width) (some height) with
  | none =>
      have beyond := (classifyDimensions_eq_none_iff wide high).mp known
      have outside : ¬ policy.limit.Fits width height := by
        intro fits
        have limited : policy.limit ≤ p2160 := by
          have known := (policy.isUnrestricted_eq_false_iff).mp restricted
          revert known
          cases policy.limit <;> decide
        exact beyond (fits.mono limited)
      cases media.videoResolution.bind ResolutionLimit.parse with
      | none => simp [outside]
      | some label => simp [outside, beyond]
  | some found =>
      have fits : found ≤ policy.limit ↔ policy.limit.Fits width height :=
        classifyDimensions_le_iff wide high known
      have within : p2160.Fits width height := by
        by_contra beyond
        rw [(classifyDimensions_eq_none_iff wide high).mpr beyond] at known
        cases known
      cases media.videoResolution.bind ResolutionLimit.parse with
      | none => simp [fits, within]
      | some label => simp [fits, within]

def Media.resized (media : Media) (width height : Int64) : Media :=
  { media with width := some width, height := some height }

/-- An accepted version keeps to the limit, by its size and by its label, and
no larger one is accepted where it is refused. -/
structure NeverSlips (policy : ResolutionPolicy) (media : Media)
    (width height : Int64) : Prop where
  size : mediaAllowed media policy = true → policy.limit.Fits width height
  label : mediaAllowed media policy = true → ∀ label,
    media.videoResolution.bind ResolutionLimit.parse = some label →
      label ≤ policy.limit
  larger : ∀ wider higher, width ≤ wider → height ≤ higher →
    mediaAllowed media policy = false →
      mediaAllowed (media.resized wider higher) policy = false

/-- A version never slips through exactly when it fits the limit or has no
label that the limit permits. -/
theorem never_slips_iff {policy : ResolutionPolicy}
    (restricted : policy.isUnrestricted = false) {media : Media}
    {width height : Int64} (hasWidth : media.width = some width)
    (hasHeight : media.height = some height) (wide : 0 < width)
    (high : 0 < height) :
    NeverSlips policy media width height ↔
      policy.limit.Fits width height ∨
        ¬ LabelPermitted policy.limit media := by
  have now := mediaAllowed_iff restricted hasWidth hasHeight wide high
  have later {wider higher : Int64} (wide' : width ≤ wider)
      (high' : height ≤ higher) :=
    @mediaAllowed_iff policy restricted (media.resized wider higher) _ _ rfl rfl
      (Int64.lt_of_lt_of_le wide wide') (Int64.lt_of_lt_of_le high high')
  have sameLabel (wider higher : Int64) :
      (media.resized wider higher).videoResolution = media.videoResolution :=
    rfl
  constructor
  · rintro ⟨size, label, larger⟩
    by_contra! slips
    obtain ⟨outside, found, labelled, permitted⟩ := slips
    have labels : ∀ label, media.videoResolution.bind ResolutionLimit.parse =
        some label → label ≤ policy.limit := by
      intro label same
      rw [labelled] at same
      cases same
      exact permitted
    by_cases beyond : p2160.Fits width height
    · -- Refused for its size, but not once it is too large to be classified.
      have refused : mediaAllowed media policy = false := by
        rw [← Bool.not_eq_true, now]
        grind
      have wider : width ≤ Int64.maxValue := Int64.le_maxValue width
      have accepted := larger Int64.maxValue height wider
        (Int64.le_refl height) refused
      rw [← Bool.not_eq_true, later wider (Int64.le_refl height)] at accepted
      apply accepted
      refine ⟨labels, .inr ⟨?_, found, labelled, permitted⟩⟩
      rintro ⟨narrow, -⟩
      exact absurd narrow (by decide)
    · apply outside
      apply size
      exact now.mpr ⟨labels, .inr ⟨beyond, found, labelled, permitted⟩⟩
  · intro sound
    refine ⟨?_, ?_, ?_⟩
    · intro allowed
      rcases (now.mp allowed).2 with fits | ⟨-, permitted⟩
      · exact fits
      · exact sound.resolve_right (not_not_intro permitted)
    · intro allowed
      exact (now.mp allowed).1
    · intro wider higher wide' high' refused
      rw [← Bool.not_eq_true, now] at refused
      rw [← Bool.not_eq_true, later wide' high']
      rintro ⟨labels, size⟩
      apply refused
      refine ⟨labels, ?_⟩
      rcases sound with fits | unlabelled
      · exact .inl fits
      · rcases size with fits | ⟨-, permitted⟩
        · exact .inl (fits.of_le wide' high')
        · exact absurd permitted unlabelled

def limitedTo (limit : ResolutionLimit) : ResolutionPolicy where
  limit := limit

theorem labelled_1080_never_slips :
    let media : Media :=
      { id := 1, videoResolution := some "1080", width := some 1920,
        height := some 800 }
    NeverSlips (limitedTo .p1080) media 1920 800 :=
  (never_slips_iff rfl rfl rfl (by decide) (by decide)).mpr
    (.inl ⟨by decide, by decide⟩)

/-- Beyond 4K only the label counts. -/
theorem labelled_1080_slips_at_8k :
    let media : Media :=
      { id := 1, videoResolution := some "1080", width := some 7680,
        height := some 4320 }
    mediaAllowed media (limitedTo .p1080) = true ∧
      ¬ NeverSlips (limitedTo .p1080) media 7680 4320 := by
  refine ⟨by decide, ?_⟩
  rintro ⟨size, -, -⟩
  exact absurd (size (by decide)).1 (by decide)

end Replex
