import Replex.Data.SignedWord
import Replex.PlaybackSelection.Fit

namespace Replex.PlaybackSelection

open Data FirstMin SignedWord

/-! The choice under a policy beside the automatic one. The policy's counts a
missing dimension as zero and takes the first of the closest versions, so it
may prefer a version the automatic choice would leave behind. -/

/-- What the automatic choice picks of the permitted versions. -/
def bestFitAllowed (media : List Media) (policy : ResolutionPolicy)
    (screen : Int64 × Int64) : Option Media :=
  (bestFitIndex (allowedMedia media policy) screen).bind
    fun index => (allowedMedia media policy)[index]?

/-- Some version of the list comes first by the policy's key. -/
def Outdone (screen : Int64 × Int64) (versions : List Media)
    (index : Nat) (version : Media) : Prop :=
  ∃ position other, versions[position]? = some other ∧
    (selectionKey (some screen) other < selectionKey (some screen) version ∨
      selectionKey (some screen) other =
          selectionKey (some screen) version ∧ position < index)

/-- A version without dimensions that is not the first of only such ones, or
one for which there is an equally close larger one. -/
def Secondary (screen : Int64 × Int64) (versions : List Media)
    (index : Nat) (version : Media) : Prop :=
  (knownPixels version = none ∧
      (0 < index ∨ ∃ other ∈ versions, (knownPixels other).isSome)) ∨
    ∃ pixels, knownPixels version = some pixels ∧
      ∃ other ∈ versions, ∃ larger, knownPixels other = some larger ∧
        distance (screenPixels screen) larger =
          distance (screenPixels screen) pixels ∧ pixels < larger

section

variable {media versions : List Media} {policy : ResolutionPolicy}
  {screen : Int64 × Int64}

theorem firstLeast_of_not_outdone {index : Nat} {version : Media}
    (found : versions[index]? = some version)
    (leads : ¬ Outdone screen versions index version) :
    FirstLeast (selectionKey (some screen)) versions index version where
  found := found
  least := by
    intro position other elsewhere
    by_contra smaller
    exact leads ⟨position, other, elsewhere, .inl (not_le.mp smaller)⟩
  first := by
    intro position other elsewhere equal
    by_contra earlier
    exact leads ⟨position, other, elsewhere, .inr ⟨equal, not_le.mp earlier⟩⟩

theorem not_outdone_of_firstLeast {index : Nat} {version : Media}
    (chosen : FirstLeast (selectionKey (some screen)) versions index
      version) : ¬ Outdone screen versions index version := by
  rintro ⟨position, other, elsewhere, smaller | ⟨equal, earlier⟩⟩
  · exact not_le.mpr smaller (chosen.least elsewhere)
  · exact not_le.mpr earlier (chosen.first elsewhere equal)

theorem not_secondary_of_bestFit {index : Nat} {version : Media}
    (best : BestFit versions screen index version) :
    ¬ Secondary screen versions index version := by
  rintro (⟨unknown, later | known⟩ | ⟨pixels, known, other, listed, larger,
    known', close, more⟩)
  · obtain ⟨bound, _⟩ := List.getElem?_eq_some_iff.mp best.found
    have start : 0 < versions.length := Nat.zero_lt_of_lt bound
    have head : versions[0]? = some versions[0] :=
      List.getElem?_eq_getElem start
    by_cases equal : knownPixels versions[0] = knownPixels version
    · exact absurd (best.earliest head equal) (not_le.mpr later)
    · have some := best.known ⟨versions[0], List.getElem_mem start, by
        rw [unknown] at equal
        exact Option.isSome_iff_ne_none.mpr equal⟩
      simp [unknown] at some
  · have some := best.known known
    simp [unknown] at some
  · exact absurd (best.densest known other listed known' close)
      (not_le.mpr more)

theorem selectionKey_of_known {version : Media} {pixels : Nat}
    (width : 0 ≤ screen.1) (height : 0 ≤ screen.2)
    (screenFits : screenPixels screen < 2 ^ 63)
    (known : knownPixels version = some pixels) (fits : pixels < 2 ^ 63) :
    selectionKey (some screen) version =
      distance (screenPixels screen) pixels := by
  have exactScreen : (screen.1 * screen.2).toInt = screenPixels screen :=
    toInt_mul_of_nonneg width height screenFits
  have exactPixels : version.density.toInt = pixels := by
    unfold knownPixels at known
    split at known
    · rename_i versionWidth versionHeight equation equation'
      split at known
      · rename_i nonneg
        cases known
        simp only [Media.density, equation, equation', Option.getD_some]
        exact toInt_mul_of_nonneg nonneg.1 nonneg.2 fits
      · cases known
    · cases known
  have between : (version.density - screen.1 * screen.2).toInt =
      pixels - screenPixels screen := by
    rw [toInt_sub, exactScreen, exactPixels]
    rw [exactScreen, exactPixels]
    unfold InRange
    omega
  show (version.density - screen.1 * screen.2).abs.toInt = _
  rw [toInt_abs, between]
  · unfold distance
    omega
  · rw [between]
    unfold InRange
    omega

/-- A version that comes first by the policy's key and is not secondary is the
documented choice. -/
theorem bestFit_of_firstLeast (width : 0 ≤ screen.1) (height : 0 ≤ screen.2)
    (screenFits : screenPixels screen < 2 ^ 63)
    (fits : ∀ version ∈ versions, ∀ pixels,
      knownPixels version = some pixels → pixels < 2 ^ 63)
    {index : Nat} {version : Media}
    (chosen : FirstLeast (selectionKey (some screen)) versions index version)
    (primary : ¬ Secondary screen versions index version) :
    BestFit versions screen index version := by
  have key {other : Media} (listed : other ∈ versions) {pixels : Nat}
      (known : knownPixels other = some pixels) :
      selectionKey (some screen) other =
        distance (screenPixels screen) pixels :=
    selectionKey_of_known width height screenFits known
      (fits other listed pixels known)
  have listed : version ∈ versions := List.mem_of_getElem? chosen.found
  exact {
    found := chosen.found
    known := by
      intro known
      by_contra unknown
      rw [Option.not_isSome_iff_eq_none] at unknown
      exact primary (.inl ⟨unknown, .inr known⟩)
    closest := by
      intro pixels others known other listed' known'
      obtain ⟨position, elsewhere⟩ := List.mem_iff_getElem?.mp listed'
      have order := chosen.least elsewhere
      rw [key listed known, key listed' known'] at order
      exact Int.ofNat_le.mp order
    densest := by
      intro pixels others known other listed' known' close
      by_contra more
      exact primary (.inr ⟨pixels, known, other, listed', others, known',
        close, not_le.mp more⟩)
    earliest := by
      intro position other elsewhere equal
      cases known : knownPixels version with
      | none =>
          by_contra earlier
          exact primary (.inl ⟨known, .inl (Nat.zero_lt_of_lt
            (not_le.mp earlier))⟩)
      | some pixels =>
          apply chosen.first elsewhere
          rw [key listed known,
            key (List.mem_of_getElem? elsewhere) (equal.trans known)] }

theorem nodup_allowedMedia (ids : (media.map Media.id).Nodup) :
    (allowedMedia media policy).Nodup :=
  ids.of_map.filter _

/-- Both choices are one exactly when every secondary version is outdone. -/
theorem bestAllowedMedia_eq_bestFitAllowed_iff
    (ids : (media.map Media.id).Nodup)
    (width : 0 ≤ screen.1) (height : 0 ≤ screen.2)
    (screenFits : screenPixels screen < 2 ^ 63)
    (fits : ∀ version ∈ media, ∀ pixels,
      knownPixels version = some pixels → pixels < 2 ^ 63) :
    bestAllowedMedia media policy (some screen) =
        bestFitAllowed media policy screen ↔
      ∀ index version, (allowedMedia media policy)[index]? = some version →
        Secondary screen (allowedMedia media policy) index version →
          Outdone screen (allowedMedia media policy) index version := by
  have fitsAllowed : ∀ version ∈ allowedMedia media policy, ∀ pixels,
      knownPixels version = some pixels → pixels < 2 ^ 63 := by
    intro version listed
    exact fits version (mem_allowedMedia.mp listed).1
  by_cases nonempty : allowedMedia media policy = []
  · have none : bestFitAllowed media policy screen = none := by
      simp [bestFitAllowed, nonempty]
    rw [none, bestAllowedMedia, FirstMin.minByKey_eq_none_iff]
    simp [nonempty]
  obtain ⟨index, version, chosen⟩ : ∃ index version, FirstLeast
      (selectionKey (some screen)) (allowedMedia media policy) index version :=
    exists_firstLeast nonempty
  obtain ⟨place, documented, preferred⟩ : ∃ place documented, FirstLeast
      (fitKey (screenPixels screen)) (allowedMedia media policy) place
        documented :=
    exists_firstLeast nonempty
  have picked : bestAllowedMedia media policy (some screen) = some version :=
    minByKey_eq_some_iff.mpr ⟨index, chosen⟩
  have mirrored : bestFitAllowed media policy screen = some documented := by
    have position :=
      (bestFitIndex_eq_some_iff width height).mpr ⟨documented, preferred⟩
    simp [bestFitAllowed, position, preferred.found]
  rw [picked, mirrored, Option.some.injEq]
  constructor
  · intro same other item found secondary
    by_contra leads
    have first := firstLeast_of_not_outdone found leads
    obtain ⟨samePosition, sameVersion⟩ := first.unique chosen
    have best : BestFit (allowedMedia media policy) screen index version := by
      have positions : place = index := by
        obtain ⟨bound, _⟩ := List.getElem?_eq_some_iff.mp preferred.found
        apply (List.getElem?_inj bound (nodup_allowedMedia ids)).mp
        rw [preferred.found, chosen.found, same]
      rw [same]
      exact .of_firstLeast (positions ▸ preferred)
    rw [samePosition, sameVersion] at secondary
    exact not_secondary_of_bestFit best secondary
  · intro beaten
    have primary : ¬ Secondary screen (allowedMedia media policy) index
        version := by
      intro secondary
      exact not_outdone_of_firstLeast chosen
        (beaten index version chosen.found secondary)
    have best := bestFit_of_firstLeast width height screenFits fitsAllowed
      chosen primary
    exact (best.firstLeast.unique preferred).2

theorem bestAllowedMedia_eq_bestFitAllowed_beside_unknown :
    bestAllowedMedia
        [{ id := 1, width := some 1920, height := some 1080 }, { id := 2 }]
        .unrestricted (some (1920, 1080)) =
      bestFitAllowed
        [{ id := 1, width := some 1920, height := some 1080 }, { id := 2 }]
        .unrestricted (1920, 1080) := by
  refine (bestAllowedMedia_eq_bestFitAllowed_iff (by decide) (by decide)
    (by decide) (by decide) (by decide)).mpr ?_
  intro index version found secondary
  match index with
  | 0 =>
      cases found
      exact absurd secondary (not_secondary_of_bestFit
        (.of_firstLeast (.head (by decide))))
  | 1 =>
      cases found
      exact ⟨0, _, rfl, .inl (by decide)⟩
  | _ + 2 => cases found

theorem bestAllowedMedia_ne_bestFitAllowed :
    ¬ ∀ (media : List Media) (policy : ResolutionPolicy)
      (screen : Int64 × Int64), (media.map Media.id).Nodup →
        0 ≤ screen.1 → 0 ≤ screen.2 → screenPixels screen < 2 ^ 63 →
        (∀ version ∈ media, ∀ pixels,
          knownPixels version = some pixels → pixels < 2 ^ 63) →
        bestAllowedMedia media policy (some screen) =
          bestFitAllowed media policy screen := by
  intro mirrors
  have equal := mirrors
    [{ id := 1, videoResolution := some "480" },
      { id := 2, width := some 1280, height := some 720 }]
    { limit := .p1080 } (720, 480) (by decide) (by decide) (by decide)
    (by decide) (by decide)
  exact absurd equal (by decide)

end

end Replex.PlaybackSelection
