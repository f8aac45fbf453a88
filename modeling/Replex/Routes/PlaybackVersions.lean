import Replex.Data.FilterPosition
import Replex.Routes.Playback
import Replex.Transform.ResolutionPolicy

namespace Replex

open Data

/-! Which versions the hoop lets a playback request name. -/

section

variable {services : PlaybackServices} {config : Config}
  {runtime : PolicySnapshot} {depot : Depot} {client : PlexClient}
  {policy : ResolutionPolicy} {uri : Uri} {item : MetaData}

def PinRewrites (codec : UrlCodec) (policy : ResolutionPolicy) (index : Nat)
    (uri : Uri) : Prop :=
  codec.Rewrites
    (pinnedQueries index (capBitrate codec policy uri).queries)
    (capBitrate codec policy uri)

theorem outcome_eq_selectVersion
    (settled : PlaybackPolicy services config runtime depot client policy)
    (reached : LoadedItem services client policy uri item)
    (parts : PartMediaCache) :
    (enforceResolutionPolicy services config runtime depot parts uri).outcome =
      selectVersion services.codec policy (screenOf client.context) item.media
        (capBitrate services.codec policy uri) := by
  rw [enforceResolutionPolicy_eq settled, enforceVersions_eq reached.capBitrate]

/-- A request goes on naming permitted versions only, or is stopped. -/
def SafeOutcome (media : List Media) (policy : ResolutionPolicy) :
    HoopOutcome → Prop
  | .stop status => 400 ≤ status
  | .forward uri =>
      uri.queries.getAll "mediaIndex" ≠ [] ∧
        ∀ value ∈ uri.queries.getAll "mediaIndex",
          denotesPermitted media policy value = true

theorem denotesPermitted_toString {media : List Media} {index : Nat}
    (bounded : media.length < 2 ^ 64) (inRange : index < media.length)
    (policy : ResolutionPolicy) :
    denotesPermitted media policy (toString index) =
      media[index]?.any (mediaAllowed · policy) := by
  have read := DecimalText.usize?_toString (inRange.trans bounded)
  simp only [denotesPermitted, read, Option.any_some]

theorem not_safe_of_refused {media : List Media} {target : Uri}
    (refused : requestPermitted media policy target.queries = false) :
    ¬ SafeOutcome media policy (.forward target) := by
  rintro ⟨present, permitted⟩
  rw [requestPermitted_eq] at refused
  cases first : target.queries.get? "mediaIndex" with
  | none => exact present ((target.queries.get?_eq_none_iff _).mp first)
  | some value =>
      have allowed := permitted value (MultiMap.mem_getAll_of_get? first)
      simp [first, allowed] at refused

theorem safe_forward_capped_iff {media : List Media} (codec : UrlCodec)
    (permitted : requestPermitted media policy uri.queries = true) :
    SafeOutcome media policy (.forward (capBitrate codec policy uri)) ↔
      CapRewrites codec policy uri ∨
        ∀ value ∈ uri.queries.getAll "mediaIndex",
          denotesPermitted media policy value = true := by
  rw [requestPermitted_eq] at permitted
  obtain ⟨value, first, allowed⟩ := (Option.any_eq_true _ _).mp permitted
  rcases getAll_capBitrate_of_ne codec policy uri "mediaIndex" (by decide)
      (by decide) with
    ⟨rewrites, values⟩ | ⟨keeps, same⟩
  · simp [SafeOutcome, values, first, allowed, rewrites]
  · have present : uri.queries.getAll "mediaIndex" ≠ [] :=
      List.ne_nil_of_mem (MultiMap.mem_getAll_of_get? first)
    simp [SafeOutcome, same, keeps, present]

theorem safe_forward_pinned_iff {media : List Media} {codec : UrlCodec}
    {index : Nat} (bounded : media.length < 2 ^ 64)
    (inRange : index < media.length)
    (rewrites : PinRewrites codec policy index uri) :
    SafeOutcome media policy
        (.forward (replaceQuery codec
          (pinnedQueries index (capBitrate codec policy uri).queries)
          (capBitrate codec policy uri))) ↔
      media[index]?.any (mediaAllowed · policy) = true := by
  have values := getAll_mediaIndex_pinned rewrites
  rw [← denotesPermitted_toString bounded inRange policy]
  simp [SafeOutcome, values]

/-- When only permitted versions are named after the hoop. A first index that
is permitted lets every further one through, unless the cap dropped them; a
pin goes to the first version with the id of the preferred one. -/
theorem enforced_versions_safe_iff
    (settled : PlaybackPolicy services config runtime depot client policy)
    (reached : LoadedItem services client policy uri item)
    (bounded : item.media.length < 2 ^ 64) (parts : PartMediaCache) :
    SafeOutcome item.media policy
        (enforceResolutionPolicy services config runtime depot parts
          uri).outcome ↔
      if requestPermitted item.media policy uri.queries then
        CapRewrites services.codec policy uri ∨
          ∀ value ∈ uri.queries.getAll "mediaIndex",
            denotesPermitted item.media policy value = true
      else
        (∀ version ∈ item.media, mediaAllowed version policy = false) ∨
          ∃ index,
            pinnedIndex item.media policy (screenOf client.context) =
                some index ∧
              PinRewrites services.codec policy index uri ∧
              item.media[index]?.any (mediaAllowed · policy) = true := by
  rw [outcome_eq_selectVersion settled reached]
  cases verdict : requestPermitted item.media policy uri.queries with
  | true =>
      have permitted :=
        (requestPermitted_capBitrate services.codec item.media policy
          uri).trans verdict
      rw [selectVersion_of_permitted permitted,
        safe_forward_capped_iff services.codec verdict]
      simp
  | false =>
      have refused :=
        (requestPermitted_capBitrate services.codec item.media policy
          uri).trans verdict
      simp only [Bool.false_eq_true, if_false]
      by_cases noneAllowed :
          ∀ version ∈ item.media, mediaAllowed version policy = false
      · rw [selectVersion_of_none_allowed refused noneAllowed]
        have stopped : SafeOutcome item.media policy (.stop 403) := by
          change 400 ≤ 403
          decide
        exact iff_of_true stopped (.inl noneAllowed)
      · have someAllowed :
            ∃ version ∈ item.media, mediaAllowed version policy = true := by
          simpa using noneAllowed
        obtain ⟨index, pinned⟩ :=
          pinnedIndex_isSome (screenOf client.context) someAllowed
        rw [selectVersion_of_pinnedIndex refused pinned]
        simp only [noneAllowed, false_or, pinned, Option.some.injEq,
          exists_eq_left']
        by_cases rewrites : PinRewrites services.codec policy index uri
        · rw [safe_forward_pinned_iff bounded (pinnedIndex_lt pinned) rewrites]
          simp [rewrites]
        · rw [replaceQuery_of_not_rewrites rewrites]
          simp [rewrites, not_safe_of_refused refused]

theorem enforced_versions_safe_iff_viewer :
    SafeOutcome [fullHdVersion, uhdVersion] ⟨.p1080, none, []⟩
      (enforceResolutionPolicy (viewerServices [fullHdVersion, uhdVersion])
        viewerConfig viewerRuntime (viewerDepot ⟨.p1080, none, []⟩)
        Store.empty (viewerUri [("mediaIndex", "0")])).outcome :=
  (enforced_versions_safe_iff (playbackPolicy_viewer _ _)
    (loadedItem_viewer (by decide) (by decide) _) (by decide)
    Store.empty).mpr (.inr (by decide))

/-- A permitted first index takes a prohibited second one along. -/
theorem repeated_index_forwarded :
    ¬ SafeOutcome [fullHdVersion, uhdVersion] ⟨.p1080, none, []⟩
      (enforceResolutionPolicy (viewerServices [fullHdVersion, uhdVersion])
        viewerConfig viewerRuntime (viewerDepot ⟨.p1080, none, []⟩)
        Store.empty
        (viewerUri [("mediaIndex", "0"), ("mediaIndex", "1")])).outcome := by
  have outcome : (enforceResolutionPolicy
      (viewerServices [fullHdVersion, uhdVersion]) viewerConfig viewerRuntime
      (viewerDepot ⟨.p1080, none, []⟩) Store.empty
      (viewerUri [("mediaIndex", "0"), ("mediaIndex", "1")])).outcome =
      .forward (viewerUri [("mediaIndex", "0"), ("mediaIndex", "1")]) := by
    decide
  rw [outcome]
  rintro ⟨_, permitted⟩
  exact absurd (permitted "1" (by decide)) (by decide)

/-! The version shown at a position, and the version a request for that
position ends up with. -/

theorem getElem?_of_positionOfId {media : List Media} {version : Media}
    {index : Nat} (distinct : (media.map Media.id).Nodup)
    (listed : version ∈ media)
    (position : positionOfId media version.id = some index) :
    media[index]? = some version := by
  obtain ⟨inRange, same, _⟩ := List.findIdx?_eq_some_iff_getElem.mp position
  have equal : media[index] = version :=
    List.inj_on_of_nodup_map distinct (List.getElem_mem inRange) listed
      (by simpa using same)
  rw [List.getElem?_eq_getElem inRange, equal]

/-- The request goes on with one index, and that index names this version in
the list Plex holds. -/
def ForwardsVersion (media : List Media) (version : Media) :
    HoopOutcome → Prop
  | .stop _ => False
  | .forward uri =>
      ∃ value index, uri.queries.getAll "mediaIndex" = [value] ∧
        DecimalText.usize? value = some index ∧ media[index]? = some version

theorem getAll_mediaIndex_capBitrate (codec : UrlCodec) {value : String}
    (asked : uri.queries.getAll "mediaIndex" = [value]) :
    (capBitrate codec policy uri).queries.getAll "mediaIndex" = [value] := by
  rcases getAll_capBitrate_of_ne codec policy uri "mediaIndex" (by decide)
      (by decide) with ⟨_, values⟩ | ⟨_, same⟩
  · simp [values, MultiMap.get?, asked]
  · rw [same, asked]

theorem forwardsVersion_capped_iff {media : List Media} {version : Media}
    {value : String} {position : Nat} (codec : UrlCodec)
    (asked : uri.queries.getAll "mediaIndex" = [value])
    (read : DecimalText.usize? value = some position) :
    ForwardsVersion media version
        (.forward (capBitrate codec policy uri)) ↔
      media[position]? = some version := by
  have values : (capBitrate codec policy uri).queries.getAll "mediaIndex" =
      [value] := getAll_mediaIndex_capBitrate codec asked
  simp [ForwardsVersion, values, read]

theorem forwardsVersion_pinned_iff {media : List Media} {version : Media}
    {codec : UrlCodec} {index : Nat} (bounded : media.length < 2 ^ 64)
    (inRange : index < media.length)
    (rewrites : PinRewrites codec policy index uri) :
    ForwardsVersion media version
        (.forward (replaceQuery codec
          (pinnedQueries index (capBitrate codec policy uri).queries)
          (capBitrate codec policy uri))) ↔
      media[index]? = some version := by
  have values := getAll_mediaIndex_pinned rewrites
  have read := DecimalText.usize?_toString (inRange.trans bounded)
  simp only [ForwardsVersion, values, List.cons.injEq, and_true,
    exists_and_left, exists_eq_left', read, Option.some.injEq]

/-- When a shown version can be asked for by its shown position: nothing
before it was hidden, or it happens to be the version a pin selects. -/
theorem shown_version_forwarded_iff
    (settled : PlaybackPolicy services config runtime depot client policy)
    (reached : LoadedItem services client policy uri item)
    (distinct : (item.media.map Media.id).Nodup)
    (bounded : item.media.length < 2 ^ 64) (parts : PartMediaCache)
    (value : String) (position : Nat) {shown : Media}
    (asked : uri.queries.getAll "mediaIndex" = [value])
    (read : DecimalText.usize? value = some position)
    (visible : (filterMediaRecursive policy item).media[position]? =
      some shown) :
    ForwardsVersion item.media shown
        (enforceResolutionPolicy services config runtime depot parts
          uri).outcome ↔
      (∀ version ∈ item.media.take (position + 1),
          mediaAllowed version policy = true) ∨
        item.media[position]?.any (mediaAllowed · policy) = false ∧
          bestAllowedMedia item.media policy (screenOf client.context) =
            some shown ∧
          ∃ index, positionOfId item.media shown.id = some index ∧
            PinRewrites services.codec policy index uri := by
  rw [media_filterMediaRecursive] at visible
  have distinctMedia : item.media.Nodup := List.Nodup.of_map Media.id distinct
  have shownFacts := mem_allowedMedia.mp (List.mem_of_getElem? visible)
  have verdict : requestPermitted item.media policy uri.queries =
      item.media[position]?.any (mediaAllowed · policy) := by
    rw [requestPermitted_eq, MultiMap.get?, asked]
    simp [denotesPermitted, read]
  have same := requestPermitted_capBitrate services.codec item.media policy uri
  rw [outcome_eq_selectVersion settled reached]
  cases allowed : item.media[position]?.any (mediaAllowed · policy) with
  | true =>
      rw [selectVersion_of_permitted (by rw [same, verdict, allowed]),
        forwardsVersion_capped_iff services.codec asked read,
        FilterPosition.getElem?_eq_iff_of_filter distinctMedia visible]
      simp
  | false =>
      have refused : requestPermitted item.media policy
          (capBitrate services.codec policy uri).queries = false := by
        rw [same, verdict, allowed]
      have hidden : ¬ ∀ version ∈ item.media.take (position + 1),
          mediaAllowed version policy = true := by
        rw [← FilterPosition.getElem?_eq_iff_of_filter distinctMedia visible]
        intro original
        simp [original, shownFacts.2] at allowed
      obtain ⟨index, pinned⟩ := pinnedIndex_isSome
        (screenOf client.context) ⟨shown, shownFacts⟩
      obtain ⟨best, selected, found⟩ := Option.bind_eq_some_iff.mp pinned
      rw [selectVersion_of_pinnedIndex refused pinned]
      simp only [hidden, false_or, selected, Option.some.injEq, true_and]
      have bestAt := getElem?_of_positionOfId distinct
        (bestAllowedMedia_mem selected).1 found
      -- A pin goes to the preferred version, whatever position was asked for.
      by_cases rewrites : PinRewrites services.codec policy index uri
      · rw [forwardsVersion_pinned_iff bounded (pinnedIndex_lt pinned)
          rewrites, bestAt, Option.some.injEq]
        refine ⟨fun same => ⟨same, index, ?_, rewrites⟩, And.left⟩
        rw [← same, found]
      · rw [replaceQuery_of_not_rewrites rewrites,
          forwardsVersion_capped_iff services.codec asked read]
        refine iff_of_false ?_ ?_
        · intro original
          simp [original, shownFacts.2] at allowed
        · rintro ⟨rfl, other, position, converted⟩
          rw [found] at position
          cases position
          exact rewrites converted

theorem shown_version_forwarded_iff_viewer :
    ForwardsVersion [fullHdVersion, uhdVersion] fullHdVersion
      (enforceResolutionPolicy (viewerServices [fullHdVersion, uhdVersion])
        viewerConfig viewerRuntime (viewerDepot ⟨.p1080, none, []⟩)
        Store.empty (viewerUri [("mediaIndex", "0")])).outcome :=
  (shown_version_forwarded_iff (playbackPolicy_viewer _ _)
    (loadedItem_viewer (by decide) (by decide) _) (by decide) (by decide)
    Store.empty "0" 0 (by decide) (by decide) rfl).mpr (.inl (by decide))

/-- Hiding the first of three versions moves the others up by one; asking for
the second one shown plays the first one shown. -/
theorem shown_version_renumbered :
    (filterMediaRecursive ⟨.p1080, none, []⟩
        (viewerItem [uhdVersion, fullHdVersion, hdVersion])).media[1]? =
        some hdVersion ∧
      ¬ ForwardsVersion [uhdVersion, fullHdVersion, hdVersion] hdVersion
        (enforceResolutionPolicy
          (viewerServices [uhdVersion, fullHdVersion, hdVersion])
          viewerConfig viewerRuntime (viewerDepot ⟨.p1080, none, []⟩)
          Store.empty (viewerUri [("mediaIndex", "1")])).outcome := by
  refine ⟨by decide, ?_⟩
  have outcome : (enforceResolutionPolicy
      (viewerServices [uhdVersion, fullHdVersion, hdVersion])
      viewerConfig viewerRuntime (viewerDepot ⟨.p1080, none, []⟩) Store.empty
      (viewerUri [("mediaIndex", "1")])).outcome =
      .forward (viewerUri [("mediaIndex", "1")]) := by
    decide
  rw [outcome]
  rintro ⟨value, index, asked, read, listed⟩
  have one : ["1"] = [value] := asked
  cases one
  have first : some 1 = some index := read
  cases first
  exact absurd listed (by decide)

end

end Replex
