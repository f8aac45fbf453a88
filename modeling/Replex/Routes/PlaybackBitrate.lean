import Replex.Routes.Playback

namespace Replex

open Data

/-! Which bitrates the hoop lets a playback request carry. -/

def bitrateValues (queries : Queries) : List String :=
  queries.getAll "maxVideoBitrate" ++ queries.getAll "videoBitrate"

def withinCap (cap : Int64) (value : String) : Bool :=
  (DecimalText.int64? value).any fun bitrate => decide (bitrate ≤ cap)

/-- A request goes on with integers up to the cap only, and one that had only
such values goes on with some of its own; or it is stopped. -/
def RespectsCap (cap : Int64) (incoming : Uri) : HoopOutcome → Prop
  | .stop _ => True
  | .forward outgoing =>
      bitrateValues outgoing.queries ≠ [] ∧
        (∀ value ∈ bitrateValues outgoing.queries,
          withinCap cap value = true) ∧
        (bitrateValues incoming.queries ≠ [] →
          (∀ value ∈ bitrateValues incoming.queries,
            withinCap cap value = true) →
          outgoing.queries.getAll "maxVideoBitrate" ⊆
              incoming.queries.getAll "maxVideoBitrate" ∧
            outgoing.queries.getAll "videoBitrate" ⊆
              incoming.queries.getAll "videoBitrate")

section

variable (services : PlaybackServices) (runtime : PolicySnapshot)
  (client : PlexClient) (policy : ResolutionPolicy)

/-- The version stage ends the request: the item cannot be loaded, or it has
versions and none is permitted. -/
def VersionStops (queries : Queries) : Prop :=
  policy.limit ≠ .unlimited ∧
    ∃ path, queries.get? "path" = some path ∧
      match services.getItemByKey client path with
      | .error _ => runtime.failClosed = true
      | .ok container =>
          match container.metadata.head? with
          | none => runtime.failClosed = true
          | some item =>
              item.media ≠ [] ∧
                requestPermitted item.media policy queries = false ∧
                ∀ version ∈ item.media, mediaAllowed version policy = false

def VersionPins (uri : Uri) : Prop :=
  ∃ item index, LoadedItem services client policy uri item ∧
    requestPermitted item.media policy uri.queries = false ∧
    pinnedIndex item.media policy (screenOf client.context) = some index ∧
    services.codec.Rewrites (pinnedQueries index uri.queries) uri

inductive VersionStage (uri : Uri) : HoopOutcome → Prop
  | stopped {status : StatusCode}
      (stops : VersionStops services runtime client policy uri.queries) :
      VersionStage uri (.stop status)
  | pinned {index : Nat}
      (goesOn : ¬ VersionStops services runtime client policy uri.queries)
      (pins : VersionPins services client policy uri)
      (rewrites :
        services.codec.Rewrites (pinnedQueries index uri.queries) uri) :
      VersionStage uri (.forward
        (replaceQuery services.codec (pinnedQueries index uri.queries) uri))
  | untouched
      (goesOn : ¬ VersionStops services runtime client policy uri.queries)
      (leaves : ¬ VersionPins services client policy uri) :
      VersionStage uri (.forward uri)

variable {services runtime client policy}

theorem not_versionPins {uri : Uri}
    (absent : ∀ item, ¬ LoadedItem services client policy uri item) :
    ¬ VersionPins services client policy uri := by
  rintro ⟨item, _, reached, _⟩
  exact absent item reached

/-- The item is the one its path leads to. -/
theorem LoadedItem.unique {uri : Uri} {item other : MetaData}
    (reached : LoadedItem services client policy uri item)
    (found : LoadedItem services client policy uri other) : other = item := by
  obtain ⟨path, container, asked, answered, first⟩ := reached.loaded
  obtain ⟨path', container', asked', answered', first'⟩ := found.loaded
  rw [asked] at asked'
  cases asked'
  rw [answered] at answered'
  cases answered'
  rw [first] at first'
  exact (Option.some.inj first').symm

theorem versionStops_iff_of_loadedItem {uri : Uri} {item : MetaData}
    (reached : LoadedItem services client policy uri item) :
    VersionStops services runtime client policy uri.queries ↔
      requestPermitted item.media policy uri.queries = false ∧
        ∀ version ∈ item.media, mediaAllowed version policy = false := by
  obtain ⟨path, container, asked, answered, first⟩ := reached.loaded
  simp [VersionStops, reached.limited, asked, answered, first,
    reached.nonempty]

theorem versionStage_of_loadedItem {uri : Uri} {item : MetaData}
    (reached : LoadedItem services client policy uri item) :
    VersionStage services runtime client policy uri
      (selectVersion services.codec policy (screenOf client.context) item.media
        uri) := by
  have stops_iff : VersionStops services runtime client policy uri.queries ↔
      requestPermitted item.media policy uri.queries = false ∧
        ∀ version ∈ item.media, mediaAllowed version policy = false :=
    versionStops_iff_of_loadedItem reached
  cases verdict : requestPermitted item.media policy uri.queries with
  | true =>
      rw [selectVersion_of_permitted verdict]
      refine .untouched ?_ ?_
      · rw [stops_iff, verdict]
        simp
      · rintro ⟨other, _, found, refused, _⟩
        rw [reached.unique found, verdict] at refused
        cases refused
  | false =>
      by_cases noneAllowed :
          ∀ version ∈ item.media, mediaAllowed version policy = false
      · rw [selectVersion_of_none_allowed verdict noneAllowed]
        exact .stopped (stops_iff.mpr ⟨verdict, noneAllowed⟩)
      · have goesOn :
            ¬ VersionStops services runtime client policy uri.queries :=
          fun stops => noneAllowed (stops_iff.mp stops).2
        obtain ⟨index, pinned⟩ := pinnedIndex_isSome
          (screenOf client.context) (by simpa using noneAllowed)
        rw [selectVersion_of_pinnedIndex verdict pinned]
        by_cases rewrites :
            services.codec.Rewrites (pinnedQueries index uri.queries) uri
        · exact .pinned goesOn
            ⟨item, index, reached, verdict, pinned, rewrites⟩ rewrites
        · rw [replaceQuery_of_not_rewrites rewrites]
          refine .untouched goesOn ?_
          rintro ⟨other, otherIndex, found, _, otherPinned, converted⟩
          rw [reached.unique found, pinned] at otherPinned
          cases otherPinned
          exact rewrites converted

/-- Without versions to choose from, only a failed load can end the request,
and only when failures are closed. -/
theorem versionStage_of_not_loaded {uri : Uri}
    (absent : ∀ item, ¬ LoadedItem services client policy uri item)
    (parts : PartMediaCache) :
    VersionStage services runtime client policy uri
      (enforceVersions services runtime client policy parts uri).outcome := by
  have leaves := not_versionPins absent
  by_cases limited : policy.limit = .unlimited
  · have lax : policy.isUnrestricted = true := by
      simp [ResolutionPolicy.isUnrestricted, ResolutionLimit.isUnrestricted,
        limited]
    simp only [enforceVersions, lax, if_true]
    exact .untouched (fun stops => stops.1 limited) leaves
  have strict := (policy.isUnrestricted_eq_false_iff).mpr limited
  cases asked : uri.queries.get? "path" with
  | none =>
      simp only [enforceVersions, strict, asked, Bool.false_eq_true, if_false]
      refine .untouched ?_ leaves
      rintro ⟨_, path, found, _⟩
      rw [asked] at found
      cases found
  | some path =>
      cases answered : services.getItemByKey client path with
      | error reason =>
          simp only [enforceVersions, strict, asked, answered,
            Bool.false_eq_true, if_false]
          by_cases closed : runtime.failClosed = true
          · rw [if_pos closed]
            exact .stopped ⟨limited, path, asked, by simpa [answered]⟩
          · rw [if_neg closed]
            refine .untouched ?_ leaves
            simpa [VersionStops, asked, answered, limited] using closed
      | ok container =>
          cases first : container.metadata.head? with
          | none =>
              simp only [enforceVersions, strict, asked, answered, first,
                Bool.false_eq_true, if_false]
              by_cases closed : runtime.failClosed = true
              · rw [if_pos closed]
                exact .stopped ⟨limited, path, asked, by simpa [answered, first]⟩
              · rw [if_neg closed]
                refine .untouched ?_ leaves
                simpa [VersionStops, asked, answered, first, limited]
                  using closed
          | some item =>
              have empty : item.media = [] := by
                by_contra nonempty
                exact absent item
                  ⟨limited, ⟨path, container, asked, answered, first⟩, nonempty⟩
              simp only [enforceVersions, strict, asked, answered, first,
                empty, List.isEmpty_nil, if_true, Bool.false_eq_true, if_false]
              refine .untouched ?_ leaves
              simp [VersionStops, asked, answered, first, empty]

theorem enforceVersions_stage (parts : PartMediaCache) (uri : Uri) :
    VersionStage services runtime client policy uri
      (enforceVersions services runtime client policy parts uri).outcome := by
  by_cases loaded : ∃ item, LoadedItem services client policy uri item
  · obtain ⟨item, reached⟩ := loaded
    rw [enforceVersions_eq reached]
    exact versionStage_of_loadedItem reached
  · exact versionStage_of_not_loaded (not_exists.mp loaded) parts

/-! What a query says about the bitrate it asks for. -/

theorem effectiveBitrate_le (cap : Int64) (queries : Queries) :
    effectiveBitrate cap queries ≤ cap := by
  unfold effectiveBitrate
  split
  · split
    · assumption
    · exact Int64.le_refl cap
  · exact Int64.le_refl cap

@[simp] theorem withinCap_effectiveBitrate (cap : Int64)
    (queries : Queries) :
    withinCap cap (toString (effectiveBitrate cap queries).toInt) = true := by
  simp only [withinCap, DecimalText.int64?_toString_toInt, Option.any_some]
  simpa using effectiveBitrate_le cap queries

theorem exceedsCap_eq_false_iff (cap : Int64) (queries : Queries) :
    exceedsCap cap queries = false ↔
      ∃ value, (queries.get? "maxVideoBitrate").or
          (queries.get? "videoBitrate") = some value ∧
        withinCap cap value = true := by
  unfold exceedsCap effectiveBitrate currentBitrate withinCap
  cases preferred : (queries.get? "maxVideoBitrate").or
      (queries.get? "videoBitrate") with
  | none => simp
  | some value =>
      cases read : DecimalText.int64? value with
      | none => simp [read]
      | some bitrate =>
          by_cases within : bitrate ≤ cap
          · simp [read, within, Int64.lt_irrefl]
          · simp [read, within, Int64.not_le.mp within]

theorem mem_bitrateValues_of_preferred {queries : Queries} {value : String}
    (preferred : (queries.get? "maxVideoBitrate").or
      (queries.get? "videoBitrate") = some value) :
    value ∈ bitrateValues queries := by
  unfold bitrateValues
  rw [List.mem_append]
  rcases Option.or_eq_some_iff.mp preferred with first | ⟨_, second⟩
  · exact .inl (MultiMap.mem_getAll_of_get? first)
  · exact .inr (MultiMap.mem_getAll_of_get? second)

theorem bitrateValues_ne_nil_of_not_exceeds {cap : Int64} {queries : Queries}
    (below : exceedsCap cap queries = false) : bitrateValues queries ≠ [] := by
  obtain ⟨value, preferred, _⟩ := (exceedsCap_eq_false_iff cap queries).mp below
  exact List.ne_nil_of_mem (mem_bitrateValues_of_preferred preferred)

theorem not_exceedsCap_of_within {cap : Int64} {queries : Queries}
    (present : bitrateValues queries ≠ [])
    (within : ∀ value ∈ bitrateValues queries, withinCap cap value = true) :
    exceedsCap cap queries = false := by
  rw [exceedsCap_eq_false_iff]
  cases preferred : (queries.get? "maxVideoBitrate").or
      (queries.get? "videoBitrate") with
  | some value =>
      exact ⟨value, rfl, within value (mem_bitrateValues_of_preferred preferred)⟩
  | none =>
      obtain ⟨noMax, noVideo⟩ := Option.or_eq_none_iff.mp preferred
      rw [MultiMap.get?_eq_none_iff] at noMax noVideo
      exact absurd (by simp [bitrateValues, noMax, noVideo]) present

theorem not_respectsCap_of_exceeds {cap : Int64} {incoming outgoing : Uri}
    (exceeds : exceedsCap cap outgoing.queries = true) :
    ¬ RespectsCap cap incoming (.forward outgoing) := by
  rintro ⟨present, within, _⟩
  rw [not_exceedsCap_of_within present within] at exceeds
  cases exceeds

theorem respectsCap_of_capped {cap : Int64} {incoming outgoing : Uri}
    (exceeds : exceedsCap cap incoming.queries = true)
    (most : outgoing.queries.getAll "maxVideoBitrate" =
      [toString (effectiveBitrate cap incoming.queries).toInt])
    (other : outgoing.queries.getAll "videoBitrate" = []) :
    RespectsCap cap incoming (.forward outgoing) := by
  have values : bitrateValues outgoing.queries =
      [toString (effectiveBitrate cap incoming.queries).toInt] := by
    simp [bitrateValues, most, other]
  refine ⟨by simp [values], ?_, fun present within => ?_⟩
  · intro value member
    rw [values, List.mem_singleton] at member
    subst member
    exact withinCap_effectiveBitrate cap incoming.queries
  · rw [not_exceedsCap_of_within present within] at exceeds
    cases exceeds

theorem respectsCap_unchanged_iff {cap : Int64} {uri : Uri}
    (below : exceedsCap cap uri.queries = false) :
    RespectsCap cap uri (.forward uri) ↔
      ∀ value ∈ bitrateValues uri.queries, withinCap cap value = true := by
  have present := bitrateValues_ne_nil_of_not_exceeds below
  simp [RespectsCap, present]

/-- A rewrite that keeps first values only leaves the preferred one and the
other parameter's. -/
theorem respectsCap_firsts_iff {cap : Int64} {incoming outgoing : Uri}
    (below : exceedsCap cap incoming.queries = false)
    (firsts : ∀ key ∈ ["maxVideoBitrate", "videoBitrate"],
      outgoing.queries.getAll key = (incoming.queries.get? key).toList) :
    RespectsCap cap incoming (.forward outgoing) ↔
      ∀ value, incoming.queries.get? "videoBitrate" = some value →
        withinCap cap value = true := by
  have most := firsts "maxVideoBitrate" (by simp)
  have other := firsts "videoBitrate" (by simp)
  obtain ⟨value, preferred, within⟩ :=
    (exceedsCap_eq_false_iff cap incoming.queries).mp below
  have subset (key : String) :
      (incoming.queries.get? key).toList ⊆ incoming.queries.getAll key := by
    intro item member
    exact MultiMap.mem_getAll_of_get? (Option.mem_toList.mp member)
  simp only [RespectsCap, bitrateValues, most, other]
  constructor
  · rintro ⟨_, all, _⟩ second found
    exact all second (by simp [found])
  · intro video
    refine ⟨?_, ?_, fun _ _ => ⟨subset _, subset _⟩⟩
    · rcases Option.or_eq_some_iff.mp preferred with first | ⟨_, second⟩
      · simp [first]
      · simp [second]
    · intro item member
      rcases List.mem_append.mp member with first | second
      · rw [Option.mem_toList] at first
        rw [first, Option.some_or] at preferred
        cases preferred
        exact within
      · exact video item (Option.mem_toList.mp second)

theorem exceedsCap_congr {cap : Int64} {left right : Queries}
    (most : left.get? "maxVideoBitrate" = right.get? "maxVideoBitrate")
    (other : left.get? "videoBitrate" = right.get? "videoBitrate") :
    exceedsCap cap left = exceedsCap cap right := by
  have same : currentBitrate left = currentBitrate right := by
    unfold currentBitrate
    rw [most, other]
  unfold exceedsCap effectiveBitrate
  rw [same]

theorem get?_pinned_of_ne {codec : UrlCodec} {index : Nat} {uri : Uri}
    (rewrites : codec.Rewrites (pinnedQueries index uri.queries) uri)
    {key : String} (different : key ≠ "mediaIndex") :
    (replaceQuery codec (pinnedQueries index uri.queries) uri).queries.get?
        key = uri.queries.get? key :=
  MultiMap.get?_of_getAll_eq_toList (getAll_pinned_of_ne rewrites different)

theorem not_capRewrites_of_limit {codec : UrlCodec} {cap : Int64} {uri : Uri}
    (limit : policy.maxBitrate = some cap)
    (fails : ¬ codec.Rewrites (cappedQueries cap uri.queries) uri) :
    ¬ CapRewrites codec policy uri := by
  rintro ⟨other, found, _, rewrites⟩
  rw [limit] at found
  cases found
  exact fails rewrites

theorem getAll_capBitrate_of_rewrites {codec : UrlCodec} {cap : Int64}
    {uri : Uri} (limit : policy.maxBitrate = some cap)
    (exceeds : exceedsCap cap uri.queries = true)
    (rewrites : codec.Rewrites (cappedQueries cap uri.queries) uri) :
    (capBitrate codec policy uri).queries.getAll "maxVideoBitrate" =
        [toString (effectiveBitrate cap uri.queries).toInt] ∧
      (capBitrate codec policy uri).queries.getAll "videoBitrate" = [] := by
  rw [queries_capBitrate_of_rewrites limit exceeds rewrites]
  constructor
  · rw [MultiMap.getAll_iter, MultiMap.get?, getAll_cappedQueries_max]
    rfl
  · rw [MultiMap.getAll_iter, MultiMap.get?, getAll_cappedQueries_video]
    rfl

theorem respectsCap_after_cap {cap : Int64} {uri : Uri}
    {outcome : HoopOutcome}
    (limit : policy.maxBitrate = some cap)
    (exceeds : exceedsCap cap uri.queries = true)
    (rewrites : services.codec.Rewrites (cappedQueries cap uri.queries) uri)
    (stage : VersionStage services runtime client policy
      (capBitrate services.codec policy uri) outcome) :
    RespectsCap cap uri outcome := by
  obtain ⟨most, other⟩ := getAll_capBitrate_of_rewrites limit exceeds rewrites
  cases stage with
  | stopped stops => trivial
  | untouched goesOn leaves => exact respectsCap_of_capped exceeds most other
  | pinned goesOn pins converted =>
      refine respectsCap_of_capped exceeds ?_ ?_
      · rw [getAll_pinned_of_ne converted (by decide), MultiMap.get?, most]
        rfl
      · rw [getAll_pinned_of_ne converted (by decide), MultiMap.get?, other]
        rfl

/-- Without a rewrite of the cap, a request that needed one does not respect
it, whatever the version stage pins. -/
theorem respectsCap_of_failed_cap_iff {cap : Int64} {uri : Uri}
    {outcome : HoopOutcome}
    (exceeds : exceedsCap cap uri.queries = true)
    (stage : VersionStage services runtime client policy uri outcome) :
    RespectsCap cap uri outcome ↔
      VersionStops services runtime client policy uri.queries := by
  cases stage with
  | stopped stops => exact iff_of_true trivial stops
  | untouched goesOn leaves =>
      exact iff_of_false (not_respectsCap_of_exceeds exceeds) goesOn
  | pinned goesOn pins converted =>
      refine iff_of_false (not_respectsCap_of_exceeds ?_) goesOn
      rw [exceedsCap_congr (get?_pinned_of_ne converted (by decide))
        (get?_pinned_of_ne converted (by decide)), exceeds]

/-- A request whose preferred value is within the cap is not looked at
further, but a pin drops all values after the first. -/
theorem respectsCap_of_not_exceeds_iff {cap : Int64} {uri : Uri}
    {outcome : HoopOutcome}
    (below : exceedsCap cap uri.queries = false)
    (stage : VersionStage services runtime client policy uri outcome) :
    RespectsCap cap uri outcome ↔
      VersionStops services runtime client policy uri.queries ∨
        (∀ value ∈ bitrateValues uri.queries, withinCap cap value = true) ∨
        (VersionPins services client policy uri ∧
          ∀ value, uri.queries.get? "videoBitrate" = some value →
            withinCap cap value = true) := by
  cases stage with
  | stopped stops => exact iff_of_true trivial (.inl stops)
  | untouched goesOn leaves =>
      simp [respectsCap_unchanged_iff below, goesOn, leaves]
  | @pinned index goesOn pins converted =>
      have firsts : ∀ key ∈ ["maxVideoBitrate", "videoBitrate"],
          (replaceQuery services.codec (pinnedQueries index uri.queries)
            uri).queries.getAll key = (uri.queries.get? key).toList := by
        intro key member
        refine getAll_pinned_of_ne converted ?_
        rintro rfl
        exact absurd member (by decide)
      rw [respectsCap_firsts_iff below firsts]
      simp only [goesOn, pins, true_and, false_or]
      refine ⟨.inr, fun either => ?_⟩
      rcases either with all | video
      · intro value found
        refine all value (List.mem_append.mpr (.inr ?_))
        exact MultiMap.mem_getAll_of_get? found
      · exact video

/-- When the cap bounds what leaves the hoop. Only the first value of the
preferred parameter is looked at, so further values pass unless a rewrite,
of the bitrate or of the index, drops them. -/
theorem enforced_bitrate_within_iff {config : Config} {depot : Depot}
    {cap : Int64}
    (settled : PlaybackPolicy services config runtime depot client policy)
    (limit : policy.maxBitrate = some cap) (parts : PartMediaCache)
    (uri : Uri) :
    RespectsCap cap uri
        (enforceResolutionPolicy services config runtime depot parts
          uri).outcome ↔
      VersionStops services runtime client policy uri.queries ∨
        if exceedsCap cap uri.queries then
          services.codec.Rewrites (cappedQueries cap uri.queries) uri
        else
          (∀ value ∈ bitrateValues uri.queries, withinCap cap value = true) ∨
            (VersionPins services client policy uri ∧
              ∀ value, uri.queries.get? "videoBitrate" = some value →
                withinCap cap value = true) := by
  rw [enforceResolutionPolicy_eq settled]
  have stage : VersionStage services runtime client policy
      (capBitrate services.codec policy uri) _ :=
    enforceVersions_stage parts (capBitrate services.codec policy uri)
  cases exceeds : exceedsCap cap uri.queries with
  | true =>
      simp only [if_true]
      by_cases rewrites :
          services.codec.Rewrites (cappedQueries cap uri.queries) uri
      · exact iff_of_true
          (respectsCap_after_cap limit exceeds rewrites stage)
          (.inr rewrites)
      · have same : capBitrate services.codec policy uri = uri :=
          capBitrate_of_not_rewrites (not_capRewrites_of_limit limit rewrites)
        rw [same] at stage ⊢
        simpa [rewrites] using respectsCap_of_failed_cap_iff exceeds stage
  | false =>
      have same : capBitrate services.codec policy uri = uri := by
        simp [capBitrate, limit, exceeds]
      rw [same] at stage ⊢
      simpa using respectsCap_of_not_exceeds_iff exceeds stage

theorem enforced_bitrate_within_iff_viewer :
    RespectsCap 8000 (viewerUri [("videoBitrate", "20000")])
      (enforceResolutionPolicy (viewerServices [fullHdVersion]) viewerConfig
        viewerRuntime (viewerDepot ⟨.unlimited, some 8000, []⟩) Store.empty
        (viewerUri [("videoBitrate", "20000")])).outcome := by
  refine (enforced_bitrate_within_iff (playbackPolicy_viewer _ _) rfl
    Store.empty _).mpr (.inr ?_)
  rw [if_pos (by decide)]
  decide

/-- A low first value of the preferred parameter covers a high value of the
other one. -/
theorem second_bitrate_forwarded :
    ¬ RespectsCap 8000
      (viewerUri [("maxVideoBitrate", "4000"), ("videoBitrate", "20000")])
      (enforceResolutionPolicy (viewerServices [fullHdVersion]) viewerConfig
        viewerRuntime (viewerDepot ⟨.unlimited, some 8000, []⟩) Store.empty
        (viewerUri [("maxVideoBitrate", "4000"),
          ("videoBitrate", "20000")])).outcome := by
  have outcome : (enforceResolutionPolicy (viewerServices [fullHdVersion])
      viewerConfig viewerRuntime (viewerDepot ⟨.unlimited, some 8000, []⟩)
      Store.empty
      (viewerUri [("maxVideoBitrate", "4000"),
        ("videoBitrate", "20000")])).outcome =
      .forward (viewerUri [("maxVideoBitrate", "4000"),
        ("videoBitrate", "20000")]) := by
    decide
  rw [outcome]
  rintro ⟨_, within, _⟩
  exact absurd (within "20000" (by decide)) (by decide)

end

end Replex
