import Replex.Routes.PlaybackVersions
import Replex.Routes.PlaybackBitrate

namespace Replex

open Data

/-! What becomes of the rewrites the hoop decides on when a request target
cannot be rewritten. -/

def CapDecided (policy : ResolutionPolicy) (queries : Queries)
    (cap : Int64) : Prop :=
  policy.maxBitrate = some cap ∧ exceedsCap cap queries = true

section

variable (services : PlaybackServices) (runtime : PolicySnapshot)
  (client : PlexClient) (policy : ResolutionPolicy)

/-- The index asked for is not permitted, and this one is to replace it. -/
def PinDecided (uri : Uri) (index : Nat) : Prop :=
  ∃ item, LoadedItem services client policy uri item ∧
    requestPermitted item.media policy uri.queries = false ∧
    pinnedIndex item.media policy (screenOf client.context) = some index

/-- A request goes on with the values decided on and without the ones they
were to replace, or it is stopped. -/
def CarriesRewrites (incoming : Uri) : HoopOutcome → Prop
  | .stop _ => True
  | .forward outgoing =>
      (∀ cap, CapDecided policy incoming.queries cap →
        bitrateValues outgoing.queries =
          [toString (effectiveBitrate cap incoming.queries).toInt]) ∧
      ∀ index, PinDecided services client policy incoming index →
        outgoing.queries.getAll "mediaIndex" = [toString index] ∧
          requestedIndex outgoing.queries ≠ requestedIndex incoming.queries

/-- Every rewrite decided on parses and converts back, and none replaces an
index by itself: two versions with one id make that possible. -/
def RewritesTakeEffect (uri : Uri) : Prop :=
  (∀ cap, CapDecided policy uri.queries cap →
    services.codec.Rewrites (cappedQueries cap uri.queries) uri) ∧
  ∀ index, PinDecided services client policy uri index →
    requestedIndex uri.queries ≠ some index ∧
      PinRewrites services.codec policy index uri

variable {services runtime client policy} {uri : Uri}

theorem PinDecided.of_loadedItem {item : MetaData} {index : Nat}
    (reached : LoadedItem services client policy uri item)
    (decided : PinDecided services client policy uri index) :
    requestPermitted item.media policy uri.queries = false ∧
      pinnedIndex item.media policy (screenOf client.context) =
        some index := by
  obtain ⟨other, found, refused, pinned⟩ := decided
  rw [reached.unique found] at refused pinned
  exact ⟨refused, pinned⟩

theorem versionStops_capBitrate (codec : UrlCodec) (uri : Uri) :
    VersionStops services runtime client policy
        (capBitrate codec policy uri).queries ↔
      VersionStops services runtime client policy uri.queries := by
  have path : (capBitrate codec policy uri).queries.get? "path" =
      uri.queries.get? "path" :=
    get?_capBitrate_of_ne codec policy uri (by decide) (by decide)
  simp only [VersionStops, requestPermitted_capBitrate, path]

theorem requestedIndex_congr {left right : Queries}
    (same : left.get? "mediaIndex" = right.get? "mediaIndex") :
    requestedIndex left = requestedIndex right := by
  unfold requestedIndex
  rw [same]

theorem requestedIndex_of_getAll {queries : Queries} {index : Nat}
    (values : queries.getAll "mediaIndex" = [toString index])
    (bounded : index < 2 ^ 64) : requestedIndex queries = some index := by
  have read := DecimalText.usize?_toString bounded
  have named : toString index ≠ "-1" := ne_unset_of_usize? read
  simp only [requestedIndex, MultiMap.get?, values, List.head?_cons,
    Option.filter, decide_not, named, decide_false, Bool.not_false, if_true,
    Option.bind_some, read]

/-! The bitrate. -/

/-- Each value the cap left is kept, or the first one of its parameter. -/
def KeepsBitrates (capped outgoing : Uri) : Prop :=
  ∀ key ∈ ["maxVideoBitrate", "videoBitrate"],
    outgoing.queries.getAll key = capped.queries.getAll key ∨
      outgoing.queries.getAll key = (capped.queries.get? key).toList

theorem KeepsBitrates.get? {capped outgoing : Uri} {key : String}
    (keeps : KeepsBitrates capped outgoing)
    (listed : key ∈ ["maxVideoBitrate", "videoBitrate"]) :
    outgoing.queries.get? key = capped.queries.get? key := by
  rcases keeps key listed with all | first
  · exact MultiMap.get?_congr all
  · exact MultiMap.get?_of_getAll_eq_toList first

theorem bitrates_carried_iff {codec : UrlCodec} {outgoing : Uri}
    (keeps : KeepsBitrates (capBitrate codec policy uri) outgoing) :
    (∀ cap, CapDecided policy uri.queries cap →
        bitrateValues outgoing.queries =
          [toString (effectiveBitrate cap uri.queries).toInt]) ↔
      ∀ cap, CapDecided policy uri.queries cap →
        codec.Rewrites (cappedQueries cap uri.queries) uri := by
  apply forall_congr'
  intro cap
  apply imp_congr_right
  rintro ⟨limit, exceeds⟩
  constructor
  · intro carried
    by_contra fails
    have same : capBitrate codec policy uri = uri :=
      capBitrate_of_not_rewrites (not_capRewrites_of_limit limit fails)
    rw [same] at keeps
    have still : exceedsCap cap outgoing.queries = true := by
      rw [exceedsCap_congr (keeps.get? (by simp)) (keeps.get? (by simp)),
        exceeds]
    have below : exceedsCap cap outgoing.queries = false := by
      apply not_exceedsCap_of_within
      · simp [carried]
      · intro value listed
        rw [carried, List.mem_singleton] at listed
        subst listed
        exact withinCap_effectiveBitrate cap uri.queries
    rw [still] at below
    cases below
  · intro rewrites
    obtain ⟨most, other⟩ := getAll_capBitrate_of_rewrites limit exceeds rewrites
    have outgoingMost : outgoing.queries.getAll "maxVideoBitrate" =
        [toString (effectiveBitrate cap uri.queries).toInt] := by
      rcases keeps "maxVideoBitrate" (by simp) with all | first
      · rw [all, most]
      · rw [first, MultiMap.get?, most]
        rfl
    have outgoingOther : outgoing.queries.getAll "videoBitrate" = [] := by
      rcases keeps "videoBitrate" (by simp) with all | first
      · rw [all, other]
      · rw [first, MultiMap.get?, other]
        rfl
    simp [bitrateValues, outgoingMost, outgoingOther]

theorem keepsBitrates_refl (capped : Uri) : KeepsBitrates capped capped :=
  fun _ _ => .inl rfl

theorem keepsBitrates_pinned {codec : UrlCodec} {capped : Uri} {index : Nat}
    (rewrites :
      codec.Rewrites (pinnedQueries index capped.queries) capped) :
    KeepsBitrates capped
      (replaceQuery codec (pinnedQueries index capped.queries) capped) := by
  intro key listed
  refine .inr (getAll_pinned_of_ne rewrites ?_)
  rintro rfl
  exact absurd listed (by decide)

/-! The index. -/

theorem carriesRewrites_of_nothing_pinned {outgoing : Uri} {codec : UrlCodec}
    (keeps : KeepsBitrates (capBitrate codec policy uri) outgoing)
    (nothing : ∀ index, ¬ PinDecided services client policy uri index) :
    CarriesRewrites services client policy uri (.forward outgoing) ↔
      ∀ cap, CapDecided policy uri.queries cap →
        codec.Rewrites (cappedQueries cap uri.queries) uri := by
  rw [← bitrates_carried_iff keeps]
  simp [CarriesRewrites, nothing]

theorem carriesRewrites_of_pinDecided {outgoing : Uri} {codec : UrlCodec}
    {item : MetaData} {index : Nat}
    (keeps : KeepsBitrates (capBitrate codec policy uri) outgoing)
    (reached : LoadedItem services client policy uri item)
    (decided : PinDecided services client policy uri index) :
    CarriesRewrites services client policy uri (.forward outgoing) ↔
      (∀ cap, CapDecided policy uri.queries cap →
        codec.Rewrites (cappedQueries cap uri.queries) uri) ∧
      outgoing.queries.getAll "mediaIndex" = [toString index] ∧
        requestedIndex outgoing.queries ≠ requestedIndex uri.queries := by
  rw [← bitrates_carried_iff keeps]
  apply and_congr_right
  intro _
  constructor
  · intro carried
    exact carried index decided
  · intro carried other also
    have same : some other = some index :=
      (also.of_loadedItem reached).2.symm.trans (decided.of_loadedItem reached).2
    cases same
    exact carried

/-- A pin that fails leaves the index asked for in place. -/
theorem carriesRewrites_pinned_iff {codec : UrlCodec} {item : MetaData}
    {index : Nat} (reached : LoadedItem services client policy uri item)
    (bounded : item.media.length < 2 ^ 64)
    (decided : PinDecided services client policy uri index) :
    CarriesRewrites services client policy uri
        (.forward (replaceQuery codec
          (pinnedQueries index (capBitrate codec policy uri).queries)
          (capBitrate codec policy uri))) ↔
      (∀ cap, CapDecided policy uri.queries cap →
        codec.Rewrites (cappedQueries cap uri.queries) uri) ∧
      requestedIndex uri.queries ≠ some index ∧
        PinRewrites codec policy index uri := by
  have small : index < 2 ^ 64 :=
    (pinnedIndex_lt (decided.of_loadedItem reached).2).trans bounded
  by_cases rewrites : PinRewrites codec policy index uri
  · rw [carriesRewrites_of_pinDecided (keepsBitrates_pinned rewrites) reached
      decided]
    have values := getAll_mediaIndex_pinned rewrites
    simp only [values, requestedIndex_of_getAll values small, rewrites,
      true_and, and_true, ne_comm (a := some index)]
  · rw [replaceQuery_of_not_rewrites rewrites,
      carriesRewrites_of_pinDecided (keepsBitrates_refl _) reached decided]
    have kept : requestedIndex (capBitrate codec policy uri).queries =
        requestedIndex uri.queries :=
      requestedIndex_congr
        (get?_capBitrate_of_ne codec policy uri (by decide) (by decide))
    simp [kept, rewrites]

/-- A loaded item decides what is pinned. -/
theorem carriesRewrites_selectVersion_iff {item : MetaData}
    (reached : LoadedItem services client policy uri item)
    (bounded : item.media.length < 2 ^ 64) :
    CarriesRewrites services client policy uri
        (selectVersion services.codec policy (screenOf client.context)
          item.media (capBitrate services.codec policy uri)) ↔
      VersionStops services runtime client policy uri.queries ∨
        RewritesTakeEffect services client policy uri := by
  have stops_iff : VersionStops services runtime client policy uri.queries ↔ _ :=
    versionStops_iff_of_loadedItem reached
  have same := requestPermitted_capBitrate services.codec item.media policy uri
  unfold RewritesTakeEffect
  cases verdict : requestPermitted item.media policy uri.queries with
  | true =>
      have nothing :
          ∀ index, ¬ PinDecided services client policy uri index := by
        intro index decided
        rw [(decided.of_loadedItem reached).1] at verdict
        cases verdict
      rw [selectVersion_of_permitted (same.trans verdict),
        carriesRewrites_of_nothing_pinned (keepsBitrates_refl _) nothing,
        stops_iff, verdict]
      simp [nothing]
  | false =>
      by_cases noneAllowed :
          ∀ version ∈ item.media, mediaAllowed version policy = false
      · rw [selectVersion_of_none_allowed (same.trans verdict) noneAllowed]
        exact iff_of_true trivial (.inl (stops_iff.mpr ⟨verdict, noneAllowed⟩))
      · obtain ⟨index, pinned⟩ := pinnedIndex_isSome
          (screenOf client.context) (by simpa using noneAllowed)
        have decided : PinDecided services client policy uri index :=
          ⟨item, reached, verdict, pinned⟩
        have only : ∀ other, PinDecided services client policy uri other ↔
            index = other := by
          intro other
          refine ⟨fun also => ?_, fun equal => equal ▸ decided⟩
          have both := pinned.symm.trans (also.of_loadedItem reached).2
          exact Option.some.inj both
        rw [selectVersion_of_pinnedIndex (same.trans verdict) pinned,
          carriesRewrites_pinned_iff reached bounded decided]
        simp only [stops_iff, noneAllowed, and_false, false_or, only,
          forall_eq']

theorem carriesRewrites_of_not_loaded {outcome : HoopOutcome}
    (absent : ∀ item, ¬ LoadedItem services client policy uri item)
    (stage : VersionStage services runtime client policy
      (capBitrate services.codec policy uri) outcome) :
    CarriesRewrites services client policy uri outcome ↔
      VersionStops services runtime client policy uri.queries ∨
        RewritesTakeEffect services client policy uri := by
  have nothing : ∀ index, ¬ PinDecided services client policy uri index :=
    fun index ⟨item, reached, _⟩ => absent item reached
  cases stage with
  | stopped stops =>
      exact iff_of_true trivial
        (.inl ((versionStops_capBitrate services.codec uri).mp stops))
  | untouched goesOn leaves =>
      rw [versionStops_capBitrate] at goesOn
      rw [carriesRewrites_of_nothing_pinned (keepsBitrates_refl _) nothing]
      simp [goesOn, nothing, RewritesTakeEffect]
  | pinned goesOn pins rewrites =>
      obtain ⟨item, _, reached, _⟩ := pins
      exact absurd reached.of_capBitrate (absent item)

/-- When every rewrite the hoop decides on reaches the request that goes
on. -/
theorem decided_rewrites_carried_iff {config : Config} {depot : Depot}
    (settled : PlaybackPolicy services config runtime depot client policy)
    (parts : PartMediaCache) (uri : Uri)
    (bounded : ∀ item, LoadedItem services client policy uri item →
      item.media.length < 2 ^ 64) :
    CarriesRewrites services client policy uri
        (enforceResolutionPolicy services config runtime depot parts
          uri).outcome ↔
      VersionStops services runtime client policy uri.queries ∨
        RewritesTakeEffect services client policy uri := by
  by_cases loaded : ∃ item, LoadedItem services client policy uri item
  · obtain ⟨item, reached⟩ := loaded
    rw [outcome_eq_selectVersion settled reached]
    exact carriesRewrites_selectVersion_iff reached (bounded item reached)
  · rw [enforceResolutionPolicy_eq settled]
    exact carriesRewrites_of_not_loaded (not_exists.mp loaded)
      (enforceVersions_stage parts _)

/-! Hyper hands over the target of a request without a usable `Host` as its
path and query alone. -/

def originFormUri (queries : List (String × String)) : Uri :=
  { viewerUri queries with origin := "" }

theorem decided_rewrites_carried_iff_viewer :
    CarriesRewrites (viewerServices [uhdVersion, fullHdVersion])
      (viewerClient ⟨.p1080, none, []⟩) ⟨.p1080, none, []⟩
      (viewerUri [("mediaIndex", "0")])
      (enforceResolutionPolicy (viewerServices [uhdVersion, fullHdVersion])
        viewerConfig viewerRuntime (viewerDepot ⟨.p1080, none, []⟩)
        Store.empty (viewerUri [("mediaIndex", "0")])).outcome := by
  have reached : LoadedItem (viewerServices [uhdVersion, fullHdVersion])
      (viewerClient ⟨.p1080, none, []⟩) ⟨.p1080, none, []⟩
      (viewerUri [("mediaIndex", "0")]) _ :=
    loadedItem_viewer (by decide) (by decide) _
  refine (decided_rewrites_carried_iff (playbackPolicy_viewer _ _) Store.empty
    _ ?_).mpr (.inr ⟨?_, ?_⟩)
  · intro item found
    rw [reached.unique found]
    decide
  · rintro cap ⟨limit, _⟩
    cases limit
  · intro index decided
    have pinned := (decided.of_loadedItem reached).2
    cases pinned
    refine ⟨by decide, ?_⟩
    unfold PinRewrites
    decide

/-- In origin form the prohibited index goes on as it came. -/
theorem prohibited_index_forwarded_in_origin_form :
    ¬ CarriesRewrites (viewerServices [uhdVersion, fullHdVersion])
      (viewerClient ⟨.p1080, none, []⟩) ⟨.p1080, none, []⟩
      (originFormUri [("mediaIndex", "0")])
      (enforceResolutionPolicy (viewerServices [uhdVersion, fullHdVersion])
        viewerConfig viewerRuntime (viewerDepot ⟨.p1080, none, []⟩)
        Store.empty (originFormUri [("mediaIndex", "0")])).outcome := by
  have outcome : (enforceResolutionPolicy
      (viewerServices [uhdVersion, fullHdVersion]) viewerConfig viewerRuntime
      (viewerDepot ⟨.p1080, none, []⟩) Store.empty
      (originFormUri [("mediaIndex", "0")])).outcome =
      .forward (originFormUri [("mediaIndex", "0")]) := by
    decide
  have decided : PinDecided (viewerServices [uhdVersion, fullHdVersion])
      (viewerClient ⟨.p1080, none, []⟩) ⟨.p1080, none, []⟩
      (originFormUri [("mediaIndex", "0")]) 1 :=
    ⟨viewerItem [uhdVersion, fullHdVersion],
      { limited := by decide
        loaded := ⟨"/library/metadata/1", _, rfl, rfl, rfl⟩
        nonempty := by decide }, by decide, by decide⟩
  rw [outcome]
  rintro ⟨_, carried⟩
  exact (carried 1 decided).2 rfl

end

end Replex
