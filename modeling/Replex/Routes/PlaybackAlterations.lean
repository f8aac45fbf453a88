import Mathlib.Logic.Relation
import Replex.Data.Alterations
import Replex.Routes.PlaybackHoops

namespace Replex

open Data

/-! What the playback hoops may change in a request on its way to Plex. -/

/-- The target is as the URL parser reads it, however often it did. -/
def Reread (codec : UrlCodec) (before after : Uri) : Prop :=
  Relation.ReflTransGen
    (fun left right => codec.parse? left.1 left.2 = some right)
    (before.origin, before.path) (after.origin, after.path)

structure Altered (codec : UrlCodec) (alterations : Alterations String String)
    (before after : Uri) : Prop where
  queries : alterations.Confine before.queries after.queries
  target : Reread codec before after

section

variable {codec : UrlCodec} {alterations : Alterations String String}
  {first second third : Uri}

theorem Altered.refl (codec : UrlCodec)
    (alterations : Alterations String String) (uri : Uri) :
    Altered codec alterations uri uri where
  queries := .refl alterations uri.queries
  target := .refl

theorem Altered.trans (before : Altered codec alterations first second)
    (after : Altered codec alterations second third) :
    Altered codec alterations first third where
  queries := before.queries.trans after.queries
  target := before.target.trans after.target

theorem Altered.mono {larger : Alterations String String}
    (altered : Altered codec alterations first second)
    (includes : larger.Includes alterations) :
    Altered codec larger first second where
  queries := altered.queries.mono includes
  target := altered.target

theorem altered_replaceQuery (codec : UrlCodec) {query : Queries} {uri : Uri}
    (prepared : alterations.Confine uri.queries query) :
    Altered codec alterations uri (replaceQuery codec query uri) := by
  unfold replaceQuery
  cases rewritten : codec.rewritten query uri with
  | none => exact .refl ..
  | some next =>
      dsimp only
      split
      · obtain ⟨parsed, read, rfl⟩ := Option.map_eq_some_iff.mp rewritten
        exact ⟨prepared.iter, .single read⟩
      · exact .refl ..

theorem altered_addQueryParamSalvo (codec : UrlCodec) {param value : String}
    (writes : alterations.writes param value) (uri : Uri) :
    Altered codec alterations uri
      (addQueryParamSalvo codec param value uri) := by
  unfold addQueryParamSalvo
  split
  · exact .refl ..
  next parsed read =>
      dsimp only
      split
      · exact ⟨(Alterations.Confine.refl _ _).set writes, .single read⟩
      · exact .refl ..

end

/-! What each hoop may change. -/

/-- The decimal text of a version's index. -/
def IndexText (value : String) : Prop :=
  ∃ index : Nat, value = toString index

def enforcementAlterations : Alterations String String where
  writes key value :=
    key = "mediaIndex" ∧ IndexText value ∨
      key = "maxVideoBitrate" ∧ ∃ rate : Int64, value = toString rate.toInt
  drops key := key = "maxVideoBitrate" ∨ key = "videoBitrate"

def selectionAlterations : Alterations String String where
  writes key value :=
    key = "mediaIndex" ∧ IndexText value ∨
      (key, value) ∈ [("directPlay", "1"), ("subtitles", "auto")]
  drops _ := False

def qualitySettings : Alterations String String where
  writes key value :=
    (key, value) ∈ [("autoAdjustQuality", "0"), ("directStream", "1"),
      ("directPlay", "1"), ("videoQuality", "100")]
  drops key := key ∈ ["maxVideoBitrate", "videoBitrate", "videoResolution"]

/-- The buffer size and the profile are made from the request's own. -/
def qualityRewordings (services : HoopServices) (requested : Queries) :
    Alterations String String where
  writes key value :=
    key = "mediaBufferSize" ∧ (∃ raw,
        requested.get? "mediaBufferSize" = some raw ∧
          value = wholeBufferSize services raw) ∨
      key = profileExtra ∧ ∃ extra, requested.get? profileExtra = some extra ∧
        value = filteredExtra services extra
  drops _ := False

def qualityAlterations (services : HoopServices) (requested : Queries) :
    Alterations String String :=
  qualitySettings.or (qualityRewordings services requested)

def fallbackAlterations : Alterations String String where
  writes key value :=
    key = "mediaIndex" ∧ IndexText value ∨
      (key, value) ∈ [("directStream", "1"), ("directPlay", "1"),
        ("subtitles", "auto")]
  drops _ := False

def directStreamAlterations : Alterations String String where
  writes key value :=
    (key, value) ∈ [("directPlay", "0"), ("directStream", "1")]
  drops _ := False

theorem HoopOutcome.Satisfies.imp {property result : Uri → Prop}
    {outcome : HoopOutcome} (satisfied : outcome.Satisfies property)
    (implies : ∀ uri, property uri → result uri) :
    outcome.Satisfies result := by
  cases outcome with
  | forward uri => exact implies uri satisfied
  | stop status => trivial

/-! Enforcement. -/

section

variable {codec : UrlCodec} {services : HoopServices} {config : Config}
  {depot : Depot} {runtime : PolicySnapshot}

/-- Dropping a key and giving it one value sets it. -/
theorem confine_cappedQueries (cap : Int64) (queries : Queries) :
    enforcementAlterations.Confine queries (cappedQueries cap queries) := by
  have dropped : enforcementAlterations.Confine queries
      (queries.remove "videoBitrate") :=
    (Alterations.Confine.refl _ _).remove (.inr rfl)
  exact dropped.set (.inr ⟨rfl, _, rfl⟩)

theorem confine_pinnedQueries (index : Nat) (queries : Queries) :
    enforcementAlterations.Confine queries (pinnedQueries index queries) :=
  (Alterations.Confine.refl enforcementAlterations queries).set
    (.inl ⟨rfl, index, rfl⟩)

theorem capBitrate_alters (codec : UrlCodec) (policy : ResolutionPolicy)
    (uri : Uri) :
    Altered codec enforcementAlterations uri (capBitrate codec policy uri) := by
  unfold capBitrate
  split
  · exact .refl ..
  · split
    · exact altered_replaceQuery codec (confine_cappedQueries _ _)
    · exact .refl ..

theorem selectVersion_alters (codec : UrlCodec) (policy : ResolutionPolicy)
    (screen : Option (Int64 × Int64)) (media : List Media) (uri : Uri) :
    (selectVersion codec policy screen media uri).Satisfies
      (Altered codec enforcementAlterations uri) := by
  unfold selectVersion
  split
  · exact .refl ..
  · split
    · trivial
    · split
      · exact .refl ..
      · exact altered_replaceQuery codec (confine_pinnedQueries _ _)

theorem enforceVersions_alters (services : PlaybackServices)
    (runtime : PolicySnapshot) (client : PlexClient)
    (policy : ResolutionPolicy) (parts : PartMediaCache) (uri : Uri) :
    (enforceVersions services runtime client policy parts uri).outcome.Satisfies
      (Altered services.codec enforcementAlterations uri) := by
  have unchanged := Altered.refl services.codec enforcementAlterations uri
  unfold enforceVersions
  split
  · exact unchanged
  · split
    · exact unchanged
    · split
      · dsimp only
        split
        · trivial
        · exact unchanged
      · split
        · dsimp only
          split
          · trivial
          · exact unchanged
        · split
          · exact unchanged
          · exact selectVersion_alters ..

theorem enforceResolutionPolicy_alters (services : PlaybackServices)
    (config : Config) (runtime : PolicySnapshot) (depot : Depot)
    (parts : PartMediaCache) (uri : Uri) :
    (enforceResolutionPolicy services config runtime depot parts
      uri).outcome.Satisfies
        (Altered services.codec
          (enforcementAlterations.onlyIf (runtime.enabled = true)) uri) := by
  unfold enforceResolutionPolicy
  split
  · exact .refl ..
  next enabled =>
      have active : runtime.enabled = true := by simpa using enabled
      have installed : ∀ {outgoing : Uri},
          Altered services.codec enforcementAlterations uri outgoing →
          Altered services.codec
            (enforcementAlterations.onlyIf (runtime.enabled = true)) uri
            outgoing :=
        fun altered => altered.mono (Alterations.onlyIf_includes _ active)
      split
      · trivial
      · split
        · trivial
        · split
          · trivial
          · exact .refl ..
          next policy _ =>
            split
            · exact .refl ..
            · exact (enforceVersions_alters ..).imp fun outgoing altered =>
                installed ((capBitrate_alters services.codec policy uri).trans
                  altered)

end

/-! The optional hoops. None of them touches the request of a client that they
skip. -/

section

variable {services : HoopServices} {config : Config} {depot : Depot}

theorem satisfies_withHoopClient {property : Uri → Prop}
    {serve : PlexClient → HoopOutcome}
    (served : ∀ client, (serve client).Satisfies property) :
    (withHoopClient config depot serve).Satisfies property := by
  unfold withHoopClient
  split
  · trivial
  · split
    · trivial
    · exact served _

theorem confine_playDirectly {alterations : Alterations String String}
    (directPlay : alterations.writes "directPlay" "1")
    (subtitles : alterations.writes "subtitles" "auto")
    {before queries : Queries} (requested : Queries)
    (confined : alterations.Confine before queries) :
    alterations.Confine before (playDirectly requested queries) := by
  unfold playDirectly
  dsimp only
  split
  · exact (confined.set directPlay).set subtitles
  · exact confined.set subtitles

theorem confine_autoSelectedQueries (index : Nat) (queries : Queries) :
    selectionAlterations.Confine queries
      (autoSelectedQueries index queries) := by
  have named : selectionAlterations.Confine queries
      (queries.set "mediaIndex" (toString index)) :=
    (Alterations.Confine.refl _ _).set (.inl ⟨rfl, index, rfl⟩)
  refine confine_playDirectly ?_ ?_ queries named
  · exact Or.inr (by decide)
  · exact Or.inr (by decide)

theorem autoSelectFor_alters (services : HoopServices) (client : PlexClient)
    (screen : Int64 × Int64) (uri : Uri) :
    Altered services.codec selectionAlterations uri
      (autoSelectFor services client screen uri) := by
  have unchanged := Altered.refl services.codec selectionAlterations uri
  have reduced := altered_replaceQuery services.codec
    (Alterations.Confine.refl selectionAlterations uri.queries)
  unfold autoSelectFor
  split
  · exact reduced
  · split
    · exact unchanged
    · split
      · exact unchanged
      · split
        · exact unchanged
        · split
          · exact reduced
          · exact altered_replaceQuery services.codec
              (confine_autoSelectedQueries _ _)

theorem autoSelectVersion_alters (services : HoopServices) (config : Config)
    (depot : Depot) (uri : Uri) :
    Altered services.codec
      (selectionAlterations.onlyIf (depot.skipOptionalTransforms = false)) uri
      (autoSelectVersion services config depot uri) := by
  unfold autoSelectVersion
  split
  · exact .refl ..
  next active =>
      split
      · exact .refl ..
      · split
        · exact .refl ..
        · split
          · exact .refl ..
          · split
            · exact .refl ..
            · exact (autoSelectFor_alters ..).mono
                (Alterations.onlyIf_includes _ (by simpa using active))

/-- A value made from the one a key still has. -/
theorem confine_reworded {alterations : Alterations String String}
    {requested queries : Queries} {key : String} {reword : String → String}
    (writes : ∀ raw, requested.get? key = some raw →
      alterations.writes key (reword raw))
    (same : queries.get? key = requested.get? key)
    (confined : alterations.Confine requested queries) :
    alterations.Confine requested (match queries.get? key with
      | some raw => queries.set key (reword raw)
      | none => queries) := by
  cases found : queries.get? key with
  | none => exact confined
  | some raw => exact confined.set (writes raw (same.symm.trans found))

theorem get?_reworded_of_ne {queries : Queries} {key other : String}
    (different : key ≠ other) (reword : String → String) :
    (match queries.get? key with
      | some raw => queries.set key (reword raw)
      | none => queries).get? other = queries.get? other := by
  split
  · exact MultiMap.get?_congr (MultiMap.getAll_set_of_ne _ different _)
  · rfl

theorem confine_maximumQualityQueries (services : HoopServices)
    (queries : Queries) :
    (qualityAlterations services queries).Confine queries
      (maximumQualityQueries services queries) := by
  have removed : qualitySettings.Confine queries
      ((queries.remove "maxVideoBitrate").remove "videoBitrate") := by
    refine ((Alterations.Confine.refl _ _).remove ?_).remove ?_
    · simp [qualitySettings]
    · simp [qualitySettings]
  have settled : qualitySettings.Confine queries
      ((((((queries.remove "maxVideoBitrate").remove "videoBitrate").set
        "autoAdjustQuality" "0").set "directStream" "1").set
        "directPlay" "1").set "videoQuality" "100") := by
    refine (((removed.set ?_).set ?_).set ?_).set ?_
    · simp [qualitySettings]
    · simp [qualitySettings]
    · simp [qualitySettings]
    · simp [qualitySettings]
  have bufferSpared : qualitySettings.Spares "mediaBufferSize" :=
    ⟨by simp [qualitySettings], by simp [qualitySettings]⟩
  have extraSpared : qualitySettings.Spares profileExtra :=
    ⟨by simp [qualitySettings, profileExtra],
      by simp [qualitySettings, profileExtra]⟩
  have buffer := settled.get?_eq bufferSpared
  have extra := settled.get?_eq extraSpared
  have widened := settled.mono (Alterations.or_includes_left qualitySettings
    (qualityRewordings services queries))
  unfold maximumQualityQueries
  dsimp only
  refine confine_reworded ?_ ?_ (confine_reworded ?_ buffer widened)
  · intro raw asked
    exact .inr (.inr ⟨rfl, raw, asked, rfl⟩)
  · exact (get?_reworded_of_ne (by decide)
      (wholeBufferSize services)).trans extra
  · intro raw asked
    exact .inr (.inl ⟨rfl, raw, asked, rfl⟩)

theorem confine_directPlayQueries (services : HoopServices)
    {requested queries : Queries} (resolutions : List String) (media : Media)
    (confined : (qualityAlterations services requested).Confine requested
      queries) :
    (qualityAlterations services requested).Confine requested
      (directPlayQueries services resolutions media queries) := by
  unfold directPlayQueries
  dsimp only
  split
  · refine (confined.set ?_).remove ?_
    · exact .inl (by simp [qualitySettings])
    · exact .inl (by simp [qualitySettings])
  · exact confined

theorem forceMaximumQuality_alters (services : HoopServices)
    (config : Config) (depot : Depot) (uri : Uri) :
    (forceMaximumQuality services config depot uri).Satisfies
      (Altered services.codec ((qualityAlterations services uri.queries).onlyIf
        (depot.skipOptionalTransforms = false)) uri) := by
  have quality := confine_maximumQualityQueries services uri.queries
  unfold forceMaximumQuality
  split
  · exact .refl ..
  next active =>
      refine HoopOutcome.Satisfies.imp (satisfies_withHoopClient (?_ : ∀ client,
        HoopOutcome.Satisfies (Altered services.codec
          (qualityAlterations services uri.queries) uri) _))
        fun outgoing altered => altered.mono
          (Alterations.onlyIf_includes _ (by simpa using active))
      intro client
      split
      · exact .refl ..
      · dsimp only
        split
        · split
          · exact .refl ..
          · split
            · exact .refl ..
            · exact altered_replaceQuery services.codec
                (confine_directPlayQueries services _ _ quality)
        · exact altered_replaceQuery services.codec quality

theorem confine_fallbackQueries (index : Nat) (queries : Queries) :
    fallbackAlterations.Confine queries (fallbackQueries index queries) := by
  have named : fallbackAlterations.Confine queries
      ((queries.set "mediaIndex" (toString index)).set "directStream" "1") := by
    refine ((Alterations.Confine.refl _ _).set ?_).set ?_
    · exact Or.inl ⟨rfl, index, rfl⟩
    · exact Or.inr (by decide)
  refine confine_playDirectly ?_ ?_ _ named
  · exact Or.inr (by decide)
  · exact Or.inr (by decide)

theorem videoTranscodeFallback_alters (services : HoopServices)
    (config : Config) (depot : Depot) (uri : Uri) :
    (videoTranscodeFallback services config depot uri).Satisfies
      (Altered services.codec (fallbackAlterations.onlyIf
        (depot.skipOptionalTransforms = false)) uri) := by
  unfold videoTranscodeFallback
  split
  · exact .refl ..
  next active =>
      refine HoopOutcome.Satisfies.imp (satisfies_withHoopClient (?_ : ∀ client,
        HoopOutcome.Satisfies (Altered services.codec fallbackAlterations uri)
          _)) fun outgoing altered => altered.mono
          (Alterations.onlyIf_includes _ (by simpa using active))
      intro client
      split
      · exact .refl ..
      · trivial
      · split
        · exact altered_replaceQuery services.codec
            (Alterations.Confine.refl _ _)
        · exact altered_replaceQuery services.codec
            (confine_fallbackQueries _ _)

theorem directStreamInstead_alters (services : HoopServices) (uri : Uri) :
    Altered services.codec directStreamAlterations uri
      (directStreamInstead services uri) := by
  refine (altered_addQueryParamSalvo services.codec ?_ uri).trans
    (altered_addQueryParamSalvo services.codec ?_ _)
  · simp [directStreamAlterations]
  · simp [directStreamAlterations]

theorem directStreamFallback_alters (services : HoopServices)
    (config : Config) (depot : Depot) (uri : Uri) :
    (directStreamFallback services config depot uri).Satisfies
      (Altered services.codec (directStreamAlterations.onlyIf
        (depot.skipOptionalTransforms = false)) uri) := by
  unfold directStreamFallback
  split
  · exact .refl ..
  next active =>
      refine HoopOutcome.Satisfies.imp (satisfies_withHoopClient (?_ : ∀ client,
        HoopOutcome.Satisfies (Altered services.codec directStreamAlterations
          uri) _)) fun outgoing altered => altered.mono
          (Alterations.onlyIf_includes _ (by simpa using active))
      intro client
      have instead := directStreamInstead_alters services uri
      split
      · exact .refl ..
      · split
        · split
          · exact instead
          · exact .refl ..
        · exact instead
        · trivial

end

/-! The routes as a whole. -/

section

variable (services : HoopServices) (config : Config) (runtime : PolicySnapshot)
  (depot : Depot)

/-- The optional hoops of the start and subtitles routes; the decision route
has two more behind them. -/
def startHoops (uri : Uri) : HoopOutcome :=
  ((HoopOutcome.forward uri).andThenIf config.autoSelectVersion fun uri =>
      .forward (autoSelectVersion services config depot uri)).andThenIf
    (config.forceMaximumQuality || config.disableTranscode)
    (forceMaximumQuality services config depot)

/-- What enforcement and the automatic selection may change. -/
def versionAlterations : Alterations String String :=
  (enforcementAlterations.onlyIf (runtime.enabled = true)).or
    (selectionAlterations.onlyIf (depot.skipOptionalTransforms = false ∧
      config.autoSelectVersion = true))

def startAlterations (requested : Queries) : Alterations String String :=
  (versionAlterations config runtime depot).or
    ((qualityAlterations services requested).onlyIf
      (depot.skipOptionalTransforms = false ∧
        (config.forceMaximumQuality || config.disableTranscode) = true))

def decisionAlterations (requested : Queries) : Alterations String String :=
  (startAlterations services config runtime depot requested).or
    ((fallbackAlterations.onlyIf (depot.skipOptionalTransforms = false ∧
        config.videoTranscodeFallbackFor.isSome = true)).or
      (directStreamAlterations.onlyIf (depot.skipOptionalTransforms = false)))

/-- Every parameter that some hoop writes or drops. -/
def playbackParameters : List String :=
  ["mediaIndex", "maxVideoBitrate", "videoBitrate", "directPlay", "subtitles",
    "autoAdjustQuality", "directStream", "videoQuality", "mediaBufferSize",
    profileExtra, "videoResolution"]

end

section

variable {services : HoopServices} {config : Config} {runtime : PolicySnapshot}
  {depot : Depot}

theorem decisionHoops_eq (uri : Uri) :
    decisionHoops services config depot uri =
      ((startHoops services config depot uri).andThenIf
        config.videoTranscodeFallbackFor.isSome
        (videoTranscodeFallback services config depot)).andThen
        (directStreamFallback services config depot) :=
  rfl

theorem versionAlterations_spares {key : String}
    (other : key ∉ ["mediaIndex", "maxVideoBitrate", "videoBitrate",
      "directPlay", "subtitles"]) :
    (versionAlterations config runtime depot).Spares key := by
  simp only [List.mem_cons, List.not_mem_nil, or_false, not_or] at other
  obtain ⟨notIndex, notMax, notVideo, notDirect, notSubtitles⟩ := other
  refine Alterations.Spares.or (Alterations.Spares.onlyIf ⟨?_, ?_⟩ _)
    (Alterations.Spares.onlyIf ⟨?_, ?_⟩ _)
  · simp [enforcementAlterations, notIndex, notMax]
  · simp [enforcementAlterations, notMax, notVideo]
  · simp [selectionAlterations, notIndex, notDirect, notSubtitles]
  · simp [selectionAlterations]

theorem decisionAlterations_spares {key : String}
    (other : key ∉ playbackParameters) (requested : Queries) :
    (decisionAlterations services config runtime depot requested).Spares
      key := by
  have selecting : (versionAlterations config runtime depot).Spares key :=
    versionAlterations_spares fun listed => other (by
      simp only [playbackParameters, List.mem_cons, List.not_mem_nil, or_false]
        at listed ⊢
      tauto)
  simp only [playbackParameters, List.mem_cons, List.not_mem_nil, or_false,
    not_or] at other
  obtain ⟨notIndex, notMax, notVideo, notDirect, notSubtitles, notAdjust,
    notStream, notQuality, notBuffer, notExtra, notResolution⟩ := other
  refine (selecting.or (Alterations.Spares.onlyIf (Alterations.Spares.or
    ⟨?_, ?_⟩ ⟨?_, ?_⟩) _)).or (Alterations.Spares.or
      (Alterations.Spares.onlyIf ⟨?_, ?_⟩ _)
      (Alterations.Spares.onlyIf ⟨?_, ?_⟩ _))
  · simp [qualitySettings, notAdjust, notStream, notDirect, notQuality]
  · simp [qualitySettings, notMax, notVideo, notResolution]
  · simp [qualityRewordings, notBuffer, notExtra]
  · simp [qualityRewordings]
  · simp [fallbackAlterations, notIndex, notStream, notDirect, notSubtitles]
  · simp [fallbackAlterations]
  · simp [directStreamAlterations, notDirect, notStream]
  · simp [directStreamAlterations]

/-- An installed hoop's own alterations, after those of the hoops before. -/
theorem HoopOutcome.Satisfies.andThenIf_altered {incoming : Uri}
    {codec : UrlCodec} {before own after : Alterations String String}
    {outcome : HoopOutcome} {next : Uri → HoopOutcome} (installed : Bool)
    (altered : outcome.Satisfies (Altered codec before incoming))
    (keeps : after.Includes before)
    (adds : installed = true → after.Includes own)
    (step : ∀ uri, Altered codec before incoming uri →
      (next uri).Satisfies (Altered codec own uri)) :
    (outcome.andThenIf installed next).Satisfies
      (Altered codec after incoming) := by
  unfold HoopOutcome.andThenIf
  split
  next holds =>
      refine altered.andThen fun uri earlier => ?_
      exact (step uri earlier).imp fun outgoing later =>
        (earlier.mono keeps).trans (later.mono (adds holds))
  · exact altered.imp fun outgoing earlier => earlier.mono keeps

theorem qualityAlterations_congr {requested incoming : Queries}
    (buffer : requested.get? "mediaBufferSize" =
      incoming.get? "mediaBufferSize")
    (extra : requested.get? profileExtra = incoming.get? profileExtra) :
    qualityAlterations services requested =
      qualityAlterations services incoming := by
  simp only [qualityAlterations, qualityRewordings, buffer, extra]

variable {parts : PartMediaCache} {incoming : Uri}

theorem startHoops_alter :
    ((enforceResolutionPolicy services.toPlaybackServices config runtime depot
      parts incoming).outcome.andThen
        (startHoops services config depot)).Satisfies
      (Altered services.codec
        (startAlterations services config runtime depot incoming.queries)
        incoming) := by
  have enforced := enforceResolutionPolicy_alters services.toPlaybackServices
    config runtime depot parts incoming
  refine enforced.andThen fun uri (earlier : Altered services.codec _ _ _) => ?_
  have selected : ((HoopOutcome.forward uri).andThenIf config.autoSelectVersion
      fun uri => .forward (autoSelectVersion services config depot
        uri)).Satisfies
      (Altered services.codec (versionAlterations config runtime depot)
        incoming) := by
    refine HoopOutcome.Satisfies.andThenIf_altered _
      (show HoopOutcome.Satisfies _ (.forward uri) from earlier)
      (Alterations.or_includes_left ..) (fun installed => ?_)
      fun uri _ => autoSelectVersion_alters services config depot uri
    exact (Alterations.or_includes_right ..).trans
      (Alterations.onlyIf_and_includes _ installed)
  refine selected.andThenIf_altered _ (Alterations.or_includes_left ..)
    (fun installed => (Alterations.or_includes_right ..).trans
      (Alterations.onlyIf_and_includes _ installed)) fun uri settled => ?_
  have buffer : uri.queries.get? "mediaBufferSize" =
      incoming.queries.get? "mediaBufferSize" :=
    settled.queries.get?_eq (versionAlterations_spares (by decide))
  have extra : uri.queries.get? profileExtra =
      incoming.queries.get? profileExtra :=
    settled.queries.get?_eq (versionAlterations_spares (by decide))
  rw [← qualityAlterations_congr buffer extra]
  exact forceMaximumQuality_alters services config depot uri

theorem decisionHoops_alter :
    ((enforceResolutionPolicy services.toPlaybackServices config runtime depot
      parts incoming).outcome.andThen
        (decisionHoops services config depot)).Satisfies
      (Altered services.codec
        (decisionAlterations services config runtime depot incoming.queries)
        incoming) := by
  have started := @startHoops_alter services config runtime depot parts
    incoming
  cases enforced : (enforceResolutionPolicy services.toPlaybackServices config
      runtime depot parts incoming).outcome with
  | stop status => trivial
  | forward uri =>
      rw [enforced] at started
      change (decisionHoops services config depot uri).Satisfies _
      have selected : ((startHoops services config depot uri).andThenIf
          config.videoTranscodeFallbackFor.isSome
          (videoTranscodeFallback services config depot)).Satisfies
          (Altered services.codec
            (decisionAlterations services config runtime depot
              incoming.queries) incoming) := by
        refine HoopOutcome.Satisfies.andThenIf_altered _ started
          (Alterations.or_includes_left ..) (fun installed => ?_)
          fun uri _ => videoTranscodeFallback_alters services config depot uri
        exact (Alterations.or_includes_right ..).trans
          ((Alterations.or_includes_left ..).trans
            (Alterations.onlyIf_and_includes _ installed))
      rw [decisionHoops_eq]
      refine selected.andThen fun uri earlier => ?_
      refine (directStreamFallback_alters services config depot uri).imp
        fun outgoing later => earlier.trans (later.mono ?_)
      exact (Alterations.or_includes_right ..).trans
        (Alterations.or_includes_right ..)

/-- Whatever hoops are installed and whatever Plex answers them, a request
that goes on differs from the one that came in as those hoops may alter it:
every other parameter still has its first value, and none is invented. -/
theorem playback_hoops_confined :
    ((enforceResolutionPolicy services.toPlaybackServices config runtime depot
        parts incoming).outcome.andThen
          (startHoops services config depot)).Satisfies
        (Altered services.codec
          (startAlterations services config runtime depot incoming.queries)
          incoming) ∧
      ((enforceResolutionPolicy services.toPlaybackServices config runtime
        depot parts incoming).outcome.andThen
          (decisionHoops services config depot)).Satisfies fun outgoing =>
        Altered services.codec
          (decisionAlterations services config runtime depot incoming.queries)
          incoming outgoing ∧
        ∀ key ∉ playbackParameters,
          outgoing.queries.get? key = incoming.queries.get? key := by
  refine ⟨startHoops_alter, decisionHoops_alter.imp ?_⟩
  intro outgoing altered
  refine ⟨altered, fun key other => ?_⟩
  exact altered.queries.get?_eq
    (decisionAlterations_spares other incoming.queries)

end

end Replex
