import Replex.Data.Transition
import Replex.HubCache.Provenance

namespace Replex

open Data

/-! Playback changes that pass through the proxy, and what the ages of cached
hub payloads say about them. -/

def isPlaybackInvalidation (path : String) (query : Option String) : Bool :=
  if Text.endsWith path "/:/scrobble" || Text.endsWith path "/:/unscrobble"
  then
    true
  else if Text.endsWith path "/:/timeline" then
    (query.bind fun query =>
      (Text.split '&' query).findSome? (Text.stripPrefix? · "state=")) ==
        some "stopped"
  else
    false

/-- A change on its way: seen by the proxy and not yet processed by Plex, or
processed as the change of this number. -/
inductive PlaybackChange where
  | forwarded
  | processed (number : Nat)
  deriving DecidableEq

/-- A fetch whose answer has arrived and is being recorded. The payload is
inserted first and its age after that. -/
structure HubWrite where
  task : HubTask
  payload : MediaContainer
  /-- How many changes Plex had processed when it answered. -/
  answeredAfter : Nat
  stored : Bool := false

structure FreshnessState where
  hub : HubState := {}
  writes : List HubWrite := []
  changes : List PlaybackChange := []
  processed : Nat := 0
  /-- The changes whose responses have reached their clients. -/
  returned : List Nat := []
  /-- For each cached payload, its write's `answeredAfter`; nothing reads it. -/
  answeredAfter : Store String Nat := .empty

inductive FreshnessAction where
  | cache (action : HubAction)
  | store (index : Nat)
  | track (index : Nat)
  | proxyRequest (path : String) (query : Option String)
  | process (index : Nat)
  | respond (index : Nat)
  | forgetAge (key : String)

def HubTask.cacheKey (task : HubTask) : String :=
  task.fetch.cacheKey

/-- A request that found nothing has waited for its own fetch. -/
def HubTask.reply (task : HubTask) (payload : MediaContainer)
    (state : HubState) : HubState :=
  match task with
  | .miss fetch =>
      state.answer fetch { payload, token := fetch.client.context.token }
  | _ => state

/-- Refreshes and the warmer hold a claim on their key. -/
def HubTask.finish (task : HubTask) (state : HubState) : HubState :=
  match task with
  | .miss _ | .scheduled _ => state
  | .refresh fetch | .warm fetch => state.release fetch.cacheKey

namespace FreshnessState

/-- Plex answers a fetch. What the answer is recorded as comes in later
steps. -/
def receive (state : FreshnessState)
    (upstream : String → Reply MediaContainer) (index : Nat)
    (task : HubTask) : FreshnessState :=
  let hub := { state.hub with tasks := state.hub.tasks.eraseIdx index }
  match fetchHubsPayload upstream task.fetch.fetchPath with
  | .error _ => { state with hub := task.finish hub }
  | .ok payload =>
      let write := { task, payload, answeredAfter := state.processed }
      { state with hub, writes := state.writes ++ [write] }

def storeWrite (state : FreshnessState) (index : Nat) (write : HubWrite) :
    FreshnessState :=
  let fetched :=
    { payload := write.payload, token := write.task.fetch.client.context.token }
  { state with
    hub := { state.hub with
      metadata := state.hub.metadata.insert write.task.cacheKey fetched }
    writes := state.writes.set index { write with stored := true }
    answeredAfter :=
      state.answeredAfter.insert write.task.cacheKey write.answeredAfter }

def trackFetched (state : FreshnessState) (index : Nat) (write : HubWrite) :
    FreshnessState :=
  let hub := { state.hub with
    fetchedAt := state.hub.fetchedAt.insert write.task.cacheKey state.hub.now }
  { state with
    hub := write.task.finish (write.task.reply write.payload hub)
    writes := state.writes.eraseIdx index }

def markAllHubsStale (state : FreshnessState) : FreshnessState :=
  { state with hub := { state.hub with fetchedAt := .empty } }

end FreshnessState

section

variable (digest : TokenDigest) (config : Config)
  (parseTarget : String → Option Uri)

def freshnessStep (state : FreshnessState) :
    FreshnessAction → FreshnessState
  | .cache (.run index upstream) =>
      match state.hub.tasks[index]? with
      | none => state
      | some (.scheduled fetch) =>
          { state with
            hub := spawnHubRefresh fetch
              { state.hub with tasks := state.hub.tasks.eraseIdx index } }
      | some task => state.receive upstream index task
  | .cache action =>
      { state with hub := hubStep digest config parseTarget state.hub action }
  | .store index =>
      match state.writes[index]? with
      | some write =>
          if write.stored then state else state.storeWrite index write
      | none => state
  | .track index =>
      match state.writes[index]? with
      | some write =>
          if write.stored then state.trackFetched index write else state
      | none => state
  | .proxyRequest path query =>
      if isPlaybackInvalidation path query then
        { state.markAllHubsStale with
          changes := state.changes ++ [.forwarded] }
      else
        state
  | .process index =>
      match state.changes[index]? with
      | some .forwarded =>
          { state with
            processed := state.processed + 1
            changes := state.changes.set index
              (.processed (state.processed + 1)) }
      | _ => state
  | .respond index =>
      match state.changes[index]? with
      | some (.processed number) =>
          { state with
            changes := state.changes.eraseIdx index
            returned := number :: state.returned }
      | some .forwarded =>
          { state with changes := state.changes.eraseIdx index }
      | none => state
  | .forgetAge key =>
      { state with
        hub := { state.hub with fetchedAt := state.hub.fetchedAt.evict key } }

def freshnessRun (actions : List FreshnessAction) : FreshnessState :=
  actions.foldl (freshnessStep digest config parseTarget) {}

end

/-- No cached payload that was answered before a change counts as fresh once
the change has been answered. -/
def NothingLost (config : Config) (state : FreshnessState) : Prop :=
  ∀ key answeredAfter number,
    (state.hub.metadata.lookup key).isSome = true →
    state.answeredAfter.lookup key = some answeredAfter →
    number ∈ state.returned → answeredAfter < number →
    state.hub.isStale key config.hubStaleTtl = true

/-! The order that loses a change, and every run without it. -/

/-- A change that the proxy has already seen was processed after this answer,
or is still to be. -/
def Overtaken (state : FreshnessState) (answeredAfter : Nat) : Prop :=
  answeredAfter < state.processed ∨ .forwarded ∈ state.changes

def HubState.Young (state : HubState) (maxAge : Nat) (key : String) : Prop :=
  ∃ fetchedAt, state.fetchedAt.lookup key = some fetchedAt ∧
    state.now < fetchedAt + maxAge

/-- An overtaken answer is not stored under a key whose age is young, and an
overtaken payload is given no age. -/
def RecordsInTime (config : Config) (state : FreshnessState) :
    FreshnessAction → Prop
  | .store index => ∀ write, state.writes[index]? = some write →
      write.stored = false → Overtaken state write.answeredAfter →
      ¬ state.hub.Young config.hubStaleTtl write.task.cacheKey
  | .track index => ∀ write answeredAfter, state.writes[index]? = some write →
      write.stored = true →
      state.answeredAfter.lookup write.task.cacheKey = some answeredAfter →
      ¬ Overtaken state answeredAfter
  | _ => True

namespace HubState

theorem isStale_of_not_young {state : HubState} {maxAge : Nat} {key : String}
    (aged : ¬ state.Young maxAge key) : state.isStale key maxAge = true := by
  unfold isStale
  cases found : state.fetchedAt.lookup key with
  | none => rfl
  | some fetchedAt =>
      have late : ¬ state.now < fetchedAt + maxAge :=
        fun early => aged ⟨fetchedAt, found, early⟩
      simp only [decide_eq_true_eq]
      omega

/-- Nothing has become younger. -/
def Ages (state other : HubState) : Prop :=
  ∀ maxAge key, other.Young maxAge key → state.Young maxAge key

theorem ages_of_fetchedAt_eq {state other : HubState}
    (same : other.fetchedAt = state.fetchedAt)
    (later : state.now ≤ other.now) : state.Ages other := by
  rintro maxAge key ⟨fetchedAt, found, early⟩
  rw [same] at found
  exact ⟨fetchedAt, found, Nat.lt_of_le_of_lt later early⟩

theorem Ages.trans {state later latest : HubState} (first : state.Ages later)
    (second : later.Ages latest) : state.Ages latest :=
  fun maxAge key young => first maxAge key (second maxAge key young)

theorem ages_reply (task : HubTask) (payload : MediaContainer)
    (state : HubState) : state.Ages (task.reply payload state) := by
  cases task with
  | miss fetch => exact ages_of_fetchedAt_eq rfl (Nat.le_refl _)
  | scheduled fetch => exact ages_of_fetchedAt_eq rfl (Nat.le_refl _)
  | refresh fetch => exact ages_of_fetchedAt_eq rfl (Nat.le_refl _)
  | warm fetch => exact ages_of_fetchedAt_eq rfl (Nat.le_refl _)

theorem ages_finish (task : HubTask) (state : HubState) :
    state.Ages (task.finish state) := by
  cases task with
  | miss fetch => exact ages_of_fetchedAt_eq rfl (Nat.le_refl _)
  | scheduled fetch => exact ages_of_fetchedAt_eq rfl (Nat.le_refl _)
  | refresh fetch => exact ages_of_fetchedAt_eq rfl (Nat.le_refl _)
  | warm fetch => exact ages_of_fetchedAt_eq rfl (Nat.le_refl _)

theorem ages_cachedHubsResponse (config : Config) (fetch : HubFetch)
    (state : HubState) :
    state.Ages (cachedHubsResponse config fetch state) := by
  unfold cachedHubsResponse
  split
  · simp only
    split
    · exact ages_of_fetchedAt_eq rfl (Nat.le_refl _)
    · exact ages_of_fetchedAt_eq rfl (Nat.le_refl _)
  · exact ages_of_fetchedAt_eq rfl (Nat.le_refl _)

theorem ages_spawnHubRefresh (fetch : HubFetch) (state : HubState) :
    state.Ages (spawnHubRefresh fetch state) := by
  unfold spawnHubRefresh
  simp only
  split
  · exact ages_of_fetchedAt_eq rfl (Nat.le_refl _)
  · exact ages_of_fetchedAt_eq rfl (Nat.le_refl _)

/-- The warmer's step leaves the cache, the ages and the answers as they
are. -/
theorem exists_warmNext (digest : TokenDigest)
    (parseTarget : String → Option Uri) (state : HubState) :
    ∃ warmQueue inflight tasks,
      warmNext digest parseTarget state =
        { state with warmQueue, inflight, tasks } := by
  unfold warmNext
  split
  · exact ⟨_, _, _, rfl⟩
  · split
    · exact ⟨_, _, _, rfl⟩
    · simp only
      split
      · exact ⟨_, _, _, rfl⟩
      · split
        · exact ⟨_, _, _, rfl⟩
        · exact ⟨_, _, _, rfl⟩

theorem ages_warmNext (digest : TokenDigest)
    (parseTarget : String → Option Uri) (state : HubState) :
    state.Ages (warmNext digest parseTarget state) := by
  obtain ⟨_, _, _, same⟩ := exists_warmNext digest parseTarget state
  rw [same]
  exact ages_of_fetchedAt_eq rfl (Nat.le_refl _)

theorem not_young_of_forgotten {state : HubState} {key : String}
    (forgotten : state.fetchedAt.lookup key = none) (maxAge : Nat) :
    ¬ state.Young maxAge key := by
  rintro ⟨fetchedAt, found, early⟩
  rw [forgotten] at found
  cases found

end HubState

/-- Only a fetch that is recorded makes a key young. -/
theorem ages_hubStep (digest : TokenDigest) (config : Config)
    (parseTarget : String → Option Uri) (state : HubState)
    {action : HubAction} (other : ∀ index upstream, action ≠ .run index upstream) :
    state.Ages (hubStep digest config parseTarget state action) := by
  cases action with
  | request depot request =>
      simp only [hubStep]
      split
      · exact HubState.ages_of_fetchedAt_eq rfl (Nat.le_refl _)
      · exact HubState.ages_cachedHubsResponse config _ state
  | run index upstream => exact absurd rfl (other index upstream)
  | warm sharedSections sections =>
      simp only [hubStep]
      split
      · exact HubState.ages_of_fetchedAt_eq rfl (Nat.le_refl _)
      · exact HubState.ages_of_fetchedAt_eq rfl (Nat.le_refl _)
  | warmNext => exact HubState.ages_warmNext digest parseTarget state
  | getCached context lookup payload =>
      simp only [hubStep]
      split
      · exact HubState.ages_of_fetchedAt_eq rfl (Nat.le_refl _)
      · exact HubState.ages_of_fetchedAt_eq rfl (Nat.le_refl _)
  | forget key => exact HubState.ages_of_fetchedAt_eq rfl (Nat.le_refl _)
  | markAllHubsStale =>
      intro maxAge key young
      exact absurd young (HubState.not_young_of_forgotten rfl maxAge)
  | wait seconds =>
      exact HubState.ages_of_fetchedAt_eq rfl (Nat.le_add_right _ _)

/-- Every young key holds an answer that no change has overtaken. -/
structure FreshnessState.Timely (config : Config) (state : FreshnessState) :
    Prop where
  current : ∀ key answeredAfter,
    state.answeredAfter.lookup key = some answeredAfter →
    state.hub.Young config.hubStaleTtl key → ¬ Overtaken state answeredAfter
  counted : ∀ number, .processed number ∈ state.changes →
    number ≤ state.processed
  returned : ∀ number ∈ state.returned, number ≤ state.processed

theorem FreshnessState.Timely.nothingLost {config : Config}
    {state : FreshnessState} (holds : state.Timely config) :
    NothingLost config state := by
  intro key answeredAfter number cached answered returned before
  apply HubState.isStale_of_not_young
  intro young
  have notOvertaken := holds.current key answeredAfter answered young
  have processed : number ≤ state.processed := holds.returned number returned
  exact notOvertaken (.inl (Nat.lt_of_lt_of_le before processed))

namespace FreshnessState.Timely

variable {config : Config} {state : FreshnessState}

theorem initial : FreshnessState.Timely config {} where
  current key answeredAfter answered := by cases answered
  counted number listed := by cases listed
  returned number listed := by cases listed

/-- Steps that only let the cached ages grow. -/
theorem withHub (holds : state.Timely config) {hub : HubState}
    (ages : state.hub.Ages hub) : ({ state with hub }).Timely config where
  current key answeredAfter answered young :=
    holds.current key answeredAfter answered (ages _ key young)
  counted := holds.counted
  returned := holds.returned

theorem withWrites (holds : state.Timely config) {other : FreshnessState}
    (same : other = { state with writes := other.writes }) :
    other.Timely config := by
  rw [same]
  exact ⟨holds.current, holds.counted, holds.returned⟩

theorem receive (holds : state.Timely config)
    (upstream : String → Reply MediaContainer) (index : Nat)
    (task : HubTask) : (state.receive upstream index task).Timely config := by
  unfold FreshnessState.receive
  simp only
  split
  · apply holds.withHub
    exact HubState.ages_finish task
      { state.hub with tasks := state.hub.tasks.eraseIdx index }
  · have answered : ({ state with hub := { state.hub with
        tasks := state.hub.tasks.eraseIdx index } }).Timely config :=
      holds.withHub (HubState.ages_of_fetchedAt_eq rfl (Nat.le_refl _))
    exact answered.withWrites rfl

theorem storeWrite (holds : state.Timely config) {index : Nat}
    {write : HubWrite}
    (inTime : Overtaken state write.answeredAfter →
      ¬ state.hub.Young config.hubStaleTtl write.task.cacheKey) :
    (state.storeWrite index write).Timely config where
  current key answeredAfter answered young := by
    by_cases same : key = write.task.cacheKey
    · subst same
      have recorded : some write.answeredAfter = some answeredAfter := by
        rw [← answered]
        exact (Store.lookup_insert_self _ _ _).symm
      cases recorded
      intro overtaken
      exact inTime overtaken young
    · have earlier : state.answeredAfter.lookup key = some answeredAfter := by
        rw [← answered]
        exact (Store.lookup_insert_of_ne _ same _).symm
      exact holds.current key answeredAfter earlier young
  counted := holds.counted
  returned := holds.returned

theorem trackFetched (holds : state.Timely config) {index : Nat}
    {write : HubWrite}
    (inTime : ∀ answeredAfter,
      state.answeredAfter.lookup write.task.cacheKey = some answeredAfter →
      ¬ Overtaken state answeredAfter) :
    (state.trackFetched index write).Timely config := by
  let tracked := { state.hub with
    fetchedAt := state.hub.fetchedAt.insert write.task.cacheKey state.hub.now }
  have recorded : ({ state with hub := tracked }).Timely config := by
    refine ⟨?_, holds.counted, holds.returned⟩
    intro key answeredAfter answered young
    by_cases same : key = write.task.cacheKey
    · subst same
      exact inTime answeredAfter answered
    · obtain ⟨fetchedAt, found, early⟩ := young
      have unchanged : state.hub.fetchedAt.lookup key = some fetchedAt := by
        rw [← found]
        exact (Store.lookup_insert_of_ne _ same _).symm
      exact holds.current key answeredAfter answered
        ⟨fetchedAt, unchanged, early⟩
  have ages : tracked.Ages (state.trackFetched index write).hub :=
    (HubState.ages_reply write.task write.payload tracked).trans
      (HubState.ages_finish write.task _)
  exact (recorded.withHub ages).withWrites rfl

/-- With every age gone, another change on its way overtakes nothing young. -/
theorem forward (holds : state.Timely config) :
    ({ state.markAllHubsStale with
      changes := state.changes ++ [PlaybackChange.forwarded] }).Timely config where
  current key answeredAfter answered young :=
    absurd young (HubState.not_young_of_forgotten rfl _)
  counted number listed := by
    rcases List.mem_append.mp listed with earlier | latest
    · exact holds.counted number earlier
    · cases List.mem_singleton.mp latest
  returned := holds.returned

/-- While a change is on its way every answer counts as overtaken, so its
number overtakes no young key. -/
theorem process (holds : state.Timely config) {index : Nat}
    (onItsWay : state.changes[index]? = some .forwarded) :
    ({ state with
      processed := state.processed + 1
      changes := state.changes.set index
        (.processed (state.processed + 1)) }).Timely config where
  current key answeredAfter answered young :=
    absurd (Or.inr (List.mem_of_getElem? onItsWay))
      (holds.current key answeredAfter answered young)
  counted number listed := by
    rcases List.mem_or_eq_of_mem_set listed with earlier | latest
    · exact Nat.le_succ_of_le (holds.counted number earlier)
    · cases latest
      exact Nat.le_refl _
  returned number listed := Nat.le_succ_of_le (holds.returned number listed)

theorem respond (holds : state.Timely config) (index : Nat)
    {returned : List Nat}
    (numbered : ∀ number ∈ returned, number ≤ state.processed) :
    ({ state with
      changes := state.changes.eraseIdx index
      returned }).Timely config where
  current key answeredAfter answered young overtaken := by
    apply holds.current key answeredAfter answered young
    rcases overtaken with later | waiting
    · exact .inl later
    · exact .inr (List.mem_of_mem_eraseIdx waiting)
  counted number listed :=
    holds.counted number (List.mem_of_mem_eraseIdx listed)
  returned := numbered

end FreshnessState.Timely

section

variable (digest : TokenDigest) (config : Config)
  (parseTarget : String → Option Uri)

theorem timely_cacheStep (state : FreshnessState) (action : HubAction)
    (holds : state.Timely config) :
    (freshnessStep digest config parseTarget state
      (.cache action)).Timely config := by
  cases action with
  | run index upstream =>
      simp only [freshnessStep]
      split
      · exact holds
      next fetch found =>
          apply holds.withHub
          exact HubState.ages_spawnHubRefresh fetch
            { state.hub with tasks := state.hub.tasks.eraseIdx index }
      next task other found => exact holds.receive upstream index task
  | _ =>
      apply holds.withHub
      exact ages_hubStep digest config parseTarget state.hub nofun

theorem timely_freshnessStep (state : FreshnessState)
    (action : FreshnessAction) (holds : state.Timely config)
    (inTime : RecordsInTime config state action) :
    (freshnessStep digest config parseTarget state action).Timely config := by
  cases action with
  | cache action =>
      exact timely_cacheStep digest config parseTarget state action holds
  | store index =>
      simp only [freshnessStep]
      split
      next write found =>
          cases stored : write.stored with
          | true => exact holds
          | false => exact holds.storeWrite (inTime write found stored)
      · exact holds
  | track index =>
      simp only [freshnessStep]
      split
      next write found =>
          cases stored : write.stored with
          | true =>
              exact holds.trackFetched fun answeredAfter answered =>
                inTime write answeredAfter found stored answered
          | false => exact holds
      · exact holds
  | proxyRequest path query =>
      simp only [freshnessStep]
      split
      · exact holds.forward
      · exact holds
  | process index =>
      simp only [freshnessStep]
      split
      next onItsWay => exact holds.process onItsWay
      · exact holds
  | respond index =>
      simp only [freshnessStep]
      split
      next number found =>
          apply holds.respond index
          intro other listed
          rcases List.mem_cons.mp listed with latest | earlier
          · rw [latest]
            exact holds.counted number (List.mem_of_getElem? found)
          · exact holds.returned other earlier
      · exact holds.respond index holds.returned
      · exact holds
  | forgetAge key =>
      apply holds.withHub
      rintro maxAge other ⟨fetchedAt, found, early⟩
      exact ⟨fetchedAt, Store.lookup_of_evict found, early⟩

/-- In every state that a run passes through, playback changes are kept,
provided no step of the run records an overtaken answer as young. -/
theorem playback_changes_kept {actions taken : List FreshnessAction}
    (inTime : Transition.Meets (freshnessStep digest config parseTarget)
      (RecordsInTime config) {} actions)
    (reached : taken <+: actions) :
    NothingLost config (freshnessRun digest config parseTarget taken) := by
  have holds := Transition.invariant_of_meets
    (timely_freshnessStep digest config parseTarget)
    FreshnessState.Timely.initial
    (Transition.meets_of_prefix inTime reached)
  exact holds.nothingLost

end

/-! A scrobble around the fetch of Continue Watching. -/

def continueWatchingRequest : Request where
  uri :=
    { origin := "http://replex"
      path := "/hubs/continueWatching"
      queries := ⟨[]⟩ }

def continueWatchingAnswered : List FreshnessAction :=
  [.cache (.request (hubDepot "jodie-token") continueWatchingRequest),
    .cache (.run 0 fun _ => .answered 200 (.ok {}))]

def scrobbled : List FreshnessAction :=
  [.proxyRequest "/:/scrobble" none, .process 0, .respond 0]

theorem scrobble_after_recording_kept :
    NothingLost { viewerConfig with hubStaleTtl := 900 }
      (freshnessRun viewerDigest { viewerConfig with hubStaleTtl := 900 }
        (fun _ => none)
        (continueWatchingAnswered ++ [.store 0, .track 0] ++ scrobbled)) := by
  apply playback_changes_kept viewerDigest
    { viewerConfig with hubStaleTtl := 900 } (fun _ => none) _
    (List.prefix_refl _)
  refine ⟨trivial, trivial, ?_, ?_, trivial, trivial, trivial, trivial⟩
  · rintro write found unstored (later | waiting)
    · cases found
      cases later
    · cases waiting
  · rintro write answeredAfter found stored answered (later | waiting)
    · cases later
    · cases waiting

/-- The answer waits while the scrobble passes, and is recorded as young. -/
theorem scrobble_before_recording_lost :
    ¬ NothingLost { viewerConfig with hubStaleTtl := 900 }
      (freshnessRun viewerDigest { viewerConfig with hubStaleTtl := 900 }
        (fun _ => none)
        (continueWatchingAnswered ++ scrobbled ++ [.store 0, .track 0])) := by
  intro kept
  have stale := kept
    (hubCacheKey viewerDigest "/hubs/continueWatching" (some "jodie-token"))
    0 1 (by decide) (by decide) (by decide) (by decide)
  revert stale
  decide

end Replex
