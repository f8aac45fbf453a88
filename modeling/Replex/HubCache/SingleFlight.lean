import Replex.Data.Claims
import Replex.Data.Transition
import Replex.HubCache

namespace Replex

open Data

/-! Refreshes and warmer passes side by side, one await at a time. -/

/-- What a task has been started for; a warmer with the paths that it has not
come to yet. -/
inductive FlightJob where
  | refresh (fetch : HubFetch)
  | warmer (client : PlexClient) (token : String) (paths : List String)

/-- What a task does next. A refresh begins with the time of the last attempt,
a warmer with its next path. -/
inductive FlightPhase where
  | starting
  | claiming (fetch : HubFetch)
  | attempting (fetch : HubFetch)
  | fetching (fetch : HubFetch)
  | inserting (fetch : HubFetch) (payload : MediaContainer)
  | tracking (fetch : HubFetch)
  | releasing (fetch : HubFetch)
  | returned

structure FlightTask where
  job : FlightJob
  phase : FlightPhase := .starting

/-- The key between a successful claim and its release. -/
def FlightTask.held (task : FlightTask) : Option String :=
  match task.phase with
  | .attempting fetch | .fetching fetch | .inserting fetch _
  | .tracking fetch | .releasing fetch => some fetch.cacheKey
  | .starting | .claiming _ | .returned => none

structure FlightState where
  hub : HubState := {}
  tasks : List FlightTask := []

inductive FlightAction where
  | spawnHubRefresh (fetch : HubFetch)
  | warmHubsForToken (client : PlexClient) (token : String)
      (paths : List String)
  | resume (index : Nat) (upstream : String → Reply MediaContainer)
  /-- Whatever else happens to the caches. -/
  | others (metadata : Store String Fetched)
      (fetchedAt lastRefreshAttempt : Store String Nat)
  | wait (seconds : Nat)

/-- After its key, a refresh has nothing left; a warmer takes its next path. -/
def FlightJob.following : FlightJob → FlightPhase
  | .refresh _ => .returned
  | .warmer .. => .starting

/-- Only a refresh records its attempt. -/
def FlightJob.claimed (fetch : HubFetch) : FlightJob → FlightPhase
  | .refresh _ => .attempting fetch
  | .warmer .. => .fetching fetch

section

variable (digest : TokenDigest) (parseTarget : String → Option Uri)

def warmFetch (client : PlexClient) (token path : String) :
    Option HubFetch :=
  let fetchPath := warmFetchPath path
  (parseTarget fetchPath).map fun uri =>
    let keyPath := cacheKeyForRequest uri
    { client
      keyPath
      fetchPath
      cacheKey := hubCacheKey digest keyPath (some token) }

/-- A path that is no request target ends its warmer. -/
def FlightTask.start (hub : HubState) (task : FlightTask) : FlightTask :=
  match task.job with
  | .refresh fetch =>
      let recent := (hub.lastRefreshAttempt.lookup fetch.cacheKey).any
        fun attempted => decide (hub.now - attempted < refreshMinInterval)
      { task with phase := if recent then .returned else .claiming fetch }
  | .warmer _ _ [] => { task with phase := .returned }
  | .warmer client token (path :: paths) =>
      match warmFetch digest parseTarget client token path with
      | none => { task with phase := .returned }
      | some fetch =>
          { job := .warmer client token paths, phase := .claiming fetch }

namespace FlightState

def setTask (state : FlightState) (index : Nat) (task : FlightTask) :
    FlightState :=
  { state with tasks := state.tasks.set index task }

def resume (state : FlightState) (index : Nat)
    (upstream : String → Reply MediaContainer) (task : FlightTask) :
    FlightState :=
  match task.phase with
  | .starting =>
      state.setTask index (task.start digest parseTarget state.hub)
  | .claiming fetch =>
      if fetch.cacheKey ∈ state.hub.inflight then
        state.setTask index { task with phase := task.job.following }
      else
        { state.setTask index { task with phase := task.job.claimed fetch } with
          hub := state.hub.claim fetch.cacheKey }
  | .attempting fetch =>
      { state.setTask index { task with phase := .fetching fetch } with
        hub := { state.hub with
          lastRefreshAttempt := state.hub.lastRefreshAttempt.insert
            fetch.cacheKey state.hub.now } }
  | .fetching fetch =>
      match fetchHubsPayload upstream fetch.fetchPath with
      | .ok payload =>
          state.setTask index { task with phase := .inserting fetch payload }
      | .error _ =>
          state.setTask index { task with phase := .releasing fetch }
  | .inserting fetch payload =>
      { state.setTask index { task with phase := .tracking fetch } with
        hub := { state.hub with
          metadata := state.hub.metadata.insert fetch.cacheKey
            { payload, token := fetch.client.context.token } } }
  | .tracking fetch =>
      { state.setTask index { task with phase := .releasing fetch } with
        hub := { state.hub with
          fetchedAt := state.hub.fetchedAt.insert fetch.cacheKey
            state.hub.now } }
  | .releasing fetch =>
      { state.setTask index { task with phase := task.job.following } with
        hub := state.hub.release fetch.cacheKey }
  | .returned => state

end FlightState

def flightStep (state : FlightState) : FlightAction → FlightState
  | .spawnHubRefresh fetch =>
      { state with tasks := state.tasks ++ [{ job := .refresh fetch }] }
  | .warmHubsForToken client token paths =>
      { state with
        tasks := state.tasks ++ [{ job := .warmer client token paths }] }
  | .resume index upstream =>
      match state.tasks[index]? with
      | none => state
      | some task => state.resume digest parseTarget index upstream task
  | .others metadata fetchedAt lastRefreshAttempt =>
      { state with hub := { state.hub with
          metadata, fetchedAt, lastRefreshAttempt } }
  | .wait seconds =>
      { state with hub := { state.hub with now := state.hub.now + seconds } }

def flightRun (actions : List FlightAction) : FlightState :=
  actions.foldl (flightStep digest parseTarget) {}

end

/-- Claims are exclusive, known to the shared set and only released by their
holders. -/
structure FlightState.SingleFlight (state : FlightState) : Prop where
  exclusive : ∀ (first second : Nat) (task other : FlightTask) (key : String),
    state.tasks[first]? = some task → state.tasks[second]? = some other →
    task.held = some key → other.held = some key → first = second
  holders : ∀ key, key ∈ state.hub.inflight ↔
    ∃ task ∈ state.tasks, task.held = some key
  released : ∀ task ∈ state.tasks, ∀ fetch, task.phase = .releasing fetch →
    task.held = some fetch.cacheKey ∧ fetch.cacheKey ∈ state.hub.inflight
  drained : (∀ task ∈ state.tasks, task.phase = .returned) →
    state.hub.inflight = []

/-! The shared set, step by step. -/

def FlightState.Exact (state : FlightState) : Prop :=
  Claims.Exact FlightTask.held state.tasks state.hub.inflight

theorem HubState.release_of_nodup {hub : HubState}
    (once : hub.inflight.Nodup) (cacheKey : String) :
    (hub.release cacheKey).inflight = hub.inflight.erase cacheKey :=
  (once.erase_eq_filter cacheKey).symm

@[simp] theorem FlightTask.held_following (job : FlightJob) :
    FlightTask.held { job, phase := job.following } = none := by
  cases job <;> rfl

@[simp] theorem FlightTask.held_claimed (job : FlightJob)
    (fetch : HubFetch) :
    FlightTask.held { job, phase := job.claimed fetch } =
      some fetch.cacheKey := by
  cases job <;> rfl

section

variable {digest : TokenDigest} {parseTarget : String → Option Uri}
  {state : FlightState}

theorem FlightTask.held_start (hub : HubState) (task : FlightTask) :
    (task.start digest parseTarget hub).held = none := by
  unfold start
  match task.job with
  | .refresh fetch =>
      dsimp only
      split <;> rfl
  | .warmer client token [] => rfl
  | .warmer client token (path :: paths) =>
      dsimp only
      split <;> rfl

theorem FlightState.Exact.resume (known : state.Exact) {index : Nat}
    (upstream : String → Reply MediaContainer) {task : FlightTask}
    (found : state.tasks[index]? = some task) :
    (state.resume digest parseTarget index upstream task).Exact := by
  obtain ⟨job, phase⟩ := task
  unfold FlightState.resume
  cases phase with
  | starting =>
      apply known.step found
      exact FlightTask.held_start state.hub _
  | claiming fetch =>
      dsimp only
      by_cases taken : fetch.cacheKey ∈ state.hub.inflight
      · rw [if_pos taken]
        apply known.step found
        exact FlightTask.held_following job
      · rw [if_neg taken]
        apply known.claim found _ _ taken
        · rfl
        · exact FlightTask.held_claimed job fetch
  | attempting fetch => exact known.step found rfl
  | fetching fetch =>
      dsimp only
      split
      · exact known.step found rfl
      · exact known.step found rfl
  | inserting fetch payload => exact known.step found rfl
  | tracking fetch => exact known.step found rfl
  | releasing fetch =>
      have holds : FlightTask.held { job, phase := .releasing fetch } =
          some fetch.cacheKey := rfl
      have released := known.release found holds
        (FlightTask.held_following job)
      rw [← HubState.release_of_nodup known.once] at released
      exact released
  | returned => exact known

theorem exact_flightStep (digest : TokenDigest)
    (parseTarget : String → Option Uri) (state : FlightState)
    (action : FlightAction) (known : state.Exact) :
    (flightStep digest parseTarget state action).Exact := by
  cases action with
  | spawnHubRefresh fetch => exact known.start rfl
  | warmHubsForToken client token paths => exact known.start rfl
  | resume index upstream =>
      simp only [flightStep]
      cases found : state.tasks[index]? with
      | none => exact known
      | some task => exact known.resume upstream found
  | others metadata fetchedAt lastRefreshAttempt => exact known
  | wait seconds => exact known

theorem FlightState.Exact.singleFlight (known : state.Exact) :
    state.SingleFlight := by
  refine ⟨?_, known.mem_iff, ?_, ?_⟩
  · intro first second task other key found others holds also
    exact known.unique found others holds also
  · intro task listed fetch releasing
    have holds : task.held = some fetch.cacheKey := by
      rw [FlightTask.held, releasing]
    exact ⟨holds, (known.mem_iff _).mpr ⟨task, listed, holds⟩⟩
  · intro returned
    apply known.empty_of_idle
    intro task listed
    rw [FlightTask.held, returned task listed]

end

/-- A refresh that nothing comes between is the one that hub runs take in a
single step. -/
theorem refresh_alone (digest : TokenDigest)
    (parseTarget : String → Option Uri)
    (upstream : String → Reply MediaContainer) (fetch : HubFetch)
    (hub : HubState)
    (rested : (hub.lastRefreshAttempt.lookup fetch.cacheKey).any
      (fun attempted => decide (hub.now - attempted < refreshMinInterval)) =
        false)
    (free : fetch.cacheKey ∉ hub.inflight) :
    ((List.replicate 7 (.resume 0 upstream)).foldl
        (flightStep digest parseTarget)
        { hub, tasks := [{ job := .refresh fetch }] }).hub =
      runTask upstream
        { spawnHubRefresh fetch hub with tasks := hub.tasks }
        (.refresh fetch) := by
  cases payload : fetchHubsPayload upstream fetch.fetchPath <;>
    simp [flightStep, FlightState.resume, FlightState.setTask,
      FlightTask.start, FlightJob.claimed, FlightJob.following, rested, free,
      runTask, refreshHubEntry, spawnHubRefresh, payload,
      HubState.claim, HubState.addTask, HubState.release,
      HubState.storePayload]

/-- Whatever the order of the steps of any number of refreshes and warmers,
each key has one holder at most. -/
theorem hub_refresh_single_flight (digest : TokenDigest)
    (parseTarget : String → Option Uri) (actions : List FlightAction) :
    (flightRun digest parseTarget actions).SingleFlight := by
  have initial : FlightState.Exact {} := Claims.exact_empty
  have known := Transition.invariant_of_steps
    (exact_flightStep digest parseTarget) initial actions
  exact known.singleFlight

end Replex
