import Replex.HubCache.SingleFlight

namespace Replex

open Data

/-! How often background refreshes of one key reach the upstream, whatever
runs between them. -/

/-- A refresh of the key that has read the last attempt and goes on. -/
structure FlightTask.Admitted (cacheKey : String) (task : FlightTask) :
    Prop where
  refreshes : ∃ fetch, task.job = .refresh fetch ∧ fetch.cacheKey = cacheKey
  started : task.phase ≠ .starting
  active : task.phase ≠ .returned

/-- The task's next step records an attempt for the key. -/
def FlightState.Attempts (state : FlightState) (index : Nat)
    (cacheKey : String) : Prop :=
  ∃ fetch, state.tasks[index]? =
      some { job := .refresh fetch, phase := .attempting fetch } ∧
    fetch.cacheKey = cacheKey

/-- A task that has not been spawned, or has not taken a step. -/
def FlightState.Unread (state : FlightState) (index : Nat) : Prop :=
  ∀ task, state.tasks[index]? = some task → task.phase = .starting

/-- The record of the last attempt is not evicted; only refreshes write it. -/
def KeepsAttempt (cacheKey : String) (state : FlightState) :
    FlightAction → Prop
  | .others _ _ lastRefreshAttempt =>
      lastRefreshAttempt.lookup cacheKey =
        state.hub.lastRefreshAttempt.lookup cacheKey
  | _ => True

/-- The record is no older than an attempt that has been made, and whoever was
admitted since came an interval after it. -/
structure FlightState.Paced (cacheKey : String) (attempted : Nat)
    (later : Nat → Prop) (state : FlightState) : Prop where
  recorded : ∃ last, state.hub.lastRefreshAttempt.lookup cacheKey =
    some last ∧ attempted ≤ last
  passed : attempted ≤ state.hub.now
  spaced : ∀ index task, later index → state.tasks[index]? = some task →
    task.Admitted cacheKey → attempted + refreshMinInterval ≤ state.hub.now

section

variable {digest : TokenDigest} {parseTarget : String → Option Uri}
  {state : FlightState} {cacheKey : String} {attempted : Nat}
  {later : Nat → Prop}

/-! What the first step of a refresh reads. -/

theorem admitted_start {hub : HubState} {task : FlightTask} {last : Nat}
    (found : hub.lastRefreshAttempt.lookup cacheKey = some last)
    (admitted : (task.start digest parseTarget hub).Admitted cacheKey) :
    last + refreshMinInterval ≤ hub.now := by
  obtain ⟨⟨fetch, refreshes, key⟩, started, active⟩ := admitted
  obtain ⟨job, phase⟩ := task
  cases job with
  | refresh own =>
      have same : own = fetch := FlightJob.refresh.inj refreshes
      subst same
      unfold FlightTask.start at active
      dsimp only at active
      rw [key, found, Option.any_some] at active
      by_cases recent : hub.now - last < refreshMinInterval
      · exact absurd (by simp [recent]) active
      · have interval : refreshMinInterval = 60 := rfl
        omega
  | warmer client token paths =>
      exfalso
      unfold FlightTask.start at refreshes
      cases paths with
      | nil => cases refreshes
      | cons path paths =>
          dsimp only at refreshes
          split at refreshes <;> cases refreshes

theorem getElem?_setTask {index position : Nat} {task next found : FlightTask}
    (held : state.tasks[index]? = some task)
    (read : (state.tasks.set index next)[position]? = some found) :
    position = index ∧ found = next ∨ state.tasks[position]? = some found := by
  by_cases same : position = index
  · subst same
    rw [List.getElem?_set_self', held] at read
    exact .inl ⟨rfl, (Option.some.inj read).symm⟩
  · rw [List.getElem?_set_ne (Ne.symm same)] at read
    exact .inr read

theorem FlightState.Paced.of_tasks {next : FlightState}
    (paced : state.Paced cacheKey attempted later)
    (recorded : ∃ last, next.hub.lastRefreshAttempt.lookup cacheKey =
      some last ∧ attempted ≤ last)
    (clock : state.hub.now ≤ next.hub.now)
    (admitted : ∀ (index : Nat) (task : FlightTask),
      next.tasks[index]? = some task → task.Admitted cacheKey →
        ∃ before : FlightTask, state.tasks[index]? = some before ∧
          before.Admitted cacheKey) :
    next.Paced cacheKey attempted later where
  recorded := recorded
  passed := paced.passed.trans clock
  spaced index task isLater found goesOn := by
    obtain ⟨before, was, already⟩ := admitted index task found goesOn
    exact (paced.spaced index before isLater was already).trans clock

/-- Past its first step, a task is only admitted if it was before. -/
theorem FlightState.Paced.setTask {next : FlightState}
    (paced : state.Paced cacheKey attempted later) {index : Nat}
    {task moved : FlightTask} (held : state.tasks[index]? = some task)
    (tasks : next.tasks = state.tasks.set index moved)
    (onward : moved.Admitted cacheKey → task.Admitted cacheKey)
    (recorded : ∃ last, next.hub.lastRefreshAttempt.lookup cacheKey =
      some last ∧ attempted ≤ last)
    (clock : next.hub.now = state.hub.now) :
    next.Paced cacheKey attempted later := by
  refine paced.of_tasks recorded clock.ge ?_
  intro position found read admitted
  rw [tasks] at read
  rcases getElem?_setTask held read with ⟨rfl, rfl⟩ | same
  · exact ⟨task, held, onward admitted⟩
  · exact ⟨found, same, admitted⟩

/-- Nobody is admitted within an interval after the last attempt. -/
theorem FlightState.Paced.start (paced : state.Paced cacheKey attempted later)
    {index : Nat} {task : FlightTask}
    (held : state.tasks[index]? = some task) :
    (state.setTask index (task.start digest parseTarget state.hub)).Paced
      cacheKey attempted later where
  recorded := paced.recorded
  passed := paced.passed
  spaced position found isLater read admitted := by
    rcases getElem?_setTask held read with ⟨rfl, rfl⟩ | same
    · obtain ⟨last, recorded, notOlder⟩ := paced.recorded
      have rested := admitted_start recorded admitted
      change attempted + refreshMinInterval ≤ state.hub.now
      omega
    · exact paced.spaced position found isLater same admitted

theorem FlightState.Paced.resume
    (paced : state.Paced cacheKey attempted later) {index : Nat}
    (upstream : String → Reply MediaContainer) {task : FlightTask}
    (held : state.tasks[index]? = some task) :
    (state.resume digest parseTarget index upstream task).Paced cacheKey
      attempted later := by
  obtain ⟨job, phase⟩ := task
  have onward : ∀ {after : FlightPhase}, phase ≠ .starting →
      phase ≠ .returned → FlightTask.Admitted cacheKey ⟨job, after⟩ →
        FlightTask.Admitted cacheKey ⟨job, phase⟩ :=
    fun started active admitted => ⟨admitted.refreshes, started, active⟩
  unfold FlightState.resume
  cases phase with
  | starting => exact paced.start held
  | claiming fetch =>
      dsimp only
      split
      · exact paced.setTask held rfl (onward nofun nofun) paced.recorded rfl
      · exact paced.setTask held rfl (onward nofun nofun) paced.recorded rfl
  | attempting fetch =>
      refine paced.setTask held rfl (onward nofun nofun) ?_ rfl
      by_cases same : cacheKey = fetch.cacheKey
      · subst same
        exact ⟨state.hub.now, Store.lookup_insert_self .., paced.passed⟩
      · rw [Store.lookup_insert_of_ne _ same]
        exact paced.recorded
  | fetching fetch =>
      dsimp only
      split
      · exact paced.setTask held rfl (onward nofun nofun) paced.recorded rfl
      · exact paced.setTask held rfl (onward nofun nofun) paced.recorded rfl
  | inserting fetch payload =>
      exact paced.setTask held rfl (onward nofun nofun) paced.recorded rfl
  | tracking fetch =>
      exact paced.setTask held rfl (onward nofun nofun) paced.recorded rfl
  | releasing fetch =>
      exact paced.setTask held rfl (onward nofun nofun) paced.recorded rfl
  | returned => exact paced

theorem paced_flightStep (state : FlightState) (action : FlightAction)
    (paced : state.Paced cacheKey attempted later)
    (kept : KeepsAttempt cacheKey state action) :
    (flightStep digest parseTarget state action).Paced cacheKey attempted
      later := by
  have spawned : ∀ job, FlightState.Paced cacheKey attempted later
      { state with tasks := state.tasks ++ [{ job }] } := by
    intro job
    refine paced.of_tasks paced.recorded le_rfl ?_
    intro index task read admitted
    rcases Nat.lt_or_ge index state.tasks.length with early | fresh
    · rw [List.getElem?_append_left early] at read
      exact ⟨task, read, admitted⟩
    · rw [List.getElem?_append_right fresh] at read
      obtain rfl := List.mem_singleton.mp (List.mem_of_getElem? read)
      exact absurd rfl admitted.started
  cases action with
  | spawnHubRefresh fetch => exact spawned _
  | warmHubsForToken client token paths => exact spawned _
  | resume index upstream =>
      simp only [flightStep]
      cases found : state.tasks[index]? with
      | none => exact paced
      | some task => exact paced.resume upstream found
  | others metadata fetchedAt lastRefreshAttempt =>
      refine paced.of_tasks ?_ le_rfl fun index task read admitted =>
        ⟨task, read, admitted⟩
      obtain ⟨last, found, notOlder⟩ := paced.recorded
      exact ⟨last, Eq.trans kept found, notOlder⟩
  | wait seconds =>
      exact paced.of_tasks paced.recorded
        (Nat.le_add_right _ seconds) fun index task read admitted =>
          ⟨task, read, admitted⟩

end

/-- The attempt itself starts the interval for everyone who has not read the
record yet. -/
theorem paced_after_attempt {digest : TokenDigest}
    {parseTarget : String → Option Uri} {state : FlightState}
    {cacheKey : String} {index : Nat}
    (attempts : state.Attempts index cacheKey)
    (upstream : String → Reply MediaContainer) :
    (flightStep digest parseTarget state (.resume index upstream)).Paced
      cacheKey state.hub.now state.Unread := by
  obtain ⟨fetch, found, rfl⟩ := attempts
  simp only [flightStep, found, FlightState.resume]
  refine ⟨⟨state.hub.now, Store.lookup_insert_self .., le_rfl⟩, le_rfl, ?_⟩
  intro position task unread read admitted
  rcases getElem?_setTask found read with ⟨rfl, rfl⟩ | same
  · cases unread _ found
  · exact absurd (unread task same) admitted.started

/-- Whatever is spawned, resumed or warmed between two attempts of one key, the
second comes a refresh interval after the first, if its task had not read the
record of attempts by then. -/
theorem refresh_attempts_spaced (digest : TokenDigest)
    (parseTarget : String → Option Uri) {before between : List FlightAction}
    {first second : Nat} {cacheKey : String}
    {upstream : String → Reply MediaContainer}
    (attempts : (flightRun digest parseTarget before).Attempts first cacheKey)
    (unread : (flightRun digest parseTarget before).Unread second)
    (kept : Transition.Meets (flightStep digest parseTarget)
      (KeepsAttempt cacheKey)
      (flightRun digest parseTarget (before ++ [.resume first upstream]))
      between)
    (again : (flightRun digest parseTarget
      (before ++ .resume first upstream :: between)).Attempts second
        cacheKey) :
    (flightRun digest parseTarget before).hub.now + refreshMinInterval ≤
      (flightRun digest parseTarget
        (before ++ .resume first upstream :: between)).hub.now := by
  have started := @paced_after_attempt digest parseTarget _ _ _ attempts
    upstream
  have stepped : flightRun digest parseTarget
      (before ++ [.resume first upstream]) =
      flightStep digest parseTarget (flightRun digest parseTarget before)
        (.resume first upstream) := by
    simp [flightRun]
  have reached : flightRun digest parseTarget
      (before ++ .resume first upstream :: between) =
      between.foldl (flightStep digest parseTarget)
        (flightStep digest parseTarget (flightRun digest parseTarget before)
          (.resume first upstream)) := by
    simp [flightRun]
  rw [stepped] at kept
  rw [reached] at again ⊢
  have paced := Transition.invariant_of_meets paced_flightStep started kept
  obtain ⟨fetch, found, key⟩ := again
  exact paced.spaced second _ unread found
    ⟨⟨fetch, rfl, key⟩, nofun, nofun⟩

/-! A home screen that is asked for again while its refresh fails, and once
more a minute later. -/

def homeFetch : HubFetch where
  client := { host := "http://plex:32400", context := {} }
  keyPath := "/hubs/home"
  fetchPath := "/hubs/home?includeGuids=1&count=50"
  cacheKey := "hubcache:global:/hubs/home"

def unreachable (_ : String) : Reply MediaContainer :=
  .failed "connection refused"

def firstRefresh : List FlightAction :=
  [.spawnHubRefresh homeFetch, .resume 0 unreachable, .resume 0 unreachable]

def nextRefresh : List FlightAction :=
  [.resume 0 unreachable, .resume 0 unreachable, .wait 60,
    .spawnHubRefresh homeFetch, .resume 1 unreachable, .resume 1 unreachable]

theorem next_refresh_waits :
    (flightRun viewerDigest (fun _ => none) firstRefresh).hub.now +
        refreshMinInterval ≤
      (flightRun viewerDigest (fun _ => none)
        (firstRefresh ++ .resume 0 unreachable :: nextRefresh)).hub.now := by
  have attempts : (flightRun viewerDigest (fun _ => none)
      firstRefresh).Attempts 0 homeFetch.cacheKey :=
    ⟨homeFetch, rfl, rfl⟩
  have unread : (flightRun viewerDigest (fun _ => none)
      firstRefresh).Unread 1 :=
    fun _ (found : none = some _) => nomatch found
  have again : (flightRun viewerDigest (fun _ => none)
      (firstRefresh ++ .resume 0 unreachable :: nextRefresh)).Attempts 1
        homeFetch.cacheKey :=
    ⟨homeFetch, rfl, rfl⟩
  exact refresh_attempts_spaced viewerDigest (fun _ => none) attempts unread
    ⟨trivial, trivial, trivial, trivial, trivial, trivial, trivial⟩ again

end Replex
