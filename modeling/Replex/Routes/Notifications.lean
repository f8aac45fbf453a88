import Replex.Auth.Context
import Replex.Data.Script
import Replex.Jobs

namespace Replex

open Data

/-! The notification bootstrap: a supervised job that changes the settings of
an account at Plex. -/

structure ApiRequest where
  method : Method
  url : String
  query : List (String × String) := []
  headers : List (String × String)
  body : Option String := none
  deriving DecidableEq

structure PlexUser where
  id : Int64
  uuid : String
  username : String
  email : String
  deriving DecidableEq

/-- An answer has a status of success or not, and a body that reads as a user
or does not. -/
inductive ApiReply where
  | failed
  | answered (success : Bool) (user : Option PlexUser)
  deriving DecidableEq

def ApiReply.succeeded : ApiReply → Bool
  | failed => false
  | answered success _ => success

def clientBase : String :=
  "https://clients.plex.tv"

def userRequest (token clientId : String) : ApiRequest where
  method := .get
  url := clientBase ++ "/api/v2/user"
  headers := [("Accept", "application/json"), ("X-Plex-Token", token),
    ("X-Plex-Client-Identifier", clientId)]

def settingsRequest (token : String) : ApiRequest where
  method := .post
  url := "https://notifications.plex.tv/api/v1/notifications/settings"
  query := [("X-Plex-Token", token)]
  headers := [("Content-Type", "application/json")]
  body := some ("\x7b\"enabled\": true,\"libraries\": []," ++
    "\"identifier\": \"tv.plex.notification.library.new\"\x7d")

def optOutRequest (token clientId : String) (user : PlexUser) (key : String) :
    ApiRequest where
  method := .post
  url := clientBase ++ "/api/v2/user/" ++ user.uuid ++ "/settings/opt_outs" ++
    "?key=" ++ key ++ "&value=opt_out"
  headers := [("Accept", "application/json"), ("X-Plex-Token", token),
    ("X-Plex-Client-Identifier", clientId)]

def optOutKeys : List String :=
  ["tv.plex.provider.vod", "tv.plex.provider.music"]

abbrev ApiScript : Type := Script ApiRequest ApiReply Bool

/-- One opt-out after the other, whether the earlier ones succeed or not. -/
def optOuts (token clientId : String) (user : PlexUser) :
    List String → Bool → ApiScript
  | [], allSucceeded => .done allSucceeded
  | key :: keys, allSucceeded =>
      .ask (optOutRequest token clientId user key) fun
        | .failed => optOuts token clientId user keys false
        | .answered success _ =>
            optOuts token clientId user keys (allSucceeded && success)

def changeSettings (token clientId : String) (user : PlexUser) : ApiScript :=
  .ask (settingsRequest token) fun
    | .failed => .done false
    | .answered success _ => optOuts token clientId user optOutKeys success

/-- What the spawned task does, up to its report. -/
def bootstrapScript (token clientId : String) : ApiScript :=
  .ask (userRequest token clientId) fun
    | .failed | .answered false _ | .answered true none => .done false
    | .answered true (some user) => changeSettings token clientId user

/-- A request of an account, with the exchanges so far, what remains, and what
has been reported to the supervisor. -/
structure Bootstrap where
  token : String
  clientId : String
  exchanges : List (ApiRequest × ApiReply) := []
  rest : ApiScript
  reported : Option Bool := none

def Bootstrap.exchange (task : Bootstrap) (question : ApiRequest)
    (reply : ApiReply) (rest : ApiScript) : Bootstrap :=
  { task with
    exchanges := task.exchanges ++ [(question, reply)]
    rest }

def Bootstrap.report (task : Bootstrap) (success : Bool) : Bootstrap :=
  { task with reported := some success }

/-- Each task makes the supervisor's call of the same number. -/
structure BootstrapState where
  supervisor : JobSupervisor := {}
  tasks : List Bootstrap := []

inductive BootstrapAction where
  | request (depot : Depot)
  | resume (index : Nat) (reply : ApiReply)
  | wait (elapsed : Nat)

section

variable (digest : TokenDigest)

def bootstrapKey (token : String) : String :=
  "notifications:" ++ digest.tokenScope (some token)

def ntfWatchlistForce (state : BootstrapState) (depot : Depot) :
    BootstrapState :=
  if depot.skipOptionalTransforms then
    state
  else
    match depot.requestContext with
    | none => state
    | some context =>
        match context.plex.token, context.plex.clientIdentifier with
        | some token, some clientId =>
            { supervisor :=
                jobStep state.supervisor (.tryStart (bootstrapKey digest token))
              tasks := state.tasks ++
                [{ token, clientId, rest := bootstrapScript token clientId }] }
        | _, _ => state

/-- Until its job is started a task goes on with the call, and then with the
script; the last step is the report. -/
def BootstrapState.resume (state : BootstrapState) (index : Nat)
    (reply : ApiReply) (task : Bootstrap) (call : StartCall) :
    BootstrapState :=
  match call.phase with
  | .entered | .checked _ | .claimed =>
      { state with supervisor := jobStep state.supervisor (.resume index) }
  | .running _ =>
      match task.rest with
      | .ask question next =>
          { state with
            tasks := state.tasks.set index
              (task.exchange question reply (next reply)) }
      | .done success =>
          -- The report waits for the lock.
          if state.supervisor.locked then
            state
          else
            { supervisor := jobStep state.supervisor
                (.finish (bootstrapKey digest task.token) success)
              tasks := state.tasks.set index (task.report success) }
  | .finished _ | .refused => state

def bootstrapStep (state : BootstrapState) :
    BootstrapAction → BootstrapState
  | .request depot => ntfWatchlistForce digest state depot
  | .resume index reply =>
      match state.tasks[index]?, state.supervisor.calls[index]? with
      | some task, some call => state.resume digest index reply task call
      | _, _ => state
  | .wait elapsed =>
      { state with supervisor := jobStep state.supervisor (.wait elapsed) }

def bootstrapRun (actions : List BootstrapAction) : BootstrapState :=
  actions.foldl (bootstrapStep digest) {}

end

/-! What the script asks, by itself. -/

section

variable {token clientId : String} {user : PlexUser}
  {exchanges : List (ApiRequest × ApiReply)} {rest : ApiScript}

theorem leads_optOuts {keys : List String} {allSucceeded : Bool}
    (leads : (optOuts token clientId user keys allSucceeded).Leads exchanges
      rest) :
    exchanges.map Prod.fst <+: keys.map (optOutRequest token clientId user) ∧
      ∀ success, rest = .done success →
        exchanges.length = keys.length ∧
          (success = true ↔ allSucceeded = true ∧
            ∀ exchange ∈ exchanges, exchange.2.succeeded = true) := by
  induction keys generalizing allSucceeded exchanges with
  | nil =>
      obtain ⟨rfl, rfl⟩ := leads.of_done
      refine ⟨List.nil_prefix, ?_⟩
      rintro success ⟨⟩
      simp
  | cons key keys hypothesis =>
      rcases leads.of_ask with ⟨rfl, rfl⟩ | ⟨answer, later, rfl, follows⟩
      · exact ⟨List.nil_prefix, nofun⟩
      · have next : (optOuts token clientId user keys
            (allSucceeded && answer.succeeded)).Leads later rest := by
          cases answer with
          | failed => simpa [ApiReply.succeeded] using follows
          | answered success user => exact follows
        obtain ⟨asked, ended⟩ := hypothesis next
        refine ⟨(List.cons_prefix_cons).mpr ⟨rfl, asked⟩, ?_⟩
        intro success finished
        obtain ⟨count, all⟩ := ended success finished
        refine ⟨congrArg Nat.succ count, all.trans ?_⟩
        rw [List.forall_mem_cons, Bool.and_eq_true, and_assoc]

/-- The changes that are made for a user, in their order. -/
def changesFor (token clientId : String) (user : PlexUser) :
    List ApiRequest :=
  settingsRequest token :: optOutKeys.map (optOutRequest token clientId user)

theorem leads_changeSettings
    (leads : (changeSettings token clientId user).Leads exchanges rest) :
    exchanges.map Prod.fst <+: changesFor token clientId user ∧
      ∀ success, rest = .done success →
        (success = true ↔ exchanges.length = 3 ∧
          ∀ exchange ∈ exchanges, exchange.2.succeeded = true) := by
  rcases leads.of_ask with ⟨rfl, rfl⟩ | ⟨answer, later, rfl, follows⟩
  · exact ⟨List.nil_prefix, nofun⟩
  · cases answer with
    | failed =>
        obtain ⟨rfl, rfl⟩ := follows.of_done
        refine ⟨⟨_, rfl⟩, ?_⟩
        rintro success ⟨⟩
        simp
    | answered first body =>
        obtain ⟨asked, ended⟩ := leads_optOuts follows
        refine ⟨(List.cons_prefix_cons).mpr ⟨rfl, asked⟩, ?_⟩
        intro success finished
        obtain ⟨count, all⟩ := ended success finished
        have three : ((settingsRequest token, ApiReply.answered first body) ::
            later).length = 3 := congrArg Nat.succ count
        rw [all, and_iff_right three, List.forall_mem_cons]
        rfl

/-- Nothing is changed before Plex has named the user of the token, and then
only what is to be changed for that user. -/
def InOrder (token clientId : String)
    (exchanges : List (ApiRequest × ApiReply)) : Prop :=
  exchanges = [] ∨ ∃ reply changes,
    exchanges = (userRequest token clientId, reply) :: changes ∧
      (changes = [] ∨ ∃ user, reply = .answered true (some user) ∧
        changes.map Prod.fst <+: changesFor token clientId user)

def AllDone (exchanges : List (ApiRequest × ApiReply)) : Prop :=
  exchanges.length = 4 ∧
    ∀ exchange ∈ exchanges, exchange.2.succeeded = true

theorem leads_bootstrapScript
    (leads : (bootstrapScript token clientId).Leads exchanges rest) :
    InOrder token clientId exchanges ∧
      ∀ success, rest = .done success →
        (success = true ↔ AllDone exchanges) := by
  have refuses {reply : ApiReply} {later : List (ApiRequest × ApiReply)}
      (leads : (Script.done false : ApiScript).Leads later rest) :
      InOrder token clientId ((userRequest token clientId, reply) :: later) ∧
        ∀ success, rest = .done success →
          (success = true ↔
            AllDone ((userRequest token clientId, reply) :: later)) := by
    obtain ⟨rfl, rfl⟩ := leads.of_done
    refine ⟨.inr ⟨reply, [], rfl, .inl rfl⟩, ?_⟩
    rintro success ⟨⟩
    simp [AllDone]
  rcases leads.of_ask with ⟨rfl, rfl⟩ | ⟨answer, later, rfl, follows⟩
  · exact ⟨.inl rfl, nofun⟩
  · match answer with
    | .failed | .answered false _ | .answered true none =>
        exact refuses follows
    | .answered true (some user) =>
        obtain ⟨asked, ended⟩ := leads_changeSettings follows
        refine ⟨.inr ⟨_, later, rfl, .inr ⟨user, rfl, asked⟩⟩, ?_⟩
        intro success finished
        rw [ended success finished, AllDone, List.forall_mem_cons]
        simp [ApiReply.succeeded]

theorem within_optOuts (keys : List String) (allSucceeded : Bool) :
    (optOuts token clientId user keys allSucceeded).Within keys.length := by
  induction keys generalizing allSucceeded with
  | nil => exact .done 0 allSucceeded
  | cons key keys hypothesis =>
      refine .ask fun answer => ?_
      cases answer with
      | failed => exact hypothesis false
      | answered success user => exact hypothesis (allSucceeded && success)

theorem within_bootstrapScript : (bootstrapScript token clientId).Within 4 := by
  refine .ask fun answer => ?_
  match answer with
  | .failed | .answered false _ | .answered true none => exact .done 3 false
  | .answered true (some user) =>
      refine .ask fun answer => ?_
      cases answer with
      | failed => exact .done 2 false
      | answered success _ => exact within_optOuts optOutKeys success

end

/-! What one step does to the supervisor's calls. -/

namespace JobSupervisor

variable {supervisor : JobSupervisor} {index : Nat} {call : StartCall}

/-- A call that goes on stays a call of its key, and is not finished by it. -/
theorem resumed (found : supervisor.calls[index]? = some call) :
    ∃ phase : StartPhase,
      (jobStep supervisor (.resume index)).calls =
          supervisor.calls.set index { call with phase } ∧
        (jobStep supervisor (.resume index)).taskFailures =
          supervisor.taskFailures ∧
        (phase = call.phase ∨ ∀ startedAt, phase ≠ .finished startedAt) := by
  have still : supervisor.calls.set index { call with phase := call.phase } =
      supervisor.calls := by
    obtain ⟨inside, rfl⟩ := List.getElem?_eq_some_iff.mp found
    exact List.set_getElem_self inside
  simp only [jobStep, found, JobSupervisor.resume]
  cases phase : call.phase with
  | entered =>
      dsimp only
      split
      · exact ⟨.refused, rfl, rfl, .inr (by simp)⟩
      · exact ⟨.checked supervisor.now, rfl, rfl, .inr (by simp)⟩
  | checked readAt =>
      dsimp only
      split
      · exact ⟨call.phase, still.symm, rfl, .inl phase⟩
      · split
        · exact ⟨.refused, rfl, rfl, .inr (by simp)⟩
        · exact ⟨.claimed, rfl, rfl, .inr (by simp)⟩
  | claimed => exact ⟨.running supervisor.now, rfl, rfl, .inr (by simp)⟩
  | running startedAt => exact ⟨call.phase, still.symm, rfl, .inl phase⟩
  | finished startedAt => exact ⟨call.phase, still.symm, rfl, .inl phase⟩
  | refused => exact ⟨call.phase, still.symm, rfl, .inl phase⟩

/-- Only the one call that runs for the key is finished. -/
theorem calls_finish (flights : supervisor.Flights)
    (unlocked : supervisor.locked = false)
    (found : supervisor.calls[index]? = some call) {startedAt : Nat}
    (runs : call.phase = .running startedAt) (success : Bool) :
    (supervisor.finish call.key success).calls =
      supervisor.calls.set index { call with phase := .finished startedAt } := by
  have open' : ¬ supervisor.locked = true := by simp [unlocked]
  rw [finish, if_neg open']
  apply List.ext_getElem?
  intro position
  rw [List.getElem?_map]
  by_cases same : position = index
  · subst same
    rw [found, List.getElem?_set_self' ]
    simp [found, StartCall.finish, runs]
  · rw [List.getElem?_set_ne (Ne.symm same)]
    cases others : supervisor.calls[position]? with
    | none => rfl
    | some other =>
        have flies : call.inFlight = some call.key := by
          simp [StartCall.inFlight, runs]
        have apart : other.inFlight ≠ some call.key := by
          intro also
          exact same (flights.claims.unique others found also flies)
        rw [Option.map_some]
        congr 1
        unfold StartCall.finish
        cases phase : other.phase with
        | running since =>
            have different : other.key ≠ call.key := by
              simpa [StartCall.inFlight, phase] using apart
            simp [different]
        | _ => rfl

end JobSupervisor

/-- The task and its call of `try_start` keep step. -/
structure Bootstrap.Makes (digest : TokenDigest) (task : Bootstrap)
    (call : StartCall) : Prop where
  key : call.key = bootstrapKey digest task.token
  leads : (bootstrapScript task.token task.clientId).Leads task.exchanges
    task.rest
  patient : call.startedAt = none → task.exchanges = []
  finished : ∀ startedAt, call.phase = .finished startedAt →
    ∃ success, task.rest = .done success ∧ task.reported = some success
  reported : ∀ success, task.reported = some success →
    ∃ startedAt, call.phase = .finished startedAt

structure BootstrapState.InStep (digest : TokenDigest)
    (asked : String → String → Prop) (state : BootstrapState) : Prop where
  ran : ∃ jobs, state.supervisor = jobRun jobs
  paired : state.tasks.length = state.supervisor.calls.length
  makes : ∀ (index : Nat) (task : Bootstrap) (call : StartCall),
    state.tasks[index]? = some task →
    state.supervisor.calls[index]? = some call → task.Makes digest call
  asked : ∀ task ∈ state.tasks, asked task.token task.clientId
  failures : state.supervisor.taskFailures =
    UInt64.ofNat ((state.tasks.map Bootstrap.reported).count (some false))

theorem ran_jobStep {supervisor : JobSupervisor}
    (ran : ∃ jobs, supervisor = jobRun jobs) (action : JobAction) :
    ∃ jobs, jobStep supervisor action = jobRun jobs := by
  obtain ⟨jobs, rfl⟩ := ran
  exact ⟨jobs ++ [action], by simp [jobRun]⟩

theorem flights_jobRun (jobs : List JobAction) : (jobRun jobs).Flights :=
  Transition.invariant_of_steps JobSupervisor.flights_step
    JobSupervisor.flights_initial jobs

/-- A task that has not been started has neither asked nor reported. -/
theorem Bootstrap.Makes.untouched {digest : TokenDigest} {task : Bootstrap}
    {call : StartCall} (makes : task.Makes digest call)
    (waits : call.startedAt = none) :
    task.exchanges = [] ∧ task.reported = none := by
  refine ⟨makes.patient waits, ?_⟩
  cases told : task.reported with
  | none => rfl
  | some success =>
      obtain ⟨startedAt, phase⟩ := makes.reported success told
      simp [StartCall.startedAt, phase] at waits

namespace BootstrapState

variable {digest : TokenDigest} {asked : String → String → Prop}
  {state : BootstrapState}

theorem InStep.flights (inStep : state.InStep digest asked) :
    state.supervisor.Flights := by
  obtain ⟨jobs, same⟩ := inStep.ran
  rw [same]
  exact flights_jobRun jobs

theorem InStep.request (inStep : state.InStep digest asked) {depot : Depot}
    (known : ∀ context token clientId,
      depot.skipOptionalTransforms = false →
      depot.requestContext = some context →
      context.plex.token = some token →
      context.plex.clientIdentifier = some clientId → asked token clientId) :
    (ntfWatchlistForce digest state depot).InStep digest asked := by
  unfold ntfWatchlistForce
  split
  · exact inStep
  next bypassed =>
      split
      · exact inStep
      next context present =>
          split
          next token clientId presented identified =>
              have asks := known context token clientId
                (Bool.eq_false_iff.mpr bypassed) present presented identified
              refine ⟨ran_jobStep inStep.ran (.tryStart _), ?_, ?_, ?_, ?_⟩
              · simp [jobStep, inStep.paired]
              · intro index task call found made
                dsimp only [jobStep] at made
                rw [List.getElem?_append] at found made
                rw [← inStep.paired] at made
                split at found
                next inside =>
                    rw [if_pos inside] at made
                    exact inStep.makes index task call found made
                next outside =>
                    rw [if_neg outside] at made
                    cases List.mem_singleton.mp (List.mem_of_getElem? found)
                    cases List.mem_singleton.mp (List.mem_of_getElem? made)
                    refine ⟨rfl, .start _, fun _ => rfl, ?_, ?_⟩
                    · rintro startedAt ⟨⟩
                    · rintro success ⟨⟩
              · intro task listed
                rcases List.mem_append.mp listed with earlier | latest
                · exact inStep.asked task earlier
                · cases List.mem_singleton.mp latest
                  exact asks
              · simpa [jobStep] using inStep.failures
          · exact inStep

section

variable {index : Nat} {task : Bootstrap} {call : StartCall}
  (found : state.tasks[index]? = some task)
  (made : state.supervisor.calls[index]? = some call)

include found made

theorem InStep.goOnCall (inStep : state.InStep digest asked)
    (waits : call.startedAt = none) :
    BootstrapState.InStep digest asked
      { state with supervisor := jobStep state.supervisor (.resume index) } := by
  obtain ⟨phase, calls, failures, kept⟩ := JobSupervisor.resumed made
  refine ⟨ran_jobStep inStep.ran (.resume index), ?_, ?_, inStep.asked,
    failures.trans inStep.failures⟩
  · rw [calls, List.length_set]
    exact inStep.paired
  · intro position other now there also
    dsimp only at there also
    rw [calls] at also
    rcases JobSupervisor.getElem?_set_cases also with ⟨rfl, rfl⟩ | ⟨-, same⟩
    · obtain rfl : task = other := Option.some.inj (found.symm.trans there)
      have makes := inStep.makes position task call found made
      obtain ⟨asked, told⟩ := makes.untouched waits
      refine ⟨makes.key, makes.leads, fun _ => asked, ?_, by simp [told]⟩
      intro startedAt finished
      rcases kept with rfl | other
      · have phase : call.phase = .finished startedAt := finished
        simp [StartCall.startedAt, phase] at waits
      · exact absurd finished (other startedAt)
    · exact inStep.makes position other now there same

theorem InStep.exchange (inStep : state.InStep digest asked)
    {startedAt : Nat} (runs : call.phase = .running startedAt)
    {question : ApiRequest} {next : ApiReply → ApiScript}
    (asks : task.rest = .ask question next) (reply : ApiReply) :
    BootstrapState.InStep digest asked
      { state with
        tasks := state.tasks.set index
          (task.exchange question reply (next reply)) } := by
  have makes := inStep.makes index task call found made
  refine ⟨inStep.ran, ?_, ?_, ?_, ?_⟩
  · rw [List.length_set]
    exact inStep.paired
  · intro position other now there also
    rcases JobSupervisor.getElem?_set_cases there with ⟨rfl, rfl⟩ | ⟨-, same⟩
    · obtain rfl : call = now := Option.some.inj (made.symm.trans also)
      refine ⟨makes.key, ?_, ?_, ?_, makes.reported⟩
      · exact (asks ▸ makes.leads).snoc reply
      · intro waits
        simp [StartCall.startedAt, runs] at waits
      · intro since finished
        rw [runs] at finished
        cases finished
    · exact inStep.makes position other now same also
  · intro other listed
    rcases List.mem_or_eq_of_mem_set listed with earlier | rfl
    · exact inStep.asked other earlier
    · exact inStep.asked task (List.mem_of_getElem? found)
  · have same : (state.tasks.set index
        (task.exchange question reply (next reply))).map Bootstrap.reported =
          state.tasks.map Bootstrap.reported := by
      have told : (task.exchange question reply (next reply)).reported =
          task.reported := rfl
      obtain ⟨inside, rfl⟩ := List.getElem?_eq_some_iff.mp found
      rw [List.map_set, told, ← List.getElem_map Bootstrap.reported]
      exact List.set_getElem_self (by simpa using inside)
    rw [same]
    exact inStep.failures

theorem InStep.report (inStep : state.InStep digest asked)
    {startedAt : Nat} (runs : call.phase = .running startedAt)
    {success : Bool} (done : task.rest = .done success)
    (unlocked : state.supervisor.locked = false) :
    BootstrapState.InStep digest asked
      { supervisor := jobStep state.supervisor
          (.finish (bootstrapKey digest task.token) success)
        tasks := state.tasks.set index (task.report success) } := by
  have makes := inStep.makes index task call found made
  have calls := JobSupervisor.calls_finish inStep.flights unlocked made runs
    success
  have unreported : task.reported = none := by
    cases told : task.reported with
    | none => rfl
    | some success =>
        obtain ⟨since, finished⟩ := makes.reported success told
        rw [runs] at finished
        cases finished
  have counted : (state.supervisor.finish call.key success).taskFailures =
      state.supervisor.taskFailures + if success then 0 else 1 := by
    simp [JobSupervisor.finish, unlocked]
  rw [← makes.key]
  refine ⟨ran_jobStep inStep.ran (.finish _ success), ?_, ?_, ?_, ?_⟩
  · simp only [jobStep, calls, List.length_set]
    exact inStep.paired
  · intro position other now there also
    simp only [jobStep, calls] at also
    rcases JobSupervisor.getElem?_set_cases there with ⟨rfl, rfl⟩ |
      ⟨different, same⟩
    · rcases JobSupervisor.getElem?_set_cases also with ⟨-, rfl⟩ | ⟨apart, -⟩
      · refine ⟨makes.key, makes.leads, ?_, ?_, ?_⟩
        · rintro ⟨⟩
        · intro since finished
          exact ⟨success, done, rfl⟩
        · intro told reports
          exact ⟨startedAt, rfl⟩
      · exact absurd rfl apart
    · rw [List.getElem?_set_ne (Ne.symm different)] at also
      exact inStep.makes position other now same also
  · intro other listed
    rcases List.mem_or_eq_of_mem_set listed with earlier | rfl
    · exact inStep.asked other earlier
    · exact inStep.asked task (List.mem_of_getElem? found)
  · obtain ⟨inside, rfl⟩ := List.getElem?_eq_some_iff.mp found
    have range : index < (state.tasks.map Bootstrap.reported).length := by
      simpa using inside
    simp only [jobStep]
    rw [counted, inStep.failures, List.map_set, List.count_set range,
      List.getElem_map, unreported, Bootstrap.report]
    cases success with
    | false => simp [UInt64.ofNat_add]
    | true => simp

end

theorem InStep.resume (inStep : state.InStep digest asked) (index : Nat)
    (reply : ApiReply) {task : Bootstrap} {call : StartCall}
    (found : state.tasks[index]? = some task)
    (made : state.supervisor.calls[index]? = some call) :
    (state.resume digest index reply task call).InStep digest asked := by
  unfold BootstrapState.resume
  cases phase : call.phase with
  | entered | checked | claimed =>
      exact inStep.goOnCall found made (by simp [StartCall.startedAt, phase])
  | running startedAt =>
      dsimp only
      cases rest : task.rest with
      | ask question next => exact inStep.exchange found made phase rest reply
      | done success =>
          dsimp only
          split
          · exact inStep
          next unlocked =>
              exact inStep.report found made phase rest
                (Bool.eq_false_iff.mpr unlocked)
  | finished startedAt => exact inStep
  | refused => exact inStep

end BootstrapState

/-! The whole run. -/

/-- What the actions let a task do. -/
structure Bootstrap.Conducted (digest : TokenDigest)
    (actions : List BootstrapAction) (task : Bootstrap) (call : StartCall) :
    Prop where
  asked : ∃ depot context, .request depot ∈ actions ∧
    depot.skipOptionalTransforms = false ∧
    depot.requestContext = some context ∧
    context.plex.token = some task.token ∧
    context.plex.clientIdentifier = some task.clientId
  key : call.key = bootstrapKey digest task.token
  patient : call.startedAt = none → task.exchanges = []
  ordered : InOrder task.token task.clientId task.exchanges
  finished : ∀ startedAt, call.phase = .finished startedAt →
    ∃ success, task.reported = some success ∧
      (success = true ↔ AllDone task.exchanges)

theorem Bootstrap.Makes.conducted {digest : TokenDigest} {task : Bootstrap}
    {call : StartCall} (makes : task.Makes digest call)
    {actions : List BootstrapAction}
    (asked : ∃ depot context, .request depot ∈ actions ∧
      depot.skipOptionalTransforms = false ∧
      depot.requestContext = some context ∧
      context.plex.token = some task.token ∧
      context.plex.clientIdentifier = some task.clientId) :
    task.Conducted digest actions call := by
  obtain ⟨ordered, ended⟩ := leads_bootstrapScript makes.leads
  refine ⟨asked, makes.key, makes.patient, ordered, ?_⟩
  intro startedAt finished
  obtain ⟨success, done, told⟩ := makes.finished startedAt finished
  exact ⟨success, told, ended success done⟩

section

variable {digest : TokenDigest}

theorem inStep_bootstrapRun (actions : List BootstrapAction) :
    (bootstrapRun digest actions).InStep digest fun token clientId =>
      ∃ depot context, .request depot ∈ actions ∧
        depot.skipOptionalTransforms = false ∧
        depot.requestContext = some context ∧
        context.plex.token = some token ∧
        context.plex.clientIdentifier = some clientId := by
  have initial : BootstrapState.InStep digest (fun token clientId =>
      ∃ depot context, .request depot ∈ actions ∧
        depot.skipOptionalTransforms = false ∧
        depot.requestContext = some context ∧
        context.plex.token = some token ∧
        context.plex.clientIdentifier = some clientId) {} :=
    ⟨⟨[], rfl⟩, rfl, nofun, nofun, rfl⟩
  refine @Transition.invariant_of_meets _ _ (bootstrapStep digest)
    (fun _ action => action ∈ actions) _ ?_ actions {} initial
    (Transition.meets_of_forall _ (fun _ listed => listed) _)
  intro state action inStep listed
  cases action with
  | request depot =>
      apply inStep.request
      intro context token clientId open' present presented identified
      exact ⟨depot, context, listed, open', present, presented, identified⟩
  | resume index reply =>
      simp only [bootstrapStep]
      split
      next task call found made => exact inStep.resume index reply found made
      · exact inStep
  | wait elapsed =>
      exact ⟨ran_jobStep inStep.ran (.wait elapsed), inStep.paired,
        inStep.makes, inStep.asked, inStep.failures⟩

theorem resume_finished {state : BootstrapState} {index : Nat}
    {task : Bootstrap} {call : StartCall} {startedAt : Nat}
    (found : state.tasks[index]? = some task)
    (made : state.supervisor.calls[index]? = some call)
    (finished : call.phase = .finished startedAt) (replies : List ApiReply) :
    replies.foldl (fun state reply =>
      bootstrapStep digest state (.resume index reply)) state = state := by
  induction replies with
  | nil => rfl
  | cons reply replies hypothesis =>
      have still : bootstrapStep digest state (.resume index reply) = state := by
        simp only [bootstrapStep, found, made, BootstrapState.resume, finished]
      rw [List.foldl_cons, still, hypothesis]

/-- While the lock is free, a job that runs is over after as many answers as
its script may ask for, and one more step for the report. -/
theorem settles {asked : String → String → Prop} {bound : Nat}
    {state : BootstrapState} {index : Nat} {task : Bootstrap}
    {call : StartCall} {startedAt : Nat}
    (inStep : state.InStep digest asked)
    (found : state.tasks[index]? = some task)
    (made : state.supervisor.calls[index]? = some call)
    (runs : call.phase = .running startedAt)
    (unlocked : state.supervisor.locked = false)
    (within : task.rest.Within bound) (replies : List ApiReply)
    (enough : replies.length = bound + 1) :
    ∃ call, (replies.foldl (fun state reply =>
        bootstrapStep digest state (.resume index reply))
          state).supervisor.calls[index]? = some call ∧
      call.phase = .finished startedAt := by
  induction replies generalizing bound state task with
  | nil => simp at enough
  | cons reply replies hypothesis =>
      rw [List.foldl_cons]
      have step : bootstrapStep digest state (.resume index reply) =
          state.resume digest index reply task call := by
        simp only [bootstrapStep, found, made]
      rw [step]
      cases rest : task.rest with
      | done success =>
          have reports : state.resume digest index reply task call =
              { supervisor := jobStep state.supervisor
                  (.finish (bootstrapKey digest task.token) success)
                tasks := state.tasks.set index (task.report success) } := by
            simp only [BootstrapState.resume, runs, rest, unlocked,
              Bool.false_eq_true, if_false]
          have makes := inStep.makes index task call found made
          have calls := JobSupervisor.calls_finish inStep.flights unlocked made
            runs success
          have finished : (jobStep state.supervisor (.finish
              (bootstrapKey digest task.token) success)).calls[index]? =
                some { call with phase := .finished startedAt } := by
            rw [jobStep, ← makes.key, calls, List.getElem?_set_self', made]
            rfl
          have there : (state.tasks.set index
              (task.report success))[index]? =
                some (task.report success) := by
            rw [List.getElem?_set_self', found]
            rfl
          rw [reports, resume_finished there finished rfl]
          exact ⟨_, finished, rfl⟩
      | ask question next =>
          have asks : state.resume digest index reply task call =
              { state with
                tasks := state.tasks.set index
                  (task.exchange question reply (next reply)) } := by
            simp only [BootstrapState.resume, runs, rest]
          rw [rest] at within
          cases within with
          | @ask bound _ _ each =>
              have there : (state.tasks.set index
                  (task.exchange question reply (next reply)))[index]? =
                    some (task.exchange question reply (next reply)) := by
                rw [List.getElem?_set_self', found]
                rfl
              rw [asks]
              exact hypothesis (inStep.exchange found made runs rest reply)
                there made unlocked (each reply) (Nat.succ.inj enough)

/-- Whatever is interleaved, the job of an account is run for a request of that
account, asks Plex for the user before it changes anything, changes only that
user's settings, and reports a success exactly when all four requests were
successful. Each job that is started can be brought to its end. -/
theorem notification_bootstrap_conducted (actions : List BootstrapAction) :
    let reached := bootstrapRun digest actions
    (∃ jobs, reached.supervisor = jobRun jobs) ∧
      reached.supervisor.SingleFlight ∧
      reached.supervisor.taskFailures =
        UInt64.ofNat
          ((reached.tasks.map Bootstrap.reported).count (some false)) ∧
      ∀ (index : Nat) (task : Bootstrap), reached.tasks[index]? = some task →
        ∃ call, reached.supervisor.calls[index]? = some call ∧
          task.Conducted digest actions call ∧
          ∀ startedAt, call.phase = .running startedAt →
            reached.supervisor.locked = false →
            ∀ replies : List ApiReply, replies.length = 5 →
              ∃ later, (bootstrapRun digest (actions ++ replies.map
                  (.resume index))).supervisor.calls[index]? = some later ∧
                later.phase = .finished startedAt := by
  intro reached
  have inStep := @inStep_bootstrapRun digest actions
  refine ⟨inStep.ran, inStep.flights.singleFlight, inStep.failures, ?_⟩
  intro index task found
  obtain ⟨inside, -⟩ := List.getElem?_eq_some_iff.mp found
  have called : index < reached.supervisor.calls.length :=
    inStep.paired ▸ inside
  have made := List.getElem?_eq_getElem called
  have makes := inStep.makes index task _ found made
  refine ⟨_, made, makes.conducted (inStep.asked task
    (List.mem_of_getElem? found)), ?_⟩
  intro startedAt runs unlocked replies enough
  have within := within_bootstrapScript.of_leads makes.leads
  have finished := settles inStep found made runs unlocked within replies enough
  rw [bootstrapRun, List.foldl_append, List.foldl_map]
  exact finished

end

end Replex
