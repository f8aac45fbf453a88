import Mathlib.Algebra.Order.Ring.Int
import Replex.Data.Claims
import Replex.Data.Store
import Replex.Data.Transition

namespace Replex

open Data

/-! Supervised background jobs: one at a time for each key, and not again
while the key cools down. -/

/-- In nanoseconds, as all times here. -/
def jobCooldown : Nat :=
  60 * 60 * 10 ^ 9

/-- Where a call of `try_start` is. The lock on the keys in flight is held
between `claimed` and `running`; a call that has started its job is `running`
until its key is finished. -/
inductive StartPhase where
  | entered
  /-- With the time at which the call read the cooldown; nothing reads it. -/
  | checked (readAt : Nat)
  | claimed
  | running (startedAt : Nat)
  | finished (startedAt : Nat)
  | refused
  deriving DecidableEq

structure StartCall where
  key : String
  phase : StartPhase := .entered
  deriving DecidableEq

structure JobSupervisor where
  inflight : List String := []
  locked : Bool := false
  cooldown : Store String Nat := .empty
  taskFailures : UInt64 := 0
  now : Nat := 0
  /-- Every call so far, in the order of their starts. -/
  calls : List StartCall := []

inductive JobAction where
  | tryStart (key : String)
  | resume (index : Nat)
  | finish (key : String) (success : Bool)
  | wait (elapsed : Nat)

/-- When a successful call started its job. -/
def StartCall.startedAt (call : StartCall) : Option Nat :=
  match call.phase with
  | .running startedAt | .finished startedAt => some startedAt
  | _ => none

/-- When a call that is past the cooldown read it. -/
def StartCall.readAt (call : StartCall) : Option Nat :=
  match call.phase with
  | .checked readAt => some readAt
  | _ => none

/-- The key of a job in flight. -/
def StartCall.inFlight (call : StartCall) : Option String :=
  match call.phase with
  | .claimed | .running _ => some call.key
  | _ => none

def StartCall.holdsLock (call : StartCall) : Option Unit :=
  match call.phase with
  | .claimed => some ()
  | _ => none

def StartCall.finish (key : String) (call : StartCall) : StartCall :=
  match call.phase with
  | .running startedAt =>
      if call.key = key then { call with phase := .finished startedAt }
      else call
  | _ => call

namespace JobSupervisor

def cooling (state : JobSupervisor) (key : String) : Bool :=
  (state.cooldown.lookup key).any fun since =>
    decide (state.now < since + jobCooldown)

def setPhase (state : JobSupervisor) (index : Nat) (call : StartCall)
    (phase : StartPhase) : JobSupervisor :=
  { state with calls := state.calls.set index { call with phase } }

/-- What `try_start` does next: it reads the cooldown, claims the key under the
lock, and records the start before it lets the lock go. -/
def resume (state : JobSupervisor) (index : Nat) (call : StartCall) :
    JobSupervisor :=
  match call.phase with
  | .entered =>
      if state.cooling call.key then state.setPhase index call .refused
      else state.setPhase index call (.checked state.now)
  | .checked _ =>
      if state.locked then
        state
      else if call.key ∈ state.inflight then
        state.setPhase index call .refused
      else
        { state.setPhase index call .claimed with
          inflight := call.key :: state.inflight
          locked := true }
  | .claimed =>
      { state.setPhase index call (.running state.now) with
        cooldown := state.cooldown.insert call.key state.now
        locked := false }
  | _ => state

def finish (state : JobSupervisor) (key : String) (success : Bool) :
    JobSupervisor :=
  if state.locked then
    state
  else
    { state with
      inflight := state.inflight.erase key
      taskFailures := state.taskFailures + if success then 0 else 1
      calls := state.calls.map (StartCall.finish key) }

end JobSupervisor

/-- A call that waits for the lock is resumed again later. -/
def jobStep (state : JobSupervisor) : JobAction → JobSupervisor
  | .tryStart key => { state with calls := state.calls ++ [{ key }] }
  | .resume index =>
      match state.calls[index]? with
      | none => state
      | some call => state.resume index call
  | .finish key success => state.finish key success
  | .wait elapsed => { state with now := state.now + elapsed }

def jobRun (actions : List JobAction) : JobSupervisor :=
  actions.foldl jobStep {}

/-- Two calls never have jobs of one key in flight. -/
def JobSupervisor.SingleFlight (state : JobSupervisor) : Prop :=
  ∀ (first second : Nat) (call other : StartCall) (key : String),
    state.calls[first]? = some call → state.calls[second]? = some other →
    call.inFlight = some key → other.inFlight = some key → first = second

/-- Two successful calls for one key are a cooldown apart. -/
def JobSupervisor.RateLimited (state : JobSupervisor) : Prop :=
  ∀ (first second : Nat) (call other : StartCall) (at₁ at₂ : Nat),
    first ≠ second →
    state.calls[first]? = some call → state.calls[second]? = some other →
    call.key = other.key →
    call.startedAt = some at₁ → other.startedAt = some at₂ →
    at₁ + jobCooldown ≤ at₂ ∨ at₂ + jobCooldown ≤ at₁

/-- No start of its key comes between a call's look at the cooldown and its
claim, unless a cooldown has passed since that start. -/
def ClaimsInTime (state : JobSupervisor) : JobAction → Prop
  | .resume index => ∀ call ∈ state.calls[index]?, ∀ readAt ∈ call.readAt,
      state.locked = false → call.key ∉ state.inflight →
      ∀ other ∈ state.calls, other.key = call.key →
        ∀ startedAt ∈ other.startedAt,
          startedAt < readAt ∨ startedAt + jobCooldown ≤ state.now
  | _ => True

instance (state : JobSupervisor) :
    (action : JobAction) → Decidable (ClaimsInTime state action)
  | .resume index => inferInstanceAs (Decidable
      (∀ call ∈ state.calls[index]?, ∀ readAt ∈ call.readAt,
        state.locked = false → call.key ∉ state.inflight →
        ∀ other ∈ state.calls, other.key = call.key →
          ∀ startedAt ∈ other.startedAt,
            startedAt < readAt ∨ startedAt + jobCooldown ≤ state.now))
  | .tryStart _ | .finish _ _ | .wait _ => isTrue trivial

/-! What finishing a key does to one call. -/

namespace StartCall

variable (key : String) (call : StartCall)

@[simp] theorem key_finish : (call.finish key).key = call.key := by
  unfold finish
  split
  · split <;> rfl
  · rfl

@[simp] theorem startedAt_finish :
    (call.finish key).startedAt = call.startedAt := by
  unfold finish startedAt
  cases phase : call.phase with
  | running startedAt =>
      by_cases same : call.key = key
      · simp [same]
      · simp [same, phase]
  | _ => simp [phase]

@[simp] theorem holdsLock_finish :
    (call.finish key).holdsLock = call.holdsLock := by
  unfold finish holdsLock
  cases phase : call.phase with
  | running startedAt =>
      by_cases same : call.key = key
      · simp [same]
      · simp [same, phase]
  | _ => simp [phase]

variable {key call}

theorem inFlight_finish_of_ne (other : call.inFlight ≠ some key) :
    (call.finish key).inFlight = call.inFlight := by
  unfold finish
  cases phase : call.phase with
  | running startedAt =>
      have different : call.key ≠ key := by
        simpa [inFlight, phase] using other
      simp [different]
  | _ => rfl

theorem inFlight_finish (flies : call.inFlight = some key)
    (free : call.holdsLock = none) : (call.finish key).inFlight = none := by
  unfold finish
  cases phase : call.phase with
  | running startedAt =>
      have same : call.key = key := by
        simpa [inFlight, phase] using flies
      simp [same, inFlight]
  | claimed => simp [holdsLock, phase] at free
  | _ => simp [inFlight, phase] at flies

end StartCall

/-! Claims and the lock, over every run. -/

structure JobSupervisor.Flights (state : JobSupervisor) : Prop where
  claims : Claims.Exact StartCall.inFlight state.calls state.inflight
  lock : Claims.Exact StartCall.holdsLock state.calls
    (if state.locked then [()] else [])

namespace JobSupervisor

variable {state : JobSupervisor}

theorem Flights.setPhase (flights : state.Flights) {index : Nat}
    {call : StartCall} {phase : StartPhase}
    (found : state.calls[index]? = some call)
    (flight : StartCall.inFlight { call with phase } = call.inFlight)
    (lock : StartCall.holdsLock { call with phase } = call.holdsLock) :
    (state.setPhase index call phase).Flights :=
  ⟨flights.claims.step found flight, flights.lock.step found lock⟩

theorem Flights.resume (flights : state.Flights) {index : Nat}
    {call : StartCall} (found : state.calls[index]? = some call) :
    (state.resume index call).Flights := by
  unfold JobSupervisor.resume
  cases phase : call.phase with
  | entered =>
      dsimp only
      split
      · apply flights.setPhase found <;>
          simp [StartCall.inFlight, StartCall.holdsLock, phase]
      · apply flights.setPhase found <;>
          simp [StartCall.inFlight, StartCall.holdsLock, phase]
  | checked readAt =>
      dsimp only
      by_cases locked : state.locked = true
      · rw [if_pos locked]
        exact flights
      · rw [if_neg locked]
        have open' := flights.lock
        rw [if_neg locked] at open'
        by_cases taken : call.key ∈ state.inflight
        · rw [if_pos taken]
          apply flights.setPhase found <;>
            simp [StartCall.inFlight, StartCall.holdsLock, phase]
        · rw [if_neg taken]
          refine ⟨?_, ?_⟩
          · apply flights.claims.claim found _ rfl taken
            simp [StartCall.inFlight, phase]
          · apply open'.claim found _ rfl List.not_mem_nil
            simp [StartCall.holdsLock, phase]
  | claimed =>
      have holds : call.holdsLock = some () := by
        simp [StartCall.holdsLock, phase]
      have locked : state.locked = true := by
        have member := (flights.lock.mem_iff ()).mpr
          ⟨call, List.mem_of_getElem? found, holds⟩
        by_contra open'
        rw [if_neg open'] at member
        cases member
      have lock := flights.lock
      rw [if_pos locked] at lock
      refine ⟨?_, ?_⟩
      · apply flights.claims.step found
        simp [StartCall.inFlight, phase]
      · exact lock.release found holds rfl
  | running startedAt => exact flights
  | finished startedAt => exact flights
  | refused => exact flights

theorem Flights.finish (flights : state.Flights) (key : String)
    (success : Bool) : (state.finish key success).Flights := by
  unfold JobSupervisor.finish
  by_cases locked : state.locked = true
  · rw [if_pos locked]
    exact flights
  · have lock := flights.lock
    rw [if_neg locked] at lock
    rw [if_neg locked]
    refine ⟨?_, ?_⟩
    · apply flights.claims.revoke
      · intro call listed flies
        apply StartCall.inFlight_finish flies
        cases holds : call.holdsLock with
        | none => rfl
        | some _ => cases (lock.mem_iff ()).mpr ⟨call, listed, holds⟩
      · intro call listed other
        exact StartCall.inFlight_finish_of_ne other
    · have same : StartCall.holdsLock ∘ StartCall.finish key =
          StartCall.holdsLock :=
        funext (StartCall.holdsLock_finish key)
      refine ⟨flights.lock.once, ?_⟩
      rw [List.filterMap_map, same]
      exact flights.lock.same

theorem flights_step (state : JobSupervisor) (action : JobAction)
    (flights : state.Flights) : (jobStep state action).Flights := by
  cases action with
  | tryStart key => exact ⟨flights.claims.start rfl, flights.lock.start rfl⟩
  | resume index =>
      simp only [jobStep]
      cases found : state.calls[index]? with
      | none => exact flights
      | some call => exact flights.resume found
  | finish key success => exact flights.finish key success
  | wait elapsed => exact ⟨flights.claims, flights.lock⟩

theorem Flights.singleFlight (flights : state.Flights) :
    state.SingleFlight := by
  intro first second call other key found others holds also
  exact flights.claims.unique found others holds also

/-! Starts and cooldowns, over runs in which no start comes between a call's
look at the cooldown and its claim. -/

/-- A job for the key was started at the time. -/
def Started (state : JobSupervisor) (key : String) (startedAt : Nat) : Prop :=
  ∃ call ∈ state.calls, call.key = key ∧ call.startedAt = some startedAt

end JobSupervisor

/-- What a call on its way to a start has made sure of, with the starts of its
key so far. -/
def StartCall.Sure (call : StartCall) (started : Nat → Prop) (now : Nat) :
    Prop :=
  match call.phase with
  | .checked readAt => readAt ≤ now ∧ ∀ startedAt, started startedAt →
      startedAt + jobCooldown ≤ readAt ∨ readAt ≤ startedAt
  | .claimed => ∀ startedAt, started startedAt →
      startedAt + jobCooldown ≤ now
  | _ => True

theorem StartCall.Sure.mono {call : StartCall} {started fewer : Nat → Prop}
    {now later : Nat} (sure : call.Sure started now)
    (kept : ∀ startedAt, fewer startedAt → started startedAt)
    (clock : now ≤ later) : call.Sure fewer later := by
  unfold StartCall.Sure at sure ⊢
  cases phase : call.phase with
  | checked readAt =>
      simp only [phase] at sure ⊢
      refine ⟨sure.1.trans clock, ?_⟩
      intro startedAt starts
      exact sure.2 startedAt (kept startedAt starts)
  | claimed =>
      simp only [phase] at sure ⊢
      intro startedAt starts
      exact (sure startedAt (kept startedAt starts)).trans clock
  | _ => trivial

namespace JobSupervisor

variable {state : JobSupervisor}

/-- Every start is known to its key's cooldown, the starts of a key are apart,
and the calls on their way have made sure of what they need. -/
structure Spaced (state : JobSupervisor) : Prop where
  recorded : ∀ (key : String) (startedAt : Nat),
    state.Started key startedAt →
      ∃ last, state.cooldown.lookup key = some last ∧ startedAt ≤ last
  apart : state.RateLimited
  sure : ∀ call ∈ state.calls,
    call.Sure (state.Started call.key) state.now

/-- Between the two states no job has been started. -/
def NothingStarted (state later : JobSupervisor) : Prop :=
  ∀ (index : Nat) (call : StartCall) (startedAt : Nat),
    later.calls[index]? = some call →
    call.startedAt = some startedAt →
      ∃ before : StartCall, state.calls[index]? = some before ∧
        before.key = call.key ∧ before.startedAt = some startedAt

theorem NothingStarted.started {later : JobSupervisor}
    (nothing : NothingStarted state later) {key : String} {startedAt : Nat}
    (started : later.Started key startedAt) :
    state.Started key startedAt := by
  obtain ⟨call, listed, rfl, starts⟩ := started
  obtain ⟨index, found⟩ := List.mem_iff_getElem?.mp listed
  obtain ⟨before, had, key, hadStart⟩ :=
    nothing index call startedAt found starts
  exact ⟨before, List.mem_of_getElem? had, key, hadStart⟩

theorem getElem?_set_cases {α : Type} {list : List α} {index position : Nat}
    {value found : α}
    (read : (list.set index value)[position]? = some found) :
    position = index ∧ found = value ∨
      position ≠ index ∧ list[position]? = some found := by
  by_cases same : position = index
  · subst same
    rw [List.getElem?_set_self'] at read
    obtain ⟨_, _, rfl⟩ := Option.map_eq_some_iff.mp read
    exact .inl ⟨rfl, rfl⟩
  · rw [List.getElem?_set_ne (Ne.symm same)] at read
    exact .inr ⟨same, read⟩

theorem nothingStarted_setPhase {index : Nat} {call : StartCall}
    {phase : StartPhase}
    (unstarted : StartCall.startedAt { call with phase } = none) :
    NothingStarted state (state.setPhase index call phase) := by
  intro position other startedAt found starts
  rcases getElem?_set_cases found with ⟨-, rfl⟩ | ⟨-, same⟩
  · rw [unstarted] at starts
    cases starts
  · exact ⟨other, same, rfl, starts⟩

theorem RateLimited.of_nothingStarted {later : JobSupervisor}
    (apart : state.RateLimited) (nothing : NothingStarted state later) :
    later.RateLimited := by
  intro first second call other at₁ at₂ different found others key starts also
  obtain ⟨before, had, sameKey, had₁⟩ := nothing first call at₁ found starts
  obtain ⟨prior, hadToo, sameToo, had₂⟩ :=
    nothing second other at₂ others also
  apply apart first second before prior at₁ at₂ different had hadToo _ had₁ had₂
  rw [sameKey, sameToo, key]

/-- Every call of the later state is as it was, or sure of what it needs. -/
theorem Spaced.of_nothingStarted {later : JobSupervisor}
    (spaced : state.Spaced) (nothing : NothingStarted state later)
    (cooldown : later.cooldown = state.cooldown)
    (clock : state.now ≤ later.now)
    (calls : ∀ call ∈ later.calls, call ∈ state.calls ∨
      call.Sure (state.Started call.key) state.now) :
    later.Spaced := by
  refine ⟨?_, spaced.apart.of_nothingStarted nothing, ?_⟩
  · intro key startedAt started
    rw [cooldown]
    exact spaced.recorded key startedAt (nothing.started started)
  · intro call listed
    have before : call.Sure (state.Started call.key) state.now := by
      rcases calls call listed with kept | sure
      · exact spaced.sure call kept
      · exact sure
    exact before.mono (fun _ => nothing.started) clock

/-- A call moves on without a start. -/
theorem Spaced.setPhase (spaced : state.Spaced) {index : Nat}
    {call : StartCall} {phase : StartPhase}
    (unstarted : StartCall.startedAt { call with phase } = none)
    (sure : StartCall.Sure { call with phase } (state.Started call.key)
      state.now) :
    (state.setPhase index call phase).Spaced := by
  apply spaced.of_nothingStarted (nothingStarted_setPhase unstarted) rfl
    (Nat.le_refl _)
  intro other listed
  rcases List.mem_or_eq_of_mem_set listed with kept | rfl
  · exact .inl kept
  · exact .inr sure

theorem cooling_eq_false_iff {key : String} :
    state.cooling key = false ↔
      ∀ since, state.cooldown.lookup key = some since →
        since + jobCooldown ≤ state.now := by
  unfold cooling
  cases state.cooldown.lookup key with
  | none => simp
  | some since =>
      rw [Option.any_some, decide_eq_false_iff_not, Nat.not_lt]
      constructor
      · intro cooled other same
        cases same
        exact cooled
      · intro cooled
        exact cooled since rfl

/-- Whoever finds its key cooled down has no start within a cooldown before. -/
theorem Spaced.started_early (spaced : state.Spaced) {key : String}
    (cooled : state.cooling key = false) {startedAt : Nat}
    (started : state.Started key startedAt) :
    startedAt + jobCooldown ≤ state.now := by
  obtain ⟨last, lookup, earlier⟩ := spaced.recorded key startedAt started
  have passed := cooling_eq_false_iff.mp cooled last lookup
  exact (Nat.add_le_add_right earlier _).trans passed

/-- A start is recorded a cooldown after the ones before it. -/
theorem Spaced.record (spaced : state.Spaced) (flights : state.Flights)
    {index : Nat} {call : StartCall}
    (found : state.calls[index]? = some call) (claimed : call.phase = .claimed) :
    (state.resume index call).Spaced := by
  have sure := spaced.sure call (List.mem_of_getElem? found)
  simp only [StartCall.Sure, claimed] at sure
  have early : ∀ (position : Nat) (other : StartCall) (startedAt : Nat),
      state.calls[position]? = some other → other.key = call.key →
      other.startedAt = some startedAt →
        startedAt + jobCooldown ≤ state.now := by
    intro position other startedAt had key starts
    exact sure startedAt ⟨other, List.mem_of_getElem? had, key, starts⟩
  unfold JobSupervisor.resume
  rw [claimed]
  have started : ∀ {key : String} {startedAt : Nat},
      JobSupervisor.Started { state.setPhase index call (.running state.now) with
        cooldown := state.cooldown.insert call.key state.now
        locked := false } key startedAt →
      state.Started key startedAt ∨
        key = call.key ∧ startedAt = state.now := by
    intro key startedAt now
    obtain ⟨other, listed, rfl, starts⟩ := now
    rcases List.mem_or_eq_of_mem_set listed with kept | rfl
    · exact .inl ⟨other, kept, rfl, starts⟩
    · cases starts
      exact .inr ⟨rfl, rfl⟩
  refine ⟨?_, ?_, ?_⟩
  · intro key startedAt now
    by_cases same : key = call.key
    · subst same
      refine ⟨state.now, Store.lookup_insert_self .., ?_⟩
      rcases started now with before | ⟨-, rfl⟩
      · exact Nat.le_of_add_right_le (sure startedAt before)
      · exact Nat.le_refl _
    · dsimp only
      rw [Store.lookup_insert_of_ne _ same]
      exact spaced.recorded key startedAt
        ((started now).resolve_right fun both => same both.1)
  · intro first second one other at₁ at₂ different had others key starts also
    rcases getElem?_set_cases had with ⟨rfl, rfl⟩ | ⟨-, same⟩
    · rcases getElem?_set_cases others with ⟨rfl, rfl⟩ | ⟨-, sameToo⟩
      · exact absurd rfl different
      · cases starts
        exact .inr (early second other at₂ sameToo key.symm also)
    · rcases getElem?_set_cases others with ⟨rfl, rfl⟩ | ⟨-, sameToo⟩
      · cases also
        exact .inl (early first one at₁ same key starts)
      · exact spaced.apart first second one other at₁ at₂ different same
          sameToo key starts also
  · intro other listed
    obtain ⟨position, had⟩ := List.mem_iff_getElem?.mp listed
    rcases getElem?_set_cases had with ⟨-, rfl⟩ | ⟨apart, same⟩
    · trivial
    · have known := spaced.sure other (List.mem_of_getElem? same)
      unfold StartCall.Sure at known ⊢
      cases phase : other.phase with
      | checked readAt =>
          simp only [phase] at known ⊢
          refine ⟨known.1, ?_⟩
          intro startedAt now
          rcases started now with before | ⟨-, rfl⟩
          · exact known.2 startedAt before
          · exact .inr known.1
      | claimed =>
          -- The lock is held once, so that no other call is about to start.
          have holds : call.holdsLock = some () := by
            simp [StartCall.holdsLock, claimed]
          have otherHolds : other.holdsLock = some () := by
            simp [StartCall.holdsLock, phase]
          exact absurd (flights.lock.unique same found otherHolds holds) apart
      | _ => trivial

theorem Spaced.resume (spaced : state.Spaced) (flights : state.Flights)
    {index : Nat} {call : StartCall}
    (found : state.calls[index]? = some call)
    (claims : ClaimsInTime state (.resume index)) :
    (state.resume index call).Spaced := by
  cases phase : call.phase with
  | entered =>
      unfold JobSupervisor.resume
      rw [phase]
      dsimp only
      by_cases cooling : state.cooling call.key = true
      · rw [if_pos cooling]
        exact spaced.setPhase rfl trivial
      · rw [if_neg cooling]
        apply spaced.setPhase rfl
        refine ⟨Nat.le_refl _, ?_⟩
        intro startedAt started
        exact .inl (spaced.started_early (Bool.eq_false_iff.mpr cooling)
          started)
  | checked readAt =>
      unfold JobSupervisor.resume
      rw [phase]
      dsimp only
      by_cases locked : state.locked = true
      · rw [if_pos locked]
        exact spaced
      · rw [if_neg locked]
        by_cases taken : call.key ∈ state.inflight
        · rw [if_pos taken]
          exact spaced.setPhase rfl trivial
        · rw [if_neg taken]
          have known := spaced.sure call (List.mem_of_getElem? found)
          simp only [StartCall.Sure, phase] at known
          have moved : (state.setPhase index call .claimed).Spaced := by
            apply spaced.setPhase rfl
            intro startedAt started
            obtain ⟨other, listed, key, starts⟩ := started
            have inTime := claims call found readAt
              (by simp [StartCall.readAt, phase])
              (Bool.eq_false_iff.mpr locked) taken other listed key startedAt
              starts
            rcases inTime with before | cooled
            · rcases known.2 startedAt ⟨other, listed, key, starts⟩ with
                early | late
              · exact early.trans known.1
              · exact absurd before (Nat.not_lt.mpr late)
            · exact cooled
          exact ⟨moved.recorded, moved.apart, moved.sure⟩
  | claimed => exact spaced.record flights found phase
  | running startedAt =>
      rw [JobSupervisor.resume, phase]
      exact spaced
  | finished startedAt =>
      rw [JobSupervisor.resume, phase]
      exact spaced
  | refused =>
      rw [JobSupervisor.resume, phase]
      exact spaced

theorem Spaced.finish (spaced : state.Spaced) (key : String)
    (success : Bool) : (state.finish key success).Spaced := by
  unfold JobSupervisor.finish
  by_cases locked : state.locked = true
  · rw [if_pos locked]
    exact spaced
  · rw [if_neg locked]
    refine spaced.of_nothingStarted ?_ rfl (Nat.le_refl _) ?_
    · intro index call startedAt found starts
      dsimp only at found
      rw [List.getElem?_map] at found
      obtain ⟨before, had, rfl⟩ := Option.map_eq_some_iff.mp found
      rw [StartCall.startedAt_finish] at starts
      exact ⟨before, had, (StartCall.key_finish key before).symm, starts⟩
    · intro call listed
      obtain ⟨before, had, rfl⟩ := List.mem_map.mp listed
      unfold StartCall.finish
      split
      · split
        · exact .inr trivial
        · exact .inl had
      · exact .inl had

theorem spaced_step (state : JobSupervisor) (action : JobAction)
    (holds : state.Flights ∧ state.Spaced)
    (claims : ClaimsInTime state action) :
    (jobStep state action).Flights ∧ (jobStep state action).Spaced := by
  obtain ⟨flights, spaced⟩ := holds
  refine ⟨flights_step state action flights, ?_⟩
  cases action with
  | tryStart key =>
      refine spaced.of_nothingStarted ?_ rfl (Nat.le_refl _) ?_
      · intro index call startedAt found starts
        by_cases inside : index < state.calls.length
        · refine ⟨call, ?_, rfl, starts⟩
          rwa [jobStep, List.getElem?_append_left inside] at found
        · rw [jobStep, List.getElem?_append_right (by omega)] at found
          cases List.mem_singleton.mp (List.mem_of_getElem? found)
          cases starts
      · intro call listed
        rcases List.mem_append.mp listed with earlier | latest
        · exact .inl earlier
        · cases List.mem_singleton.mp latest
          exact .inr trivial
  | resume index =>
      simp only [jobStep]
      cases found : state.calls[index]? with
      | none => exact spaced
      | some call => exact spaced.resume flights found claims
  | finish key success => exact spaced.finish key success
  | wait elapsed =>
      refine ⟨spaced.recorded, spaced.apart, ?_⟩
      intro call listed
      exact (spaced.sure call listed).mono (fun _ started => started)
        (Nat.le_add_right ..)

theorem flights_initial : ({} : JobSupervisor).Flights :=
  ⟨Claims.exact_empty, Claims.exact_empty⟩

theorem spaced_initial : ({} : JobSupervisor).Spaced := by
  refine ⟨?_, ?_, ?_⟩
  · rintro key startedAt ⟨call, listed, -⟩
    cases listed
  · intro first second call other at₁ at₂ different found
    cases found
  · intro call listed
    cases listed

end JobSupervisor

/-- Jobs of one key never run side by side; and their starts are a cooldown
apart when none comes between another call's look at the cooldown and its
claim. -/
theorem supervised_once_per_cooldown (actions taken : List JobAction)
    (reached : taken <+: actions) :
    (jobRun taken).SingleFlight ∧
      (Transition.Meets jobStep ClaimsInTime {} actions →
        (jobRun taken).RateLimited) := by
  refine ⟨?_, ?_⟩
  · have flights := Transition.invariant_of_steps JobSupervisor.flights_step
      JobSupervisor.flights_initial taken
    exact flights.singleFlight
  · intro meets
    have invariant := Transition.invariant_of_meets JobSupervisor.spaced_step
      ⟨JobSupervisor.flights_initial, JobSupervisor.spaced_initial⟩
      (Transition.meets_of_prefix meets reached)
    exact invariant.2.apart

/-- A job that is started, finished and started again an hour later. -/
def hourlyJob : List JobAction :=
  [.tryStart "notifications:jodie", .resume 0, .resume 0, .resume 0,
    .finish "notifications:jodie" true, .wait jobCooldown,
    .tryStart "notifications:jodie", .resume 1, .resume 1, .resume 1]

theorem hourly_job_supervised :
    (jobRun hourlyJob).calls.map StartCall.startedAt =
        [some 0, some jobCooldown] ∧
      (jobRun hourlyJob).SingleFlight ∧ (jobRun hourlyJob).RateLimited := by
  obtain ⟨single, limited⟩ := supervised_once_per_cooldown hourlyJob hourlyJob
    (List.prefix_refl _)
  exact ⟨by decide, single, limited (by decide)⟩

/-- The second call reads the cooldown before the first one starts, and takes
the lock after the first one's job has finished. -/
theorem two_starts_at_once :
    ¬ (jobRun [.tryStart "notifications:jodie", .tryStart "notifications:jodie",
      .resume 0, .resume 1, .resume 0, .resume 0,
      .finish "notifications:jodie" true, .resume 1, .resume 1]).RateLimited := by
  intro limited
  have apart := limited 0 1
    { key := "notifications:jodie", phase := .finished 0 }
    { key := "notifications:jodie", phase := .running 0 } 0 0
    (by decide) rfl rfl rfl rfl rfl
  revert apart
  decide

end Replex
