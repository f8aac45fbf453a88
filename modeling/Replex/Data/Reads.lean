import Mathlib.Data.List.Infix
import Replex.Data.Transition

namespace Replex.Data

/-! Programs that read a shared value as they go, and runs in which the value
may be replaced between two reads. -/

inductive Reads (σ α : Type) where
  | done (answer : α)
  | read (next : σ → Reads σ α)

namespace Reads

variable {σ α β : Type}

def bind : Reads σ α → (α → Reads σ β) → Reads σ β
  | done answer, rest => rest answer
  | read next, rest => read fun value => (next value).bind rest

instance : Monad (Reads σ) where
  pure := done
  bind := bind

/-- The value as it is now. -/
def current : Reads σ σ :=
  read done

/-- The answer when every read finds this value. -/
def under (value : σ) : Reads σ α → α
  | done answer => answer
  | read next => (next value).under value

@[simp] theorem under_pure (value : σ) (answer : α) :
    (pure answer : Reads σ α).under value = answer :=
  rfl

@[simp] theorem under_current (value : σ) :
    (current : Reads σ σ).under value = value :=
  rfl

@[simp] theorem under_bind (value : σ) (program : Reads σ α)
    (rest : α → Reads σ β) :
    (program >>= rest).under value =
      (rest (program.under value)).under value := by
  induction program with
  | done answer => rfl
  | read next hypothesis => exact hypothesis value

/-- Later values that are alike lead the program on as this one does. -/
def Steady (alike : σ → Prop) (value : σ) : Reads σ α → Prop
  | done _ => True
  | read next =>
      (∀ later, alike later → next later = next value) ∧
        (next value).Steady alike value

variable {alike : σ → Prop} {value : σ}

theorem steady_pure (answer : α) :
    (pure answer : Reads σ α).Steady alike value :=
  trivial

theorem Steady.bind {program : Reads σ α} {rest : α → Reads σ β}
    (first : program.Steady alike value)
    (second : (rest (program.under value)).Steady alike value) :
    (program >>= rest).Steady alike value := by
  induction program with
  | done answer => exact second
  | read next hypothesis =>
      refine ⟨?_, hypothesis value first.2 second⟩
      intro later same
      exact congrArg (fun program => program >>= rest) (first.1 later same)

theorem Steady.andThen {program : Reads σ α} {rest : α → Reads σ β}
    (first : program.Steady alike value)
    (each : ∀ answer, (rest answer).Steady alike value) :
    (program >>= rest).Steady alike value :=
  first.bind (each _)

/-- One read of which only a view matters. -/
theorem steady_view {view : σ → Reads σ α}
    (same : ∀ later, alike later → view later = view value)
    (rest : (view value).Steady alike value) :
    (current >>= view).Steady alike value :=
  ⟨same, rest⟩

end Reads

/-! Several programs side by side over one value. -/

/-- A request under way, with the value its first read found. -/
structure Job (ι σ α : Type) where
  request : ι
  first : Option σ := none
  rest : Reads σ α

structure Answered (ι σ α : Type) where
  request : ι
  first : Option σ
  answer : α

structure Shared (ι σ α : Type) where
  current : σ
  jobs : List (Job ι σ α) := []
  answered : List (Answered ι σ α) := []

inductive SharedAction (ι σ : Type) where
  | update (change : σ → σ)
  | start (request : ι)
  | step (index : Nat)

namespace Shared

variable {ι σ α τ : Type}

section

variable (program : ι → Reads σ α) (fixed : σ → τ)

/-- An update that would change what has to stay fixed is refused. -/
def step [DecidableEq τ] (state : Shared ι σ α) : SharedAction ι σ → Shared ι σ α
  | .update change =>
      if fixed (change state.current) = fixed state.current then
        { state with current := change state.current }
      else
        state
  | .start request =>
      { state with
        jobs := state.jobs ++ [{ request, rest := program request }] }
  | .step index =>
      match state.jobs[index]? with
      | none => state
      | some job =>
          match job.rest with
          | .done answer =>
              { state with
                jobs := state.jobs.eraseIdx index
                answered := state.answered ++
                  [{ request := job.request, first := job.first, answer }] }
          | .read next =>
              { state with
                jobs := state.jobs.set index
                  { job with
                    first := job.first.or (some state.current)
                    rest := next state.current } }

/-- Every read after a request's first finds a value that is alike. -/
def AlikeReads (alike : ι → σ → σ → Prop) (state : Shared ι σ α) :
    SharedAction ι σ → Prop
  | .step index => ∀ job next first, state.jobs[index]? = some job →
      job.rest = .read next → job.first = some first →
      alike job.request first state.current
  | _ => True

/-- Each program starts with a read, and goes on steadily from there. -/
def SteadyFromFirst (alike : ι → σ → σ → Prop) : Prop :=
  ∀ request, ∃ next, program request = .read next ∧ ∀ first,
    (next first).Steady
      (fun later => fixed later = fixed first ∧ alike request first later) first

/-- So far the job has done what it does under the value it read first. -/
structure OnCourse (alike : ι → σ → σ → Prop) (current : σ)
    (job : Job ι σ α) : Prop where
  unread : job.first = none → job.rest = program job.request
  kept : ∀ first, job.first = some first → fixed current = fixed first
  under : ∀ first, job.first = some first →
    job.rest.under first = (program job.request).under first
  steady : ∀ first, job.first = some first →
    job.rest.Steady
      (fun later => fixed later = fixed first ∧ alike job.request first later)
      first

structure Consistent (alike : ι → σ → σ → Prop) (state : Shared ι σ α) :
    Prop where
  jobs : ∀ job ∈ state.jobs, OnCourse program fixed alike state.current job
  answered : ∀ answered ∈ state.answered, ∃ first,
    answered.first = some first ∧
      answered.answer = (program answered.request).under first

end

variable {program : ι → Reads σ α} {fixed : σ → τ} {alike : ι → σ → σ → Prop}
  {state : Shared ι σ α}

theorem OnCourse.read (steady : SteadyFromFirst program fixed alike)
    {current : σ} {job : Job ι σ α} {next : σ → Reads σ α}
    (course : OnCourse program fixed alike current job)
    (reads : job.rest = .read next)
    (same : ∀ first, job.first = some first →
      alike job.request first current) :
    OnCourse program fixed alike current
      { job with
        first := job.first.or (some current)
        rest := next current } := by
  cases read : job.first with
  | none =>
      obtain ⟨start, begins, goes⟩ := steady job.request
      have starts : next = start := by
        have whole := course.unread read
        rw [reads, begins] at whole
        exact Reads.read.inj whole
      subst starts
      refine ⟨by simp, ?_, ?_, ?_⟩
      · intro first found
        cases found
        rfl
      · intro first found
        cases found
        rw [begins]
        rfl
      · intro first found
        cases found
        exact goes current
  | some first =>
      have steady := course.steady first read
      rw [reads] at steady
      have way : next current = next first :=
        steady.1 current ⟨course.kept first read, same first read⟩
      have under := course.under first read
      rw [reads] at under
      refine ⟨by simp, ?_, ?_, ?_⟩
      · intro other found
        cases found
        exact course.kept first read
      · intro other found
        cases found
        rw [way]
        exact under
      · intro other found
        cases found
        rw [way]
        exact steady.2

theorem OnCourse.update {current later : σ} {job : Job ι σ α}
    (course : OnCourse program fixed alike current job)
    (kept : fixed later = fixed current) :
    OnCourse program fixed alike later job :=
  ⟨course.unread, fun first found => kept.trans (course.kept first found),
    course.under, course.steady⟩

variable [DecidableEq τ]

theorem consistent_step (steady : SteadyFromFirst program fixed alike)
    (state : Shared ι σ α) (action : SharedAction ι σ)
    (holds : state.Consistent program fixed alike)
    (same : AlikeReads alike state action) :
    (step program fixed state action).Consistent program fixed alike := by
  cases action with
  | update change =>
      simp only [step]
      split
      next kept =>
          exact ⟨fun job listed => (holds.jobs job listed).update kept,
            holds.answered⟩
      · exact holds
  | start request =>
      refine ⟨?_, holds.answered⟩
      intro job listed
      rcases List.mem_append.mp listed with earlier | latest
      · exact holds.jobs job earlier
      · cases List.mem_singleton.mp latest
        exact ⟨fun _ => rfl, nofun, nofun, nofun⟩
  | step index =>
      simp only [step]
      split
      · exact holds
      next job found =>
          have course := holds.jobs job (List.mem_of_getElem? found)
          split
          next answer finished =>
              refine ⟨?_, ?_⟩
              · intro other listed
                exact holds.jobs other (List.mem_of_mem_eraseIdx listed)
              · intro answered listed
                rcases List.mem_append.mp listed with earlier | latest
                · exact holds.answered answered earlier
                · cases List.mem_singleton.mp latest
                  cases read : job.first with
                  | none =>
                      -- A program that starts with a read has not answered.
                      obtain ⟨next, begins, -⟩ := steady job.request
                      have whole := course.unread read
                      rw [finished, begins] at whole
                      cases whole
                  | some first =>
                      refine ⟨first, rfl, ?_⟩
                      have under := course.under first read
                      rw [finished] at under
                      exact under
          next next reads =>
              refine ⟨?_, holds.answered⟩
              intro other listed
              rcases List.mem_or_eq_of_mem_set listed with earlier | latest
              · exact holds.jobs other earlier
              · rw [latest]
                apply course.read steady reads
                intro first read
                exact same job next first found reads read

/-- In every state that a run passes through, each answer is the one under the
value that its request read first. -/
theorem answered_under_first (steady : SteadyFromFirst program fixed alike)
    {actions taken : List (SharedAction ι σ)} {start : σ}
    (same : Transition.Meets (step program fixed) (AlikeReads alike)
      { current := start } actions)
    (reached : taken <+: actions) :
    ∀ answered ∈ (taken.foldl (step program fixed)
        { current := start }).answered,
      ∃ first, answered.first = some first ∧
        answered.answer = (program answered.request).under first := by
  have initial : Consistent program fixed alike
      { current := start } := ⟨by simp, by simp⟩
  have consistent := Transition.invariant_of_meets (consistent_step steady)
    initial (Transition.meets_of_prefix same reached)
  exact consistent.answered

end Shared

end Replex.Data
