import Mathlib.Data.List.Induction
import Mathlib.Data.List.Infix

namespace Replex.Data.Transition

/-! Runs of a deterministic transition function over a list of actions. -/

variable {σ α : Type}

/-- Every step of a run meets a condition on its action and on the state the
step starts from. -/
def Meets (step : σ → α → σ) (condition : σ → α → Prop) :
    σ → List α → Prop
  | _, [] => True
  | state, action :: actions =>
      condition state action ∧ Meets step condition (step state action) actions

instance instDecidableMeets (step : σ → α → σ) (condition : σ → α → Prop)
    [∀ state action, Decidable (condition state action)] (state : σ)
    (actions : List α) : Decidable (Meets step condition state actions) :=
  match actions with
  | [] => isTrue trivial
  | action :: actions =>
      have := instDecidableMeets step condition (step state action) actions
      inferInstanceAs (Decidable (_ ∧ _))

/-- What every step that meets the condition preserves holds at the end of
each run of such steps. -/
theorem invariant_of_meets {step : σ → α → σ} {condition : σ → α → Prop}
    {invariant : σ → Prop}
    (preserved : ∀ state action, invariant state → condition state action →
      invariant (step state action))
    {actions : List α} {state : σ} (initial : invariant state)
    (meets : Meets step condition state actions) :
    invariant (actions.foldl step state) := by
  induction actions generalizing state with
  | nil => exact initial
  | cons action actions hypothesis =>
      obtain ⟨holds, rest⟩ := meets
      rw [List.foldl_cons]
      apply hypothesis
      · exact preserved state action initial holds
      · exact rest

theorem meets_of_forall (step : σ → α → σ) {condition : α → Prop}
    {actions : List α} (holds : ∀ action ∈ actions, condition action)
    (state : σ) : Meets step (fun _ action => condition action) state actions := by
  induction actions generalizing state with
  | nil => trivial
  | cons action actions hypothesis =>
      refine ⟨holds action List.mem_cons_self, hypothesis ?_ _⟩
      intro later member
      exact holds later (List.mem_cons_of_mem action member)

theorem meets_of_prefix {step : σ → α → σ} {condition : σ → α → Prop}
    {taken actions : List α} {state : σ}
    (meets : Meets step condition state actions) (reached : taken <+: actions) :
    Meets step condition state taken := by
  induction taken generalizing state actions with
  | nil => trivial
  | cons action taken hypothesis =>
      obtain ⟨rest, rfl⟩ := reached
      exact ⟨meets.1, hypothesis meets.2 (List.prefix_append taken rest)⟩

theorem invariant_of_steps {step : σ → α → σ} {invariant : σ → Prop}
    (preserved : ∀ state action, invariant state →
      invariant (step state action))
    {state : σ} (initial : invariant state) (actions : List α) :
    invariant (actions.foldl step state) := by
  induction actions generalizing state with
  | nil => exact initial
  | cons action actions hypothesis =>
      rw [List.foldl_cons]
      apply hypothesis
      exact preserved state action initial

/-- Induction on a run from its end, for invariants that speak of the actions
so far. -/
theorem invariant_of_prefixes {step : σ → α → σ} {state : σ}
    {invariant : List α → σ → Prop} (initial : invariant [] state)
    (preserved : ∀ taken action, invariant taken (taken.foldl step state) →
      invariant (taken ++ [action]) (step (taken.foldl step state) action))
    (actions : List α) : invariant actions (actions.foldl step state) := by
  induction actions using List.reverseRecOn with
  | nil => exact initial
  | append_singleton taken action hypothesis =>
      rw [List.foldl_concat]
      exact preserved taken action hypothesis

end Replex.Data.Transition
