import Mathlib.Data.List.Basic

namespace Replex.Data

/-! Loops that may fail, run for a bounded number of rounds. -/

inductive Round (σ β : Type) where
  | again (state : σ)
  | done (result : β)

namespace Loops

variable {σ β ε : Type}

/-- Nothing comes of a loop that is not done when the rounds are used up. -/
def run (body : σ → Except ε (Round σ β)) : Nat → σ → Option (Except ε β)
  | 0, _ => none
  | rounds + 1, state =>
      match body state with
      | .error error => some (.error error)
      | .ok (.done result) => some (.ok result)
      | .ok (.again state) => run body rounds state

/-- The loop is done after some number of rounds, and does not fail on the
way. -/
def Returns (body : σ → Except ε (Round σ β)) (state : σ) (result : β) :
    Prop :=
  ∃ enough, ∀ rounds, enough ≤ rounds →
    run body rounds state = some (.ok result)

variable {body : σ → Except ε (Round σ β)} {state next : σ} {result : β}

theorem returns_of_done (done : body state = .ok (.done result)) :
    Returns body state result := by
  refine ⟨1, ?_⟩
  intro rounds enough
  obtain ⟨rounds, rfl⟩ := Nat.exists_eq_add_of_le' enough
  simp only [run, done]

theorem returns_of_again (again : body state = .ok (.again next))
    (returns : Returns body next result) : Returns body state result := by
  obtain ⟨later, returns⟩ := returns
  refine ⟨later + 1, ?_⟩
  intro rounds enough
  obtain ⟨rounds, rfl⟩ := Nat.exists_eq_add_of_le' enough
  simp only [run, again]
  exact returns _ (Nat.le_add_left later rounds)

end Loops

end Replex.Data
