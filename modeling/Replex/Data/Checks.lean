import Mathlib.Data.List.Basic

namespace Replex.Data

/-! Validators that stop at the first check that fails. -/

variable {ε α : Type}

/-- The check passes exactly where the condition holds, and what it reports is
true. -/
structure Checks (check : Except ε Unit) (holds : Prop) (reports : ε → Prop) :
    Prop where
  accepts : check = .ok () ↔ holds
  reported : ∀ error, check = .error error → reports error

namespace Checks

variable {first second : Except ε Unit} {left right : Prop}
  {reports : ε → Prop}

theorem of_iff (checks : Checks first left reports) (same : left ↔ right) :
    Checks first right reports :=
  ⟨checks.accepts.trans same, checks.reported⟩

/-- The second check may rely on the first. -/
theorem both (checks : Checks first left reports)
    (also : left → Checks second right reports) :
    Checks (first >>= fun _ => second) (left ∧ right) reports := by
  cases passed : first with
  | error error =>
      have fails : ¬ left := by
        rw [← checks.accepts, passed]
        exact nofun
      refine ⟨⟨nofun, fun holds => absurd holds.1 fails⟩, ?_⟩
      rintro _ ⟨⟩
      exact checks.reported error passed
  | ok done =>
      have holds : left := checks.accepts.mp passed
      exact (also holds).of_iff (by simp [holds])

theorem unless_fails {condition : Prop} [Decidable condition] {error : ε}
    (told : condition → reports error) :
    Checks (if condition then .error error else .ok ()) (¬ condition)
      reports := by
  by_cases fails : condition
  · rw [if_pos fails]
    refine ⟨⟨nofun, fun holds => absurd fails holds⟩, ?_⟩
    rintro _ ⟨⟩
    exact told fails
  · rw [if_neg fails]
    exact ⟨⟨fun _ => fails, fun _ => rfl⟩, nofun⟩

variable {check : α → Except ε Unit} {condition : α → Prop}

theorem each {values : List α}
    (checks : ∀ value ∈ values, Checks (check value) (condition value) reports) :
    Checks (forM values check) (∀ value ∈ values, condition value) reports := by
  induction values with
  | nil => exact ⟨⟨fun _ => nofun, fun _ => rfl⟩, nofun⟩
  | cons value values hypothesis =>
      have rest := hypothesis fun other listed =>
        checks other (List.mem_cons_of_mem value listed)
      rw [List.forM_cons]
      exact ((checks value List.mem_cons_self).both fun _ => rest).of_iff
        List.forall_mem_cons.symm

end Checks

end Replex.Data
