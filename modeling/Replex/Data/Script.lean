import Mathlib.Data.List.Infix

namespace Replex.Data

/-! Programs that ask somebody outside one question after the other, and go on
with the answers. -/

inductive Script (ρ ε α : Type) where
  | done (result : α)
  | ask (question : ρ) (next : ε → Script ρ ε α)

namespace Script

variable {ρ ε α : Type}

/-- The exchanges lead from one script to what remains of it. -/
inductive Leads : Script ρ ε α → List (ρ × ε) → Script ρ ε α → Prop where
  | start (script : Script ρ ε α) : Leads script [] script
  | ask {question : ρ} {next : ε → Script ρ ε α} {answer : ε}
      {exchanges : List (ρ × ε)} {rest : Script ρ ε α}
      (leads : Leads (next answer) exchanges rest) :
      Leads (ask question next) ((question, answer) :: exchanges) rest

theorem Leads.snoc {script : Script ρ ε α} {exchanges : List (ρ × ε)}
    {question : ρ} {next : ε → Script ρ ε α}
    (leads : script.Leads exchanges (.ask question next)) (answer : ε) :
    script.Leads (exchanges ++ [(question, answer)]) (next answer) := by
  generalize reached : Script.ask question next = rest at leads
  induction leads with
  | start script =>
      subst reached
      exact .ask (.start _)
  | ask leads hypothesis => exact .ask (hypothesis reached)

theorem Leads.of_done {result : α} {exchanges : List (ρ × ε)}
    {rest : Script ρ ε α} (leads : (Script.done result).Leads exchanges rest) :
    exchanges = [] ∧ rest = .done result := by
  cases leads
  exact ⟨rfl, rfl⟩

/-- Either nothing has been asked, or the first question has been answered. -/
theorem Leads.of_ask {question : ρ} {next : ε → Script ρ ε α}
    {exchanges : List (ρ × ε)} {rest : Script ρ ε α}
    (leads : (Script.ask question next).Leads exchanges rest) :
    exchanges = [] ∧ rest = .ask question next ∨
      ∃ answer later, exchanges = (question, answer) :: later ∧
        (next answer).Leads later rest := by
  cases leads with
  | start => exact .inl ⟨rfl, rfl⟩
  | ask leads => exact .inr ⟨_, _, rfl, leads⟩

/-- Nobody is asked more often. -/
inductive Within : Nat → Script ρ ε α → Prop where
  | done (bound : Nat) (result : α) : Within bound (done result)
  | ask {bound : Nat} {question : ρ} {next : ε → Script ρ ε α}
      (each : ∀ answer, Within bound (next answer)) :
      Within (bound + 1) (ask question next)

theorem Within.mono {script : Script ρ ε α} {bound more : Nat}
    (within : script.Within bound) (bounded : bound ≤ more) :
    script.Within more := by
  induction within generalizing more with
  | done bound result => exact .done more result
  | @ask bound question next each hypothesis =>
      obtain ⟨extra, rfl⟩ := Nat.exists_eq_add_of_le bounded
      rw [Nat.add_right_comm]
      exact .ask fun answer => hypothesis answer (Nat.le_add_right bound extra)

theorem Within.of_leads {script rest : Script ρ ε α} {bound : Nat}
    {exchanges : List (ρ × ε)} (within : script.Within bound)
    (leads : script.Leads exchanges rest) : rest.Within bound := by
  induction leads generalizing bound with
  | start script => exact within
  | @ask question next answer exchanges rest leads hypothesis =>
      cases within with
      | ask each => exact (hypothesis (each answer)).mono (Nat.le_succ _)

/-- The script asks only what is warranted after the exchanges so far, and ends
as it should. -/
inductive Obeys (warrants : List (ρ × ε) → ρ → Prop)
    (ends : List (ρ × ε) → α → Prop) :
    List (ρ × ε) → Script ρ ε α → Prop where
  | done {seen : List (ρ × ε)} {result : α} (ended : ends seen result) :
      Obeys warrants ends seen (done result)
  | ask {seen : List (ρ × ε)} {question : ρ} {next : ε → Script ρ ε α}
      (warranted : warrants seen question)
      (each : ∀ answer,
        Obeys warrants ends (seen ++ [(question, answer)]) (next answer)) :
      Obeys warrants ends seen (ask question next)

section

variable {warrants : List (ρ × ε) → ρ → Prop}
  {ends : List (ρ × ε) → α → Prop} {seen exchanges : List (ρ × ε)}
  {script rest : Script ρ ε α}

theorem Obeys.of_leads (obeys : script.Obeys warrants ends seen)
    (leads : script.Leads exchanges rest) :
    rest.Obeys warrants ends (seen ++ exchanges) := by
  induction leads generalizing seen with
  | start script => simpa using obeys
  | @ask question next answer exchanges rest leads hypothesis =>
      cases obeys with
      | ask warranted each =>
          rw [List.append_cons]
          exact hypothesis (each answer)

/-- Each question that has been asked was warranted when it was asked. -/
theorem Obeys.warranted (obeys : script.Obeys warrants ends seen)
    (leads : script.Leads exchanges rest) {before after : List (ρ × ε)}
    {exchange : ρ × ε} (split : exchanges = before ++ exchange :: after) :
    warrants (seen ++ before) exchange.1 := by
  induction leads generalizing seen before with
  | start script => simp at split
  | @ask question next answer exchanges rest leads hypothesis =>
      cases obeys with
      | ask warranted each =>
          cases before with
          | nil =>
              obtain ⟨rfl, -⟩ := List.cons.inj split
              simpa using warranted
          | cons earlier before =>
              obtain ⟨rfl, later⟩ := List.cons.inj split
              rw [List.append_cons]
              exact hypothesis (each answer) later

end

end Script

end Replex.Data
