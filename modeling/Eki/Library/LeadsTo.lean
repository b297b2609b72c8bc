import Eki.Library.Transition

/-!
# What an endless run comes to

A condition leads to another when every state of the run that meets the first
is followed by one that meets the second.  A condition that lasts unless the
other holds, and does not last for ever, leads to it.
-/

namespace Transition.System.Execution

universe u v w

variable {State : Type u} {Label : Type v} {system : System State Label}

def LeadsTo (execution : system.Execution) (before after : State → Prop) :
    Prop :=
  ∀ n, before (execution.state n) →
    ∃ later, n ≤ later ∧ after (execution.state later)

variable {execution : system.Execution}
  {first second third : State → Prop}

theorem LeadsTo.of_imp (implies : ∀ n, first (execution.state n) →
    second (execution.state n)) : execution.LeadsTo first second := by
  intro n holds
  exact ⟨n, Nat.le_refl n, implies n holds⟩

theorem LeadsTo.trans (front : execution.LeadsTo first second)
    (back : execution.LeadsTo second third) :
    execution.LeadsTo first third := by
  intro n holds
  obtain ⟨middle, after, reached⟩ := front n holds
  obtain ⟨last, later, ended⟩ := back middle reached
  exact ⟨last, Nat.le_trans after later, ended⟩

theorem LeadsTo.or (left : execution.LeadsTo first third)
    (right : execution.LeadsTo second third) :
    execution.LeadsTo (fun state => first state ∨ second state) third := by
  intro n holds
  cases holds with
  | inl holds => exact left n holds
  | inr holds => exact right n holds

theorem LeadsTo.exists {ι : Sort w} {family : ι → State → Prop}
    (each : ∀ index, execution.LeadsTo (family index) third) :
    execution.LeadsTo (fun state => ∃ index, family index state) third := by
  rintro n ⟨index, holds⟩
  exact each index n holds

/-- A condition that every step keeps or exchanges for another, and that does
not last, is exchanged for it. -/
theorem LeadsTo.of_unless
    (keeps : ∀ n, first (execution.state n) →
      first (execution.state (n + 1)) ∨ second (execution.state (n + 1)))
    (ends : ∀ n, first (execution.state n) →
      ∃ later, n ≤ later ∧ ¬ first (execution.state later)) :
    execution.LeadsTo first second := by
  intro n holds
  obtain ⟨later, after, left⟩ := ends n holds
  obtain ⟨distance, rfl⟩ := Nat.exists_eq_add_of_le after
  clear after
  induction distance generalizing n with
  | zero => exact absurd holds left
  | succ distance induction =>
    rcases keeps n holds with still | exchanged
    · have shifted : n + 1 + distance = n + (distance + 1) := by
        rw [Nat.add_assoc, Nat.add_comm 1]
      obtain ⟨last, beyond, ended⟩ := induction (n + 1) still (by
        rw [shifted]
        exact left)
      exact ⟨last, Nat.le_trans (Nat.le_succ n) beyond, ended⟩
    · exact ⟨n + 1, Nat.le_succ n, exchanged⟩

end Transition.System.Execution
