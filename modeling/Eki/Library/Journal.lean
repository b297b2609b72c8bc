import Mathlib.Data.List.Basic

/-!
# Journals

A journal is a log of events, newest first, and a machine that says which state
a log leads to and which event a state permits.  In a lawful log every event
was permitted by the state before it.
-/

namespace Journal

universe u v

structure Machine (State : Type u) (Event : Type v) where
  first : State
  apply : Event → State → State
  permits : Event → State → Prop

variable {State : Type u} {Event : Type v}

namespace Machine

variable (machine : Machine State Event)

/-- The state that a log leads to. -/
def after : List Event → State
  | [] => machine.first
  | event :: earlier => machine.apply event (after earlier)

/-- Every event was permitted by the state before it. -/
def Lawful : List Event → Prop
  | [] => True
  | event :: earlier =>
    machine.permits event (machine.after earlier) ∧ Lawful earlier

/-- The event is always permitted and changes nothing. -/
structure Quiet (event : Event) : Prop where
  apply : ∀ state, machine.apply event state = state
  permits : ∀ state, machine.permits event state

variable {machine}

section

variable {later earlier : List Event}
  (quiet : ∀ event ∈ later, machine.Quiet event)

include quiet

theorem after_of_quiet :
    machine.after (later ++ earlier) = machine.after earlier := by
  induction later with
  | nil => rfl
  | cons event later induction =>
    have first := quiet event List.mem_cons_self
    have rest : ∀ event ∈ later, machine.Quiet event :=
      fun event member => quiet event (List.mem_cons_of_mem _ member)
    rw [List.cons_append, after, first.apply, induction rest]

theorem lawful_of_quiet (lawful : machine.Lawful earlier) :
    machine.Lawful (later ++ earlier) := by
  induction later with
  | nil => exact lawful
  | cons event later induction =>
    have first := quiet event List.mem_cons_self
    have rest : ∀ event ∈ later, machine.Quiet event :=
      fun event member => quiet event (List.mem_cons_of_mem _ member)
    exact ⟨first.permits _, induction rest⟩

end

namespace Lawful

theorem earlier {later before : List Event}
    (lawful : machine.Lawful (later ++ before)) : machine.Lawful before := by
  induction later with
  | nil => exact lawful
  | cons event later induction => exact induction lawful.2

theorem holds_after (holds : State → Prop) {later before : List Event}
    (lawful : machine.Lawful (later ++ before))
    (start : holds (machine.after before))
    (stays : ∀ event ∈ later, ∀ state, machine.permits event state →
      holds state → holds (machine.apply event state)) :
    holds (machine.after (later ++ before)) := by
  induction later with
  | nil => exact start
  | cons event later induction =>
    have rest : ∀ event ∈ later, ∀ state, machine.permits event state →
        holds state → holds (machine.apply event state) :=
      fun event member => stays event (List.mem_cons_of_mem _ member)
    exact stays event List.mem_cons_self _ lawful.1
      (induction lawful.2 rest)

theorem not_mem (barred : State → Prop) {later before : List Event}
    {event : Event} (lawful : machine.Lawful (later ++ before))
    (start : barred (machine.after before))
    (stays : ∀ event ∈ later, ∀ state, machine.permits event state →
      barred state → barred (machine.apply event state))
    (bars : ∀ state, barred state → ¬ machine.permits event state) :
    event ∉ later := by
  intro member
  obtain ⟨newer, between, rfl⟩ := List.append_of_mem member
  rw [List.append_assoc] at lawful
  have atEvent := lawful.earlier
  have holds : barred (machine.after (between ++ before)) := by
    apply atEvent.2.holds_after barred start
    intro other among
    apply stays other
    exact List.mem_append_right _ (List.mem_cons_of_mem _ among)
  exact bars _ holds atEvent.1

theorem countP_le_one (closed : State → Prop) {kind : Event → Bool}
    {log : List Event} (lawful : machine.Lawful log)
    (closes : ∀ event state, kind event = true →
      closed (machine.apply event state))
    (stays : ∀ event state, machine.permits event state → closed state →
      closed (machine.apply event state))
    (bars : ∀ event state, kind event = true → closed state →
      ¬ machine.permits event state) :
    log.countP kind ≤ 1 := by
  have both : log.countP kind ≤ 1 ∧
      (log.countP kind ≠ 0 → closed (machine.after log)) := by
    induction log with
    | nil => simp
    | cons event earlier induction =>
      obtain ⟨atMost, closedAfter⟩ := induction lawful.2
      by_cases member : kind event = true
      · have unseen : earlier.countP kind = 0 := by
          by_contra seen
          exact bars event _ member (closedAfter seen) lawful.1
        simp only [List.countP_cons_of_pos member, unseen]
        exact ⟨Nat.le_refl _, fun _ => closes event _ member⟩
      · simp only [List.countP_cons_of_neg member]
        exact ⟨atMost, fun seen =>
          stays event _ lawful.1 (closedAfter seen)⟩
  exact both.1

end Lawful

end Machine

end Journal
