import Mathlib.Logic.Function.Basic

/-!
# Runs of a labelled transition system

A system takes one labelled step at a time, or refuses it.  A run may be
restricted to steps that meet a condition on the state before them; what one
such step preserves, every such run preserves.
-/

namespace Transition

universe u v

variable {State : Type u} {Label : Type v}

/-- A step either leads to one state or is refused. -/
abbrev System (State : Type u) (Label : Type v) :=
  State → Label → Option State

namespace System

/-- Take the labels one after another; a step that is refused or fails the
check refuses the run. -/
def run (system : System State Label) (check : State → Label → Bool) :
    State → List Label → Option State
  | state, [] => some state
  | state, label :: rest =>
    if check state label then
      match system state label with
      | none => none
      | some next => run system check next rest
    else none

theorem run_append (system : System State Label)
    (check : State → Label → Bool) (front back : List Label)
    (state : State) :
    system.run check state (front ++ back) =
      (system.run check state front).bind fun middle =>
        system.run check middle back := by
  induction front generalizing state with
  | nil => rfl
  | cons label rest induction =>
    simp only [List.cons_append, run]
    split
    · split
      · rfl
      · exact induction _
    · rfl

inductive Steps (system : System State Label)
    (allowed : State → Label → Prop) : State → State → Prop where
  | refl (state : State) : Steps system allowed state state
  | step {first middle last : State} {label : Label}
      (before : Steps system allowed first middle)
      (meets : allowed middle label)
      (taken : system middle label = some last) :
      Steps system allowed first last

variable {system : System State Label} {allowed : State → Label → Prop}

namespace Steps

variable {first last : State}

theorem single {label : Label} (meets : allowed first label)
    (taken : system first label = some last) :
    Steps system allowed first last :=
  .step (.refl first) meets taken

theorem trans {middle : State} (front : Steps system allowed first middle)
    (back : Steps system allowed middle last) :
    Steps system allowed first last := by
  induction back with
  | refl => exact front
  | step _ meets taken induction => exact .step induction meets taken

theorem mono {wider : State → Label → Prop}
    (weaker : ∀ state label, allowed state label → wider state label)
    (steps : Steps system allowed first last) :
    Steps system wider first last := by
  induction steps with
  | refl => exact .refl _
  | step _ meets taken induction =>
    exact .step induction (weaker _ _ meets) taken

theorem invariant {holds : State → Prop} {first last : State}
    (steps : Steps system allowed first last) (start : holds first)
    (preserved : ∀ state label next, holds state → allowed state label →
      system state label = some next → holds next) :
    holds last := by
  induction steps with
  | refl => exact start
  | step _ meets taken induction =>
    exact preserved _ _ _ induction meets taken

variable {holds : State → Prop}

/-- Where every step needs a condition on the state before it, a run to a
state that meets it began in one. -/
theorem first_of_last
    (steps : Steps system (fun state _ => holds state) first last)
    (ends : holds last) : holds first := by
  induction steps with
  | refl => exact ends
  | step _ meets _ induction => exact induction meets

theorem related {rel : State → State → Prop}
    (steps : Steps system allowed first last) (start : holds first)
    (preserved : ∀ state label next, holds state → allowed state label →
      system state label = some next → holds next)
    (refl : ∀ state, rel state state)
    (trans : ∀ first second third, rel first second → rel second third →
      rel first third)
    (respected : ∀ state label next, holds state → allowed state label →
      system state label = some next → rel state next) : rel first last := by
  have both : holds last ∧ rel first last := by
    induction steps with
    | refl => exact ⟨start, refl _⟩
    | step _ meets taken induction =>
      exact ⟨preserved _ _ _ induction.1 meets taken,
        trans _ _ _ induction.2 (respected _ _ _ induction.1 meets taken)⟩
  exact both.2

end Steps

variable {check : State → Label → Bool} {labels : List Label}

variable {first last : State}

theorem steps_of_run (executed : system.run check first labels = some last)
    (passes : ∀ state label, check state label = true →
      allowed state label) : Steps system allowed first last := by
  induction labels generalizing first with
  | nil =>
    cases executed
    exact .refl _
  | cons label rest induction =>
    unfold run at executed
    split at executed
    · rename_i checked
      split at executed
      · cases executed
      · rename_i next taken
        exact (Steps.single (passes _ _ checked) taken).trans
          (induction executed)
    · cases executed

theorem exists_of_run {holds : State → Bool}
    (decided : (system.run check first labels).any holds = true) :
    ∃ last,
      Steps system (fun state label => check state label = true) first last ∧
      holds last = true := by
  obtain ⟨last, executed, holding⟩ := (Option.any_eq_true _ _).mp decided
  exact ⟨last, steps_of_run executed fun _ _ => id, holding⟩

/-- An endless sequence of steps; without a label the state stays. -/
structure Execution (system : System State Label) where
  state : Nat → State
  label : Nat → Option Label
  follows : ∀ n,
    (label n).elim (some (state n)) (system (state n)) = some (state (n + 1))

namespace Execution

theorem invariant {holds : State → Prop} (execution : system.Execution)
    (start : holds (execution.state 0))
    (preserved : ∀ state label next, holds state →
      system state label = some next → holds next) (n : Nat) :
    holds (execution.state n) := by
  induction n with
  | zero => exact start
  | succ n induction =>
    have taken := execution.follows n
    cases labelled : execution.label n with
    | none =>
      rw [labelled] at taken
      rw [← Option.some.inj taken]
      exact induction
    | some label =>
      rw [labelled] at taken
      exact preserved _ _ _ induction taken

end Execution

/-- The states that a list of labels goes through; the last one stays. -/
def trace (system : System State Label) : State → List Label → Nat → State
  | state, [], _ => state
  | state, _ :: _, 0 => state
  | state, label :: rest, n + 1 =>
    ((system state label).map fun next => trace system next rest n).getD
      state

theorem trace_zero (state : State) (labels : List Label) :
    system.trace state labels 0 = state := by
  cases labels <;> rfl

theorem follows_of_run (executed : system.run check first labels = some last)
    (n : Nat) :
    (labels[n]?).elim (some (system.trace first labels n))
        (system (system.trace first labels n)) =
      some (system.trace first labels (n + 1)) := by
  induction labels generalizing first n with
  | nil => rfl
  | cons label rest induction =>
    simp only [run] at executed
    split at executed
    · split at executed
      · cases executed
      · rename_i next taken
        cases n with
        | zero => simp [trace, taken, trace_zero]
        | succ n =>
          have later := induction executed n
          simp only [trace, taken, Option.map_some, Option.getD_some]
          exact later
    · cases executed

variable {n : Nat}

theorem check_of_run (executed : system.run check first labels = some last)
    {label : Label} (labelled : labels[n]? = some label) :
    check (system.trace first labels n) label = true := by
  induction labels generalizing first n with
  | nil => cases labelled
  | cons head rest induction =>
    simp only [run] at executed
    split at executed
    · rename_i checked
      split at executed
      · cases executed
      · rename_i next taken
        cases n with
        | zero =>
          cases labelled
          rw [trace_zero]
          exact checked
        | succ n =>
          have later := induction executed labelled
          simp only [trace, taken, Option.map_some, Option.getD_some]
          exact later
    · cases executed

def Execution.ofRun {check : State → Label → Bool} {labels : List Label}
    {first last : State}
    (executed : system.run check first labels = some last) :
    system.Execution where
  state := system.trace first labels
  label := fun n => labels[n]?
  follows := follows_of_run executed

theorem trace_of_length_le
    (executed : system.run check first labels = some last)
    (after : labels.length ≤ n) : system.trace first labels n = last := by
  induction labels generalizing first n with
  | nil =>
    cases executed
    rfl
  | cons label rest induction =>
    simp only [run] at executed
    split at executed
    · split at executed
      · cases executed
      · rename_i next taken
        cases n with
        | zero => simp at after
        | succ n =>
          simp only [trace, taken, Option.map_some, Option.getD_some]
          apply induction executed
          simpa using after
    · cases executed

end System

end Transition
