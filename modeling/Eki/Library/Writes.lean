import Mathlib.Data.List.Basic

/-!
# Memory writes in program order

A program that writes memory leaves a history: what the memory was before each
write, and what it is.  A reset finds the memory in one of these states.  A
guarded program first clears a mark and sets it last, so that every state in
between is marked as unfinished.
-/

namespace Writes

universe u

variable {Memory : Type u}

/-- What the memory was before each write so far, latest first, and what it
is. -/
structure History (Memory : Type u) where
  past : List Memory
  now : Memory

namespace History

variable (history : History Memory)

def start (memory : Memory) : History Memory where
  past := []
  now := memory

def write (change : Memory → Memory) : History Memory where
  past := history.now :: history.past
  now := change history.now

/-- All states in which a reset may find the memory. -/
def states : List Memory :=
  history.now :: history.past

@[simp] theorem now_start (memory : Memory) : (start memory).now = memory :=
  rfl

@[simp] theorem now_write (change : Memory → Memory) :
    (history.write change).now = change history.now :=
  rfl

theorem states_start (memory : Memory) : (start memory).states = [memory] :=
  rfl

theorem states_write (change : Memory → Memory) :
    (history.write change).states = change history.now :: history.states :=
  rfl

/-- From one history to a later one all states meet a condition. -/
structure Within (holds : Memory → Prop) (before after : History Memory) :
    Prop where
  now : holds after.now
  states : ∀ memory ∈ after.states, memory ∈ before.states ∨ holds memory

namespace Within

variable {holds : Memory → Prop} {before middle after : History Memory}

theorem first {change : Memory → Memory} (sets : holds (change before.now)) :
    Within holds before (before.write change) := by
  refine ⟨sets, ?_⟩
  intro memory member
  rw [states_write] at member
  rcases List.mem_cons.mp member with rfl | earlier
  · exact .inr sets
  · exact .inl earlier

theorem write (within : Within holds before after)
    {change : Memory → Memory} (keeps : holds (change after.now)) :
    Within holds before (after.write change) := by
  refine ⟨keeps, ?_⟩
  intro memory member
  rw [states_write] at member
  rcases List.mem_cons.mp member with rfl | earlier
  · exact .inr keeps
  · exact within.states memory earlier

theorem foldl {β : Type} (within : Within holds before after)
    (round : History Memory → β → History Memory) (items : List β)
    (keeps : ∀ history item, Within holds before history →
      Within holds before (round history item)) :
    Within holds before (items.foldl round after) := by
  induction items generalizing after with
  | nil => exact within
  | cons item items induction => exact induction (keeps after item within)

end Within

end History

end Writes
