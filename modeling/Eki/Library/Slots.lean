import Eki.Library.Transition

/-!
# Bounded slots

Tasks run in a bounded number of slots; a task that finds none free waits in
line.  Whoever settles hands its slot to the first in line.  If every running
task settles at some time, every waiting task runs at some time, whatever else
arrives.
-/

namespace Capacity

universe u

structure Slots (Task : Type u) where
  active : List Task
  waiting : List Task

namespace Slots

variable {Task : Type u} [DecidableEq Task]

def empty : Slots Task :=
  { active := []
    waiting := [] }

def enter (limit : Nat) (task : Task) (slots : Slots Task) : Slots Task :=
  if slots.active.length < limit then
    { slots with active := task :: slots.active }
  else { slots with waiting := slots.waiting ++ [task] }

/-- A running task settles: the first in line takes its slot. -/
def settle (task : Task) (slots : Slots Task) : Slots Task :=
  match slots.waiting with
  | [] => { slots with active := slots.active.erase task }
  | next :: rest =>
    { active := next :: slots.active.erase task
      waiting := rest }

/-- What can happen to the slots. -/
inductive Move (limit : Nat) (before after : Slots Task) : Prop where
  | stay (same : after = before)
  | enter (task : Task) (entered : after = before.enter limit task)
  | settle (task : Task) (running : task ∈ before.active)
      (settled : after = before.settle task)

/-- No more tasks run than there are slots, and nobody waits beside a free
slot. -/
structure Bounded (limit : Nat) (slots : Slots Task) : Prop where
  active_le : slots.active.length ≤ limit
  full : slots.waiting ≠ [] → slots.active.length = limit

omit [DecidableEq Task] in
theorem bounded_empty (limit : Nat) : Bounded limit (empty : Slots Task) where
  active_le := Nat.zero_le _
  full := fun waits => absurd rfl waits

variable {limit : Nat} {slots : Slots Task}

omit [DecidableEq Task] in
theorem Bounded.enter (bounded : slots.Bounded limit) (task : Task) :
    (slots.enter limit task).Bounded limit := by
  unfold Slots.enter
  split
  · rename_i free
    constructor
    · exact free
    · intro waits
      have full := bounded.full waits
      omega
  · rename_i taken
    have most := bounded.active_le
    constructor
    · exact most
    · intro _
      show slots.active.length = limit
      omega

variable {task : Task}

theorem Bounded.settle (bounded : slots.Bounded limit)
    (running : task ∈ slots.active) : (slots.settle task).Bounded limit := by
  have most := bounded.active_le
  have shorter := List.length_erase_of_mem running
  have some_active := List.length_pos_of_mem running
  unfold Slots.settle
  split
  · rename_i nobody
    constructor
    · show (slots.active.erase task).length ≤ limit
      omega
    · intro waits
      exact absurd nobody waits
  · rename_i next rest line
    have full := bounded.full (by rw [line]; exact List.cons_ne_nil _ _)
    constructor
    · simp only [List.length_cons]
      omega
    · intro _
      simp only [List.length_cons]
      omega

theorem Bounded.move {before after : Slots Task}
    (bounded : before.Bounded limit) (move : Move limit before after) :
    after.Bounded limit := by
  cases move with
  | stay same =>
    rw [same]
    exact bounded
  | enter task entered =>
    rw [entered]
    exact bounded.enter task
  | settle task running settled =>
    rw [settled]
    exact bounded.settle running

def tasks (slots : Slots Task) : List Task :=
  slots.active ++ slots.waiting

omit [DecidableEq Task] in
theorem perm_tasks_enter (limit : Nat) (task : Task) (slots : Slots Task) :
    (slots.enter limit task).tasks.Perm (task :: slots.tasks) := by
  unfold enter tasks
  split
  · exact List.Perm.refl _
  · show (slots.active ++ (slots.waiting ++ [task])).Perm _
    rw [← List.append_assoc]
    exact List.perm_append_singleton task _

theorem perm_tasks_settle (running : task ∈ slots.active) :
    (slots.settle task).tasks.Perm (slots.tasks.erase task) := by
  unfold settle tasks
  rw [List.erase_append_left _ running]
  split
  · rename_i nobody
    rw [nobody]
  · rename_i next rest line
    rw [line]
    exact List.perm_middle.symm

omit [DecidableEq Task] in
theorem nodup_enter (nodup : slots.tasks.Nodup) (fresh : task ∉ slots.tasks) :
    (slots.enter limit task).tasks.Nodup :=
  (perm_tasks_enter limit task slots).nodup_iff.mpr
    (List.nodup_cons.mpr ⟨fresh, nodup⟩)

theorem nodup_settle (nodup : slots.tasks.Nodup)
    (running : task ∈ slots.active) : (slots.settle task).tasks.Nodup :=
  (perm_tasks_settle running).nodup_iff.mpr (nodup.erase task)

omit [DecidableEq Task] in
theorem mem_tasks_enter {other : Task} :
    other ∈ (slots.enter limit task).tasks ↔
      other = task ∨ other ∈ slots.tasks := by
  rw [(perm_tasks_enter limit task slots).mem_iff, List.mem_cons]

theorem mem_tasks_settle {other : Task} (nodup : slots.tasks.Nodup)
    (running : task ∈ slots.active) :
    other ∈ (slots.settle task).tasks ↔
      other ≠ task ∧ other ∈ slots.tasks := by
  rw [(perm_tasks_settle running).mem_iff, nodup.mem_erase_iff]

def WaitsBehind (slots : Slots Task) (task : Task) (ahead : Nat) : Prop :=
  ∃ front back, slots.waiting = front ++ task :: back ∧ front.length = ahead

omit [DecidableEq Task] in
theorem waitsBehind_of_mem (waits : task ∈ slots.waiting) :
    ∃ ahead, slots.WaitsBehind task ahead := by
  obtain ⟨front, back, line⟩ := List.append_of_mem waits
  exact ⟨front.length, front, back, line, rfl⟩

omit [DecidableEq Task] in
theorem WaitsBehind.enter {ahead : Nat} (waits : slots.WaitsBehind task ahead)
    (limit : Nat) (other : Task) :
    (slots.enter limit other).WaitsBehind task ahead := by
  obtain ⟨front, back, line, length⟩ := waits
  unfold Slots.enter
  split
  · exact ⟨front, back, line, length⟩
  · exact ⟨front, back ++ [other], by simp [line], length⟩

/-- A settlement lets the first in line run and moves up the others. -/
theorem WaitsBehind.settle {ahead : Nat} (waits : slots.WaitsBehind task ahead)
    (other : Task) :
    task ∈ (slots.settle other).active ∨
      ∃ fewer, fewer < ahead ∧
        (slots.settle other).WaitsBehind task fewer := by
  obtain ⟨front, back, line, length⟩ := waits
  unfold Slots.settle
  cases front with
  | nil =>
    left
    rw [line]
    exact List.mem_cons_self
  | cons first front =>
    right
    refine ⟨front.length, ?_, ?_⟩
    · rw [← length]
      exact Nat.lt_succ_self _
    · rw [line]
      exact ⟨front, back, rfl, rfl⟩

end Slots

/-- What is watched of the slots over time. -/
structure History (Task : Type u) [DecidableEq Task] (limit : Nat) where
  slots : Nat → Slots Task
  moves : ∀ n, Slots.Move limit (slots n) (slots (n + 1))
  bounded : (slots 0).Bounded limit

namespace History

variable {Task : Type u} [DecidableEq Task] {limit : Nat}
  (history : History Task limit)

/-- Every running task settles at some time. -/
def Settles : Prop :=
  ∀ n task, task ∈ (history.slots n).active →
    ∃ later, n ≤ later ∧ task ∉ (history.slots later).active

theorem bounded_at (n : Nat) : (history.slots n).Bounded limit := by
  induction n with
  | zero => exact history.bounded
  | succ n induction => exact induction.move (history.moves n)

theorem moves_up {task running : Task} {ahead : Nat} (wait : Nat) {n : Nat}
    (waits : (history.slots n).WaitsBehind task ahead)
    (runs : running ∈ (history.slots n).active)
    (gone : running ∉ (history.slots (n + wait)).active) :
    ∃ later, n ≤ later ∧
      (task ∈ (history.slots later).active ∨
        ∃ fewer, fewer < ahead ∧
          (history.slots later).WaitsBehind task fewer) := by
  induction wait generalizing n with
  | zero => exact absurd runs gone
  | succ wait induction =>
    have later : n + (wait + 1) = n + 1 + wait := by omega
    rw [later] at gone
    cases history.moves n with
    | stay same =>
      rw [← same] at waits runs
      obtain ⟨found, after, result⟩ := induction waits runs gone
      exact ⟨found, by omega, result⟩
    | enter other entered =>
      have still : running ∈ (history.slots (n + 1)).active := by
        rw [entered]
        unfold Slots.enter
        split
        · exact List.mem_cons_of_mem _ runs
        · exact runs
      have waits' : (history.slots (n + 1)).WaitsBehind task ahead := by
        rw [entered]
        exact waits.enter limit other
      obtain ⟨found, after, result⟩ := induction waits' still gone
      exact ⟨found, by omega, result⟩
    | settle other _ settled =>
      refine ⟨n + 1, Nat.le_succ n, ?_⟩
      rw [settled]
      exact waits.settle other

theorem eventually_active (settles : history.Settles) (positive : 0 < limit)
    {n : Nat} {task : Task} (waits : task ∈ (history.slots n).waiting) :
    ∃ later, n ≤ later ∧ task ∈ (history.slots later).active := by
  obtain ⟨ahead, behind⟩ := Slots.waitsBehind_of_mem waits
  clear waits
  induction ahead using Nat.strongRecOn generalizing n with
  | _ ahead induction =>
    have full : (history.slots n).active.length = limit := by
      apply (history.bounded_at n).full
      obtain ⟨front, back, line, -⟩ := behind
      rw [line]
      simp
    obtain ⟨running, runs⟩ :=
      List.exists_mem_of_length_pos (by rw [full]; exact positive)
    obtain ⟨end_, after, gone⟩ := settles n running runs
    obtain ⟨wait, rfl⟩ := Nat.exists_eq_add_of_le after
    obtain ⟨later, reached, result⟩ :=
      history.moves_up wait behind runs gone
    rcases result with active | ⟨fewer, less, behind'⟩
    · exact ⟨later, reached, active⟩
    · obtain ⟨found, beyond, active⟩ := induction fewer less behind'
      exact ⟨found, Nat.le_trans reached beyond, active⟩

end History

end Capacity
