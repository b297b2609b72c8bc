import Eki.Library.LeadsTo
import Eki.Work.LatestTally

/-!
# The latest value is served

A value that comes next is submitted when the promise before it settles, a
submitted one is called when its task is taken up, and a call settles.  Tasks
that wait come nearer with every task that lands.  So the last value of a key
is processed, rejected or expires.
-/

namespace Eki.Work

open Insertion Transition
open Option (bind_eq_some_iff bind_some map_eq_some_iff)
open OrderedMap (get_set_self mem_collect)

variable {K T R E : Type} [DecidableEq K] [JsNumber R]

namespace LatestPending

variable {options : ExecutionBudgets R}
  {scheduler before after : LatestPending K T R E} {key : K}
  {worker id seq : Nat} {state : WorkerState T R}

/-! ## Where a value is -/

def Given (scheduler : LatestPending K T R E) (seq : Nat) : Prop :=
  ∃ fate, (seq, fate) ∈ scheduler.fates

/-- The value comes next when the promise has settled. -/
def ComesNext (scheduler : LatestPending K T R E) (id seq : Nat) : Prop :=
  ∃ key worker state task, Attached scheduler key worker id state ∧
    state.next = some task ∧ task.seq = seq

/-- The value is submitted under the promise. -/
def Submitted (scheduler : LatestPending K T R E) (id seq : Nat) : Prop :=
  ∃ key worker state, Attached scheduler key worker id state ∧
    state.started = false ∧ state.submitted.seq = seq

def Processing (scheduler : LatestPending K T R E) (id seq : Nat) : Prop :=
  ∃ task, scheduler.processing.get id = some task ∧ task.seq = seq

theorem Orderly.place (orderly : Orderly options scheduler)
    (scheduled : seq < scheduler.history.length) :
    scheduler.Given seq ∨ (∃ id, scheduler.ComesNext id seq) ∨
      (∃ id, scheduler.Submitted id seq) ∨
        ∃ id, scheduler.Processing id seq := by
  have member := orderly.account.mem_iff.mpr (List.mem_range.mpr scheduled)
  rcases List.mem_append.mp member with given | out
  · left
    obtain ⟨entry, inside, same⟩ := List.mem_map.mp given
    subst same
    exact ⟨entry.2, inside⟩
  · right
    rcases List.mem_append.mp out with waits | called
    · obtain ⟨key, worker, stored, inside⟩ := mem_collect.mp waits
      obtain ⟨id, state, attached⟩ := orderly.attached key worker stored
      rw [heldAt_of_get attached.object] at inside
      rcases List.mem_append.mp inside with submitted | next
      · right
        left
        split at submitted
        · cases submitted
        · rename_i idle
          exact ⟨id, key, worker, state, attached,
            Bool.eq_false_iff.mpr idle, (List.mem_singleton.mp submitted).symm⟩
      · left
        obtain ⟨task, present, same⟩ := List.mem_map.mp next
        exact ⟨id, key, worker, state, task, attached,
          Option.mem_toList.mp present, same⟩
    · obtain ⟨id, task, stored, inside⟩ := mem_collect.mp called
      exact Or.inr (Or.inr
        ⟨id, task, stored, (List.mem_singleton.mp inside).symm⟩)

/-! ## What a step does to a worker -/

/-- An open worker stays as it is, is called, loses its values to a newer one,
or hands its next value over when its promise has settled. -/
inductive Moves (before after : LatestPending K T R E) (key : K)
    (worker id : Nat) (state : WorkerState T R) : Prop where
  | stays (attached : Attached after key worker id state)
  | begins (idle : state.started = false)
      (attached : Attached after key worker id { state with started := true })
      (goes : after.processing.get id = some state.submitted ∨
        after.Given state.submitted.seq)
  | superseded (newer : ∀ task : PendingTask T R,
      Known before.history key task → Superseded after.history task.seq)
  | settles
      (submitted : state.started = false → after.Given state.submitted.seq)
      (next : ∀ task, state.next = some task →
        after.Given task.seq ∨ ∃ id, after.Submitted id task.seq)

theorem Orderly.attached_of (orderly : Orderly options scheduler)
    (stored : scheduler.workers.get key = some worker)
    (object : scheduler.objects.get worker = some state)
    (promise : state.promise = some id) :
    Attached scheduler key worker id state := by
  obtain ⟨other, found, attached⟩ := orderly.attached key worker stored
  have same : found = state :=
    Option.some.inj (attached.object.symm.trans object)
  subst same
  have one : other = id :=
    Option.some.inj (attached.promise.symm.trans promise)
  subst one
  exact attached

theorem submit_frame (options : ExecutionBudgets R)
    (scheduler : LatestPending K T R E) (key : K) (worker : Nat)
    (state : WorkerState T R) (times : SubmitTimes R) :
    (scheduler.submit options key worker state times).history =
        scheduler.history ∧
      (scheduler.submit options key worker state times).processing =
        scheduler.processing := by
  simp only [submit]
  split
  · exact ⟨rfl, rfl⟩
  · split
    · exact ⟨rfl, rfl⟩
    · exact ⟨rfl, rfl⟩

theorem schedule_frame (options : ExecutionBudgets R)
    (scheduler : LatestPending K T R E) (key : K) (value : T) (now : R)
    (times : SubmitTimes R) :
    (scheduler.schedule options key value now times).history =
        scheduler.history ++ [(key, value)] ∧
      (scheduler.schedule options key value now times).processing =
        scheduler.processing := by
  simp only [schedule]
  split
  · exact submit_frame options _ key _ _ times
  · split
    · exact ⟨rfl, rfl⟩
    · split
      · exact ⟨rfl, rfl⟩
      · exact ⟨rfl, rfl⟩

theorem handled_processing (options : ExecutionBudgets R)
    (scheduler : LatestPending K T R E) (closure : Closure K)
    (state : WorkerState T R) (outcome : Outcome Unit Empty)
    (times : SubmitTimes R) :
    (scheduler.handled options closure state outcome times).processing =
      scheduler.processing := by
  have detached : (scheduler.detach closure).processing =
      scheduler.processing := by
    rw [detach]
    split
    · rfl
    · rfl
  cases outcome with
  | own result =>
    simp only [handled]
    split
    · exact (submit_frame options scheduler _ _ _ times).2
    · exact detached
  | expired => exact detached

theorem Orderly.moves_of_call (orderly : Orderly options after)
    {moved : Executor K R Unit Empty} {startedAt : R}
    (attached : Attached before key worker id state)
    (idle : state.started = false)
    (taken : LatestPending.callWork options { before with executor := moved }
      { key
        worker } id startedAt = some after) :
    Moves before after key worker id state := by
  obtain ⟨found, object, rest⟩ := bind_eq_some_iff.mp taken
  have same : found = state :=
    Option.some.inj (object.symm.trans attached.object)
  subst same
  simp only at rest
  split at rest
  · obtain ⟨last, -, same⟩ := map_eq_some_iff.mp rest
    subst same
    apply Moves.begins idle
    · exact orderly.attached_of attached.stored get_set_self
        attached.promise
    · right
      exact ⟨.expired, List.mem_append_right _ (List.mem_singleton_self _)⟩
  · cases rest
    apply Moves.begins idle
    · exact orderly.attached_of attached.stored get_set_self
        attached.promise
    · exact Or.inl get_set_self

theorem Orderly.submitted_or_given {opened : LatestPending K T R E}
    {times : SubmitTimes R}
    (orderly : Orderly options (opened.submit options key worker state times))
    (stored : opened.workers.get key = some worker) :
    (opened.submit options key worker state times).Given
        state.submitted.seq ∨
      ∃ id, (opened.submit options key worker state times).Submitted id
        state.submitted.seq := by
  simp only [submit] at orderly ⊢
  split at orderly
  · rename_i old
    rw [if_pos old]
    left
    exact ⟨.expired, List.mem_append_right _ (List.mem_singleton_self _)⟩
  · rename_i young
    rw [if_neg young]
    split at orderly
    · rename_i admitted
      rw [if_pos admitted]
      right
      refine ⟨opened.executor.nextId, key, worker, _,
        orderly.attached_of stored get_set_self rfl, rfl, rfl⟩
    · rename_i refused
      rw [if_neg refused]
      left
      exact ⟨.rejected, List.mem_append_right _ (List.mem_singleton_self _)⟩

theorem Orderly.moves_of_handle (orderly : Orderly options before)
    {times : SubmitTimes R}
    (attached : Attached before key worker id state)
    (spares : Spares before id)
    (taken : before.handle options id times = some after)
    (kept : Orderly options after) :
    Moves before after key worker id state := by
  obtain ⟨outcome, settles, rest⟩ := bind_eq_some_iff.mp taken
  rw [attached.closure, bind_some] at rest
  obtain ⟨found, object, same⟩ := map_eq_some_iff.mp rest
  have one : found = state :=
    Option.some.inj (object.symm.trans attached.object)
  subst one
  have entry := outcome_settled settles
  have started := attached.started.trans
    (orderly.sound.toKept.begun_iff_outcome entry)
  apply Moves.settles
  · intro idle
    cases outcome with
    | own result =>
      rw [started.mpr ⟨result, rfl⟩] at idle
      cases idle
    | expired =>
      subst same
      exact ⟨.expired, List.mem_append_right _ (List.mem_singleton_self _)⟩
  · intro task next
    cases outcome with
    | own result =>
      subst same
      simp only [handled, next] at kept ⊢
      exact kept.submitted_or_given attached.stored
    | expired =>
      rw [spares _ found attached.closure object settles] at next
      cases next

variable {label : SchedulerLabel K T R E}

theorem Orderly.moves (orderly : Orderly options before)
    (attached : Attached before key worker id state)
    (spared : Spared before label)
    (taken : LatestPending.step options before label = some after) :
    Moves before after key worker id state := by
  have kept := orderly.step spared taken
  cases label with
  | schedule other value now times =>
    cases taken
    by_cases same : key = other
    · subst same
      apply Moves.superseded
      intro task known
      rw [(schedule_frame options before key value now times).1]
      exact known.superseded value
    · exact .stays ((orderly.schedule other value now times).attached same
        attached)
  | start other now startedAt =>
    rcases orderly.start_cases taken with
      ⟨moved, task, closure, started, flies, stored, called⟩ | works
    · obtain ⟨owner, there⟩ := closure
      by_cases same : key = owner
      · subst same
        have one := orderly.only attached other _ stored rfl
        subst one
        have whole := attached.closure
        rw [stored] at whole
        cases whole
        have idle : state.started = false := by
          obtain ⟨waiting, dispatched⟩ := start_dispatched started
          exact orderly.idle_of_dispatched attached dispatched
        exact kept.moves_of_call attached idle called
      · exact .stays ((orderly.callWork started flies stored
          called).attached same attached)
    · exact .stays (works.attached attached)
  | settle other result =>
    exact .stays ((orderly.settle taken).attached attached)
  | complete other =>
    exact .stays ((orderly.complete taken).attached attached)
  | expire other task =>
    cases taken
    exact .stays ((orderly.expire other task).attached attached)
  | handle other times =>
    obtain ⟨⟨owner, there⟩, stored⟩ := handle_closure taken
    by_cases same : key = owner
    · subst same
      have one := orderly.only attached other _ stored rfl
      subst one
      have whole := attached.closure
      rw [stored] at whole
      cases whole
      exact orderly.moves_of_handle attached spared taken kept
    · exact .stays ((orderly.handle taken spared stored).attached same
        attached)

/-! ## What a step does to a value -/

section

variable (orderly : Orderly options before)

include orderly

theorem Orderly.comesNext_step (next : before.ComesNext id seq)
    (spared : Spared before label)
    (taken : LatestPending.step options before label = some after) :
    after.ComesNext id seq ∨ (∃ id, after.Submitted id seq) ∨
      after.Given seq ∨ Superseded after.history seq := by
  obtain ⟨key, worker, state, task, attached, present, same⟩ := next
  subst same
  cases orderly.moves attached spared taken with
  | stays attached =>
    exact Or.inl ⟨key, worker, state, task, attached, present, rfl⟩
  | begins idle attached goes =>
    exact Or.inl ⟨key, worker, _, task, attached, present, rfl⟩
  | superseded newer =>
    exact Or.inr (Or.inr (Or.inr (newer task (attached.next task present))))
  | settles submitted next =>
    rcases next task present with given | waits
    · exact Or.inr (Or.inr (Or.inl given))
    · exact Or.inr (Or.inl waits)

theorem Orderly.submitted_step (submitted : before.Submitted id seq)
    (spared : Spared before label)
    (taken : LatestPending.step options before label = some after) :
    after.Submitted id seq ∨ (∃ id, after.Processing id seq) ∨
      after.Given seq ∨ Superseded after.history seq := by
  obtain ⟨key, worker, state, attached, idle, same⟩ := submitted
  subst same
  cases orderly.moves attached spared taken with
  | stays attached =>
    exact Or.inl ⟨key, worker, state, attached, idle, rfl⟩
  | begins idle attached goes =>
    rcases goes with called | given
    · exact Or.inr (Or.inl ⟨id, state.submitted, called, rfl⟩)
    · exact Or.inr (Or.inr (Or.inl given))
  | superseded newer =>
    exact Or.inr (Or.inr (Or.inr (newer state.submitted attached.submitted)))
  | settles submitted next =>
    exact Or.inr (Or.inr (Or.inl (submitted idle)))

/-- A call of `processTask` goes on until it settles. -/
theorem Orderly.processing_step (called : before.Processing id seq)
    (taken : LatestPending.step options before label = some after) :
    after.Processing id seq ∨ after.Given seq := by
  obtain ⟨task, stored, same⟩ := called
  subst same
  have stays : after.processing = before.processing →
      after.Processing id task.seq ∨ after.Given task.seq := by
    intro unchanged
    left
    refine ⟨task, ?_, rfl⟩
    rw [unchanged]
    exact stored
  cases label with
  | schedule key value now times =>
    cases taken
    exact stays (schedule_frame options before key value now times).2
  | start other now startedAt =>
    obtain ⟨moved, started, rest⟩ := bind_eq_some_iff.mp taken
    simp only at rest
    split at rest
    · obtain ⟨state, -, called⟩ := bind_eq_some_iff.mp rest
      simp only at called
      split at called
      · obtain ⟨last, -, same⟩ := map_eq_some_iff.mp called
        subst same
        exact stays rfl
      · cases called
        left
        refine ⟨task, ?_, rfl⟩
        obtain ⟨waiting, dispatched⟩ := start_dispatched started
        have absent := orderly.unprocessed dispatched
        have different : id ≠ other := by
          rintro rfl
          rw [absent] at stored
          cases stored
        rw [OrderedMap.get_set_of_ne different]
        exact stored
    · cases rest
      exact stays rfl
  | settle other result =>
    obtain ⟨found, present, rest⟩ := bind_eq_some_iff.mp taken
    obtain ⟨last, -, same⟩ := map_eq_some_iff.mp rest
    subst same
    by_cases own : id = other
    · subst own
      rw [stored] at present
      cases present
      right
      exact ⟨.processed result,
        List.mem_append_right _ (List.mem_singleton_self _)⟩
    · left
      refine ⟨task, ?_, rfl⟩
      rw [OrderedMap.get_delete_of_ne own]
      exact stored
  | complete other =>
    obtain ⟨last, -, same⟩ := map_eq_some_iff.mp taken
    subst same
    exact stays rfl
  | expire key other =>
    cases taken
    exact stays rfl
  | handle other times =>
    obtain ⟨outcome, -, rest⟩ := bind_eq_some_iff.mp taken
    obtain ⟨closure, -, more⟩ := bind_eq_some_iff.mp rest
    obtain ⟨state, -, same⟩ := map_eq_some_iff.mp more
    subst same
    exact stays (handled_processing options _ closure state outcome times)

theorem Orderly.advances (spared : Spared before label)
    (taken : LatestPending.step options before label = some after) :
    ∃ own, Advances options before.executor after.executor own := by
  cases label with
  | schedule key value now times =>
    cases taken
    exact ⟨_, (orderly.schedule key value now times).executor⟩
  | start id now startedAt =>
    rcases orderly.start_cases taken with
      ⟨moved, task, closure, started, flies, stored, called⟩ | works
    · exact ⟨_, (orderly.callWork started flies stored called).executor⟩
    · exact ⟨_, works.executor⟩
  | settle id result => exact ⟨_, (orderly.settle taken).executor⟩
  | complete id => exact ⟨_, (orderly.complete taken).executor⟩
  | expire key id =>
    cases taken
    exact ⟨_, (orderly.expire key id).executor⟩
  | handle id times =>
    obtain ⟨closure, stored⟩ := handle_closure taken
    exact ⟨_, (orderly.handle taken spared stored).executor⟩

end

/-! ## Endless runs -/

/-- The system of the schedulers of these keys and values. -/
abbrev Scheduling (K T E : Type) [DecidableEq K] {R : Type} [JsNumber R]
    (options : ExecutionBudgets R) :
    System (LatestPending K T R E) (SchedulerLabel K T R E) :=
  step options

/-- Every step of the run keeps what comes next. -/
def AlwaysSpared (execution : (Scheduling K T E options).Execution) : Prop :=
  ∀ n label, execution.label n = some label → Spared (execution.state n) label

/-- Tasks that were taken up settle, and so their slots free up; and the
handlers of promises that have settled run. -/
structure GoesOn (execution : (Scheduling K T E options).Execution) : Prop where
  lands : ∀ n key id, (execution.state n).executor.Aboard key id →
    ∃ later, n ≤ later ∧ ¬ (execution.state later).executor.Aboard key id
  handles : ∀ n id, id ∈ (execution.state n).executor.settledIds →
    ∃ later, n ≤ later ∧ (execution.state later).closures.get id = none

section

variable {execution : (Scheduling K T E options).Execution}

section

variable (starts : Orderly options (execution.state 0))
  (spared : AlwaysSpared execution)

include starts spared

theorem orderly_at (n : Nat) : Orderly options (execution.state n) := by
  induction n with
  | zero => exact starts
  | succ n induction =>
    have taken := execution.follows n
    cases labelled : execution.label n with
    | none =>
      rw [labelled] at taken
      rw [← Option.some.inj taken]
      exact induction
    | some label =>
      rw [labelled] at taken
      exact induction.step (spared n label labelled) taken

theorem advances_at (n : Nat) :
    ∃ own, Advances options (execution.state n).executor
      (execution.state (n + 1)).executor own := by
  have orderly := orderly_at starts spared n
  have taken := execution.follows n
  cases labelled : execution.label n with
  | none =>
    rw [labelled] at taken
    rw [← Option.some.inj taken]
    exact ⟨fun _ => False, Advances.refl orderly.sound _⟩
  | some label =>
    rw [labelled] at taken
    exact orderly.advances (spared n label labelled) taken

theorem leadsTo_of_step {first second : LatestPending K T R E → Prop}
    (step : ∀ before label after, Orderly options before →
      Spared before label →
      LatestPending.step options before label = some after →
      first before → first after ∨ second after)
    (ends : ∀ n, first (execution.state n) →
      ∃ later, n ≤ later ∧ ¬ first (execution.state later)) :
    execution.LeadsTo first second := by
  apply System.Execution.LeadsTo.of_unless _ ends
  intro n holds
  have taken := execution.follows n
  cases labelled : execution.label n with
  | none =>
    rw [labelled] at taken
    rw [← Option.some.inj taken]
    exact Or.inl holds
  | some label =>
    rw [labelled] at taken
    exact step _ label _ (orderly_at starts spared n)
      (spared n label labelled) taken holds

end

/-! ## Every promise settles -/

section

variable (starts : Orderly options (execution.state 0))
  (spared : AlwaysSpared execution) (goesOn : GoesOn execution)

include starts spared goesOn

theorem aboard_settles (key : K) (id : Nat) :
    execution.LeadsTo (fun state => state.executor.Aboard key id)
      (fun state => id ∈ state.executor.settledIds) := by
  apply System.Execution.LeadsTo.of_unless
  · intro n aboard
    obtain ⟨own, advances⟩ := advances_at starts spared n
    rcases advances.lives 0 key id (Or.inr (Or.inl aboard)) with
      settled | stays | next
    · exact Or.inr settled
    · exact Or.inl stays
    · exact absurd next.near (Nat.not_lt_zero _)
  · intro n aboard
    exact goesOn.lands n key id aboard

/-- A task in the ring comes nearer when another one lands. -/
theorem next_nearer (bound : Nat) (key : K) (id : Nat) :
    execution.LeadsTo
      (fun state => state.executor.NextWithin (bound + 1) key id)
      (fun state => state.executor.Lives bound key id) := by
  have flying : execution.LeadsTo
      (fun state => state.executor.NextWithin (bound + 1) key id)
      (fun state => ∃ other : K × Nat,
        state.executor.NextWithin (bound + 1) key id ∧
          state.executor.Aboard other.1 other.2) := by
    apply System.Execution.LeadsTo.of_imp
    intro n next
    have sound := (orderly_at starts spared n).sound
    have full : (execution.state n).executor.active =
        options.latest.maxConcurrent := by
      apply sound.full.resolve_left
      intro empty
      have turn := next.turn
      rw [empty] at turn
      cases turn
    have some_fly : 0 < (execution.state n).executor.inFlight.length := by
      rw [← sound.toKept.active_eq, full]
      exact options.latest.maxConcurrent_pos
    obtain ⟨flight, member⟩ := List.exists_mem_of_length_pos some_fly
    exact ⟨(flight.task.key, flight.task.id), next, flight, member, rfl, rfl⟩
  apply flying.trans
  apply System.Execution.LeadsTo.exists
  intro other
  apply System.Execution.LeadsTo.of_unless
  · intro n both
    obtain ⟨own, advances⟩ := advances_at starts spared n
    rcases advances.nearer _ _ bound key id both.2 both.1 with stays | lives
    · rcases advances.lives (bound + 1) key id (Or.inr (Or.inr both.1)) with
        settled | aboard | next
      · exact Or.inr (Or.inl settled)
      · exact Or.inr (Or.inr (Or.inl aboard))
      · exact Or.inl ⟨next, stays⟩
    · exact Or.inr lives
  · intro n both
    obtain ⟨later, after, landed⟩ := goesOn.lands n _ _ both.2
    refine ⟨later, after, ?_⟩
    intro still
    exact landed still.2

theorem lives_settles (bound : Nat) (key : K) (id : Nat) :
    execution.LeadsTo (fun state => state.executor.Lives bound key id)
      (fun state => id ∈ state.executor.settledIds) := by
  have aboard := aboard_settles starts spared goesOn key id
  have settled : execution.LeadsTo
      (fun state => id ∈ state.executor.settledIds)
      (fun state => id ∈ state.executor.settledIds) :=
    System.Execution.LeadsTo.of_imp fun _ settled => settled
  induction bound with
  | zero =>
    apply settled.or
    apply aboard.or
    intro n next
    exact absurd next.near (Nat.not_lt_zero _)
  | succ bound induction =>
    apply settled.or
    apply aboard.or
    exact (next_nearer starts spared goesOn bound key id).trans induction

/-- A promise that is open is handled. -/
theorem closure_ends {n : Nat} {closure : Closure K}
    (stored : (execution.state n).closures.get id = some closure) :
    ∃ later, n ≤ later ∧ (execution.state later).closures.get id = none := by
  obtain ⟨state, attached⟩ :=
    (orderly_at starts spared n).closed id closure stored
  obtain ⟨bound, lives⟩ := attached.lives
  obtain ⟨middle, after, settled⟩ :=
    lives_settles starts spared goesOn bound closure.key id n lives
  obtain ⟨last, later, handled⟩ := goesOn.handles middle id settled
  exact ⟨last, Nat.le_trans after later, handled⟩

end

/-! ## Every value comes to an end -/

/-- The value has a fate, or there is a newer one. -/
def Resolved (seq : Nat) (scheduler : LatestPending K T R E) : Prop :=
  scheduler.Given seq ∨ Superseded scheduler.history seq

variable (starts : Orderly options (execution.state 0))
  (spared : AlwaysSpared execution) (goesOn : GoesOn execution)

include starts spared goesOn

theorem processing_resolves (id seq : Nat) :
    execution.LeadsTo (fun state => state.Processing id seq)
      (Resolved seq) := by
  apply leadsTo_of_step starts spared
  · intro before label after orderly _ taken called
    exact (orderly.processing_step called taken).imp_right Or.inl
  · intro n called
    obtain ⟨task, stored, -⟩ := called
    obtain ⟨flight, member, named, -⟩ :=
      (orderly_at starts spared n).running id task stored
    obtain ⟨middle, beyond, settled⟩ := aboard_settles starts spared goesOn
      flight.task.key id n ⟨flight, member, named, rfl⟩
    refine ⟨middle, beyond, ?_⟩
    rintro ⟨value, still, -⟩
    have orderly := orderly_at starts spared middle
    obtain ⟨other, flies, same, -⟩ := orderly.running id value still
    rw [← same] at settled
    exact orderly.sound.toKept.unsettled_of_flying flies settled

/-- What waits for a promise goes over, since the promise is handled, into a
stage that resolves. -/
theorem resolves_of_closure {id seq : Nat}
    {waits : LatestPending K T R E → Prop}
    {next : Nat → LatestPending K T R E → Prop}
    (closed : ∀ state, waits state → ∃ closure,
      state.closures.get id = some closure)
    (step : ∀ before label after, Orderly options before →
      Spared before label →
      LatestPending.step options before label = some after →
      waits before → waits after ∨ (∃ id, next id after) ∨ Resolved seq after)
    (resolves : ∀ id, execution.LeadsTo (next id) (Resolved seq)) :
    execution.LeadsTo waits (Resolved seq) := by
  have goes : execution.LeadsTo waits
      (fun state => (∃ id, next id state) ∨ Resolved seq state) := by
    apply leadsTo_of_step starts spared step
    intro n waiting
    obtain ⟨closure, stored⟩ := closed _ waiting
    obtain ⟨later, after, gone⟩ := closure_ends starts spared goesOn stored
    refine ⟨later, after, fun still => ?_⟩
    obtain ⟨other, there⟩ := closed _ still
    rw [there] at gone
    cases gone
  apply goes.trans
  apply System.Execution.LeadsTo.or
  · exact System.Execution.LeadsTo.exists resolves
  · exact System.Execution.LeadsTo.of_imp fun _ resolved => resolved

theorem submitted_resolves (id seq : Nat) :
    execution.LeadsTo (fun state => state.Submitted id seq)
      (Resolved seq) := by
  apply resolves_of_closure starts spared goesOn
  · rintro state ⟨key, worker, own, attached, -⟩
    exact ⟨_, attached.closure⟩
  · intro before label after orderly spared taken submitted
    exact orderly.submitted_step submitted spared taken
  · intro other
    exact processing_resolves starts spared goesOn other seq

theorem comesNext_resolves (id seq : Nat) :
    execution.LeadsTo (fun state => state.ComesNext id seq)
      (Resolved seq) := by
  apply resolves_of_closure starts spared goesOn
  · rintro state ⟨key, worker, own, task, attached, -⟩
    exact ⟨_, attached.closure⟩
  · intro before label after orderly spared taken next
    exact orderly.comesNext_step next spared taken
  · intro other
    exact submitted_resolves starts spared goesOn other seq

theorem served {n : Nat} (scheduled : seq < (execution.state n).history.length)
    (last : ∀ later, ¬ Superseded (execution.state later).history seq) :
    ∃ later fate, n ≤ later ∧ (seq, fate) ∈ (execution.state later).fates ∧
      fate ≠ .coalesced := by
  have resolves : ∃ later, n ≤ later ∧
      Resolved seq (execution.state later) := by
    rcases (orderly_at starts spared n).place scheduled with
      given | ⟨id, next⟩ | ⟨id, submitted⟩ | ⟨id, called⟩
    · exact ⟨n, Nat.le_refl n, Or.inl given⟩
    · exact comesNext_resolves starts spared goesOn id seq n next
    · exact submitted_resolves starts spared goesOn id seq n submitted
    · exact processing_resolves starts spared goesOn id seq n called
  obtain ⟨later, after, ⟨fate, member⟩ | superseded⟩ := resolves
  · refine ⟨later, fate, after, member, ?_⟩
    rintro rfl
    exact last later ((orderly_at starts spared later).newer seq member)
  · exact absurd superseded (last later)

end

/-! ## Whole runs -/

structure Conserves (options : ExecutionBudgets R)
    (scheduler : LatestPending K T R E) : Prop where
  total : scheduler.scheduled =
    scheduler.processed + scheduler.coalesced + scheduler.rejected +
      scheduler.expired + scheduler.outstanding.length
  tallied : Tallied scheduler
  /-- Every value is outstanding once or has one fate. -/
  account : (scheduler.fates.map Prod.fst ++ scheduler.outstanding).Perm
    (List.range scheduler.history.length)
  /-- Only a newer value of its key takes the place of a value. -/
  newer : ∀ seq, (seq, Fate.coalesced) ∈ scheduler.fates →
    Superseded scheduler.history seq
  /-- However the run goes on, the last value of a key is processed, rejected
  or expires, if tasks settle and handlers run. -/
  served : ∀ execution : (Scheduling K T E options).Execution,
    execution.state 0 = scheduler → AlwaysSpared execution →
    GoesOn execution → ∀ n seq,
    seq < (execution.state n).history.length →
    (∀ later, ¬ Superseded (execution.state later).history seq) →
    ∃ later fate, n ≤ later ∧ (seq, fate) ∈ (execution.state later).fates ∧
      fate ≠ .coalesced

/-- In a run in which no handler drops what comes next, no value is lost. -/
theorem conserved_of_steps
    (steps : System.Steps (step options) Spared
      (new : LatestPending K T R E) scheduler) :
    Conserves options scheduler := by
  have both : Orderly options scheduler ∧ Tallied scheduler := by
    apply System.Steps.invariant steps
    · exact ⟨orderly_new, ⟨rfl, rfl, rfl, rfl, rfl, rfl⟩⟩
    · rintro state label next ⟨orderly, tallied⟩ spared taken
      exact ⟨orderly.step spared taken, tallied.step taken⟩
  obtain ⟨orderly, tallied⟩ := both
  constructor
  · have length := orderly.account.length_eq
    rw [List.length_append, List.length_map, List.length_range,
      length_fates] at length
    rw [tallied.scheduled, tallied.processed, tallied.coalesced,
      tallied.rejected, tallied.expired]
    exact length.symm
  · exact tallied
  · exact orderly.account
  · exact orderly.newer
  · intro execution starts spared goesOn n seq scheduled last
    rw [← starts] at orderly
    exact LatestPending.served orderly spared goesOn scheduled last

/-- Without the condition a value is lost: it came after its key's task was
taken up and before the task turned out to be too old. -/
theorem loses_next_of_expired :
    ∃ (options : ExecutionBudgets ℚ) (scheduler : LatestPending Nat Nat ℚ Nat),
      System.Steps (step options) (fun _ _ => True) new scheduler ∧
        scheduler.history = [(0, 7), (0, 8)] ∧
        scheduler.fates.map Prod.fst = [0] ∧ scheduler.outstanding = [] ∧
        scheduler.scheduled ≠
          scheduler.processed + scheduler.coalesced + scheduler.rejected +
            scheduler.expired + scheduler.outstanding.length := by
  let options := ExecutionBudgets.oneSlot 4 1 100 (by decide) (by decide)
  let at_ (now : ℚ) : SubmitTimes ℚ :=
    { checkedAt := now
      enqueuedAt := now }
  have decided :
      (System.run (step options) (fun _ _ => true)
        (new : LatestPending Nat Nat ℚ Nat)
        [.schedule 0 7 0 (at_ 0), .schedule 0 8 100 (at_ 100),
          .start 0 100 100, .complete 0, .handle 0 (at_ 100)]).any
        (fun scheduler =>
          scheduler.history = [(0, 7), (0, 8)] &&
            scheduler.fates.map Prod.fst = [0] &&
            scheduler.outstanding = [] &&
            scheduler.scheduled ≠
              scheduler.processed + scheduler.coalesced + scheduler.rejected +
                scheduler.expired + scheduler.outstanding.length) = true := by
    decide +kernel
  obtain ⟨scheduler, steps, ended⟩ := System.exists_of_run decided
  simp only [Bool.and_eq_true, decide_eq_true_eq] at ended
  obtain ⟨⟨⟨history, fates⟩, outstanding⟩, differs⟩ := ended
  exact ⟨options, scheduler, steps.mono fun _ _ _ => trivial, history, fates,
    outstanding, differs⟩

/-- `Spared`, as a check. -/
def keepsNext (scheduler : LatestPending K T R E)
    (label : SchedulerLabel K T R E) : Bool :=
  match label with
  | .handle id _ =>
    match scheduler.outcomeOf id with
    | some .expired =>
      ((scheduler.closures.get id).bind fun closure =>
        scheduler.objects.get closure.worker).all fun state =>
          state.next.isNone
    | _ => true
  | _ => true

omit [DecidableEq K] [JsNumber R] in
theorem spared_of_keepsNext (keeps : keepsNext scheduler label = true) :
    Spared scheduler label := by
  cases label with
  | handle id times =>
    intro closure state stored object expired
    rw [keepsNext, expired] at keeps
    simp only [stored, bind_some, object, Option.all_some,
      Option.isNone_iff_eq_none] at keeps
    exact keeps
  | _ => trivial

/-- Two values come while one is processed: the last of them is processed in
the end. -/
theorem conserved_of_newer_values :
    ∃ (options : ExecutionBudgets ℚ) (scheduler : LatestPending Nat Nat ℚ Nat)
      (execution : (Scheduling Nat Nat Nat options).Execution),
      Conserves options scheduler ∧ scheduler.outstanding = [2, 0] ∧
        scheduler.coalesced = 1 ∧ execution.state 0 = scheduler ∧
        ∃ later fate, (2, fate) ∈ (execution.state later).fates ∧
          fate ≠ .coalesced := by
  let options := ExecutionBudgets.oneSlot 4 1 100 (by decide) (by decide)
  let at_ (now : ℚ) : SubmitTimes ℚ :=
    { checkedAt := now
      enqueuedAt := now }
  let rest : List (SchedulerLabel Nat Nat ℚ Nat) :=
    [.settle 0 (.error 5), .complete 0, .handle 0 (at_ 4), .start 1 5 5,
      .settle 1 (.ok ()), .complete 1, .handle 1 (at_ 6)]
  have decided :
      (System.run (step options) keepsNext
        (new : LatestPending Nat Nat ℚ Nat)
        [.schedule 0 7 0 (at_ 0), .start 0 1 1, .schedule 0 8 2 (at_ 2),
          .schedule 0 9 3 (at_ 3)]).any
        (fun scheduler =>
          scheduler.outstanding = [2, 0] && scheduler.coalesced = 1 &&
            scheduler.history.length = 3 &&
            (System.run (step options) keepsNext scheduler rest).any fun last =>
              last.executor.inFlight.isEmpty &&
                last.closures.entries.isEmpty &&
                (List.range 8).all fun n =>
                  (System.trace (step options) scheduler rest
                    n).history.length = 3) = true := by
    decide +kernel
  obtain ⟨scheduler, steps, holds⟩ := System.exists_of_run decided
  simp only [Bool.and_eq_true, decide_eq_true_eq] at holds
  obtain ⟨⟨⟨outstanding, coalesced⟩, length⟩, runs⟩ := holds
  obtain ⟨last, executed, ended⟩ := (Option.any_eq_true _ _).mp runs
  simp only [Bool.and_eq_true, List.isEmpty_iff, List.all_eq_true,
    List.mem_range, decide_eq_true_eq] at ended
  obtain ⟨⟨landed, handled⟩, lengths⟩ := ended
  have conserves : Conserves options scheduler :=
    conserved_of_steps (steps.mono fun _ _ => spared_of_keepsNext)
  let execution : (Scheduling Nat Nat Nat options).Execution :=
    System.Execution.ofRun executed
  have ends : ∀ n, execution.state (n + 7) = last := by
    intro n
    exact System.trace_of_length_le executed (Nat.le_add_left 7 n)
  have spared : AlwaysSpared execution := by
    intro n label labelled
    exact spared_of_keepsNext (System.check_of_run executed labelled)
  have goesOn : GoesOn execution := by
    constructor
    · intro n key id _
      refine ⟨n + 7, Nat.le_add_right n 7, ?_⟩
      rw [ends]
      rintro ⟨flight, member, -⟩
      rw [landed] at member
      cases member
    · intro n id _
      refine ⟨n + 7, Nat.le_add_right n 7, ?_⟩
      rw [ends, OrderedMap.get, handled]
      rfl
  have history : ∀ n, (execution.state n).history.length = 3 := by
    intro n
    by_cases before : n < 8
    · exact lengths n before
    · obtain ⟨more, rfl⟩ := Nat.exists_eq_add_of_le (Nat.not_lt.mp before)
      have same : execution.state (8 + more) = execution.state 7 := by
        rw [Nat.add_comm, show more + 8 = more + 1 + 7 from rfl, ends]
        exact (ends 0).symm
      rw [same]
      exact lengths 7 (by decide)
  have latest : ∀ n, ¬ Superseded (execution.state n).history 2 := by
    rintro n ⟨newer, key, older, value, later, -, present⟩
    obtain ⟨inside, -⟩ := List.getElem?_eq_some_iff.mp present
    rw [history] at inside
    exact absurd later (Nat.not_lt.mpr (Nat.le_of_lt_succ inside))
  have start : execution.state 0 = scheduler := System.trace_zero _ _
  obtain ⟨later, fate, -, member, own⟩ :=
    conserves.served execution start spared goesOn 0 2 (by
      rw [history]
      decide) latest
  exact ⟨options, scheduler, execution, conserves, outstanding, coalesced,
    start, later, fate, member, own⟩

end LatestPending

end Eki.Work
