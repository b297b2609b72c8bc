import Eki.Work.FairTurns

/-!
# What an operation adds to the history

The turns and the flights only grow by dispatches, and the tasks of a key by
the one that is submitted.  The active task of a key is the last one that was
taken up.
-/

namespace Eki.Work

open Insertion Transition
open List (append_assoc append_nil filterMap_append)

variable {K R V E : Type} [DecidableEq K] [JsNumber R]

namespace Executor

variable {budgets : ExecutionBudgets R} {executor : Executor K R V E}

/-! ## Turns and flights -/

def Continues (executor after : Executor K R V E) : Prop :=
  ∃ more, after.turns = executor.turns ++ more

/-- Flights were added that nobody has looked at yet. -/
def TakesUp (executor after : Executor K R V E) : Prop :=
  ∃ more, after.inFlight = executor.inFlight ++ more ∧
    ∀ flight ∈ more, flight.stage = .dispatched

/-- No turn is undone, and no flight is lost. -/
structure Extends (executor after : Executor K R V E) : Prop where
  continues : Continues executor after
  takesUp : TakesUp executor after

variable {middle after : Executor K R V E}

section

omit [DecidableEq K] [JsNumber R]

theorem Continues.trans (first : Continues executor middle)
    (second : Continues middle after) : Continues executor after := by
  obtain ⟨front, early⟩ := first
  obtain ⟨back, late⟩ := second
  refine ⟨front ++ back, ?_⟩
  rw [late, early, append_assoc]

theorem Continues.same (turns : after.turns = executor.turns) :
    Continues executor after :=
  ⟨[], by rw [turns, append_nil]⟩

theorem TakesUp.same (inFlight : after.inFlight = executor.inFlight) :
    TakesUp executor after := by
  refine ⟨[], ?_, ?_⟩
  · rw [inFlight, append_nil]
  · intro flight member
    cases member

theorem TakesUp.trans (first : TakesUp executor middle)
    (second : TakesUp middle after) : TakesUp executor after := by
  obtain ⟨front, early, fresh⟩ := first
  obtain ⟨back, late, later⟩ := second
  refine ⟨front ++ back, ?_, ?_⟩
  · rw [late, early, append_assoc]
  · intro flight member
    rcases List.mem_append.mp member with before | after
    · exact fresh flight before
    · exact later flight after

theorem Extends.same (turns : after.turns = executor.turns)
    (inFlight : after.inFlight = executor.inFlight) : Extends executor after :=
  ⟨.same turns, .same inFlight⟩

theorem Extends.trans (first : Extends executor middle)
    (second : Extends middle after) : Extends executor after :=
  ⟨first.continues.trans second.continues, first.takesUp.trans second.takesUp⟩

end

omit [JsNumber R] in
theorem extends_serve (executor : Executor K R V E) (key : K)
    (rest : List K) : Extends executor (executor.serve key rest) := by
  unfold serve
  simp only
  split
  · exact .same rfl rfl
  · split
    · exact .same rfl rfl
    · split
      · exact .same rfl rfl
      · refine ⟨⟨_, rfl⟩, _, rfl, ?_⟩
        intro flight member
        rw [List.mem_singleton.mp member]

theorem extends_pump (budgets : ExecutionBudgets R)
    (executor : Executor K R V E) :
    Extends executor (executor.pump budgets) := by
  apply @pumpTurns_keeps K R V E _ _ budgets executor (Extends executor)
  · intro middle key rest before _ _
    exact before.trans (extends_serve middle key rest)
  · exact .same rfl rfl

omit [JsNumber R] in
theorem extends_markReady (executor : Executor K R V E) (key : K) :
    Extends executor (executor.markReady key) := by
  unfold markReady
  split
  · exact .same rfl rfl
  · exact ⟨⟨_, rfl⟩, .same rfl⟩

omit [JsNumber R] in
theorem continues_release (executor : Executor K R V E) (task : Task K R) :
    Continues executor (executor.release task) := by
  unfold release
  simp only
  split
  · exact .same rfl
  · split
    · exact .same rfl
    · exact Continues.trans (.same rfl) (extends_markReady _ _).continues

theorem continues_settle (budgets : ExecutionBudgets R)
    (executor : Executor K R V E) (task : Task K R) (outcome : Outcome V E) :
    Continues executor (executor.settle budgets task outcome) := by
  have released := continues_release executor task
  exact released.trans
    (Continues.trans (.same rfl) (extends_pump budgets _).continues)

theorem extends_run (budgets : ExecutionBudgets R)
    (executor : Executor K R V E) (key : K) (now : R) :
    Extends executor (executor.run budgets key now) := by
  unfold run
  split
  · exact .same rfl rfl
  · have enqueued : Extends executor (executor.enqueue key now) := by
      rw [enqueue_eq]
      split
      · have queued : Extends executor (executor.queued key now) :=
          .same rfl rfl
        exact queued.trans (extends_markReady _ key)
      · exact .same rfl rfl
    have pumped := enqueued.trans (extends_pump budgets _)
    exact pumped.trans (.same rfl rfl)

section

omit [JsNumber R]

theorem extends_expire (executor : Executor K R V E) (key : K) (id : Nat) :
    Extends executor (executor.expire key id) := by
  unfold expire
  split
  · exact .same rfl rfl
  · simp only
    split
    · exact .same rfl rfl
    · split
      · exact ⟨⟨_, rfl⟩, .same rfl⟩
      · exact .same rfl rfl

theorem extends_refreshPending (executor : Executor K R V E) (key : K)
    (id : Nat) (now : R) :
    Extends executor (executor.refreshPending key id now) := by
  unfold refreshPending
  split
  · exact .same rfl rfl
  · exact .same rfl rfl

/-- What was taken up stays taken up. -/
theorem Continues.dispatchedOf (continues : Continues executor after)
    (key : K) :
    ∃ more, after.dispatchedOf key = executor.dispatchedOf key ++ more := by
  obtain ⟨more, turns⟩ := continues
  refine ⟨more.filterMap (Turn.idOf key), ?_⟩
  unfold Executor.dispatchedOf
  rw [turns, filterMap_append]

end

/-- The slot of a flight is given back, and others are taken up. -/
theorem takesUp_settle (budgets : ExecutionBudgets R)
    (executor : Executor K R V E) (task : Task K R) (outcome : Outcome V E) :
    ∃ more, (executor.settle budgets task outcome).inFlight =
        (executor.inFlight.filter fun flight => flight.task.id != task.id) ++
          more ∧
      ∀ flight ∈ more, flight.stage = .dispatched := by
  obtain ⟨-, -, inFlight⟩ := release_frame executor task
  obtain ⟨more, added, fresh⟩ :=
    (extends_pump budgets (executor.landed task outcome)).takesUp
  refine ⟨more, ?_, fresh⟩
  have landed : (executor.landed task outcome).inFlight =
      executor.inFlight.filter fun flight => flight.task.id != task.id :=
    inFlight
  rw [landed] at added
  exact added

variable {flight : Flight K R V E}

omit [DecidableEq K] [JsNumber R] in
theorem flight_setStage {id : Nat} (found : executor.flight id = some flight)
    (stage : Stage V E) :
    (executor.setStage id stage).flight id = some { flight with stage } := by
  have named : (flight.task.id == id) = true :=
    beq_iff_eq.mpr (flight_id found)
  have looked : ((fun other : Flight K R V E => other.task.id == id) ∘
      fun other => if other.task.id == id then { other with stage }
        else other) = fun other => other.task.id == id := by
    funext other
    simp only [Function.comp]
    split <;> rfl
  unfold Executor.flight setStage at *
  rw [List.find?_map, looked, found, Option.map_some, if_pos named]

/-! ## The tasks of a key -/

theorem Kept.pump_tasksOf (kept : Kept budgets executor) (key : K) :
    (executor.pump budgets).tasksOf key = executor.tasksOf key := by
  have turn : ∀ (middle : Executor K R V E) first rest,
      middle.tasksOf key = executor.tasksOf key ∧ Kept budgets middle →
      middle.ready = first :: rest →
      middle.active < budgets.maxConcurrent →
      (middle.serve first rest).tasksOf key = executor.tasksOf key ∧
        Kept budgets (middle.serve first rest) := by
    rintro middle first rest ⟨same, kept⟩ ready free
    constructor
    · rw [kept.serve_tasksOf ready key]
      exact same
    · exact kept.serve ready free
  exact (pumpTurns_keeps turn executor.ready.length ⟨rfl, kept⟩).1

omit [JsNumber R] in
/-- Operations that take up nothing, and keep or shorten the queues. -/
theorem tasksOf_sublist (key : K)
    (dispatched : after.dispatchedOf key = executor.dispatchedOf key)
    (shorter : (after.pendingIds key).Sublist (executor.pendingIds key)) :
    (after.tasksOf key).Sublist (executor.tasksOf key) := by
  unfold tasksOf
  rw [dispatched]
  exact (List.Sublist.refl _).append shorter

omit [JsNumber R] in
theorem markReady_tasksOf (executor : Executor K R V E) (key other : K) :
    (executor.markReady key).tasksOf other = executor.tasksOf other := by
  unfold markReady
  split
  · rfl
  · unfold tasksOf dispatchedOf
    rw [filterMap_append]
    congr 1
    exact append_nil _

variable {key : K}

theorem Kept.run_tasksOf (kept : Kept budgets executor)
    (admitted : executor.canRun budgets key = true) (now : R) (other : K) :
    (executor.run budgets key now).tasksOf other =
      executor.tasksOf other ++
        if other = key then [executor.nextId] else [] := by
  have room : (executor.pendingOf key).length < budgets.maxPendingPerKey := by
    unfold canRun at admitted
    rw [Bool.and_eq_true] at admitted
    exact of_decide_eq_true admitted.2
  have queued : (executor.queued key now).tasksOf other =
      executor.tasksOf other ++
        if other = key then [executor.nextId] else [] := by
    unfold tasksOf
    rw [queued_pendingIds, ← append_assoc]
    rfl
  have enqueued : (executor.enqueue key now).tasksOf other =
      executor.tasksOf other ++
        if other = key then [executor.nextId] else [] := by
    rw [enqueue_eq]
    split
    · rw [markReady_tasksOf]
      exact queued
    · exact queued
  have pumped := (kept.enqueue key now room).pump_tasksOf other
  rw [enqueued] at pumped
  unfold run
  rw [admitted, if_neg (by simp)]
  exact pumped

theorem run_refused (refused : executor.canRun budgets key = false) (now : R) :
    executor.run budgets key now =
      { executor with rejected := executor.rejected + 1 } := by
  unfold run
  rw [refused]
  rfl

omit [JsNumber R] in
theorem expire_tasksOf (executor : Executor K R V E) (key : K) (id : Nat)
    (other : K) :
    ((executor.expire key id).tasksOf other).Sublist
      (executor.tasksOf other) := by
  unfold expire
  cases stored : executor.states.get key with
  | none => exact List.Sublist.refl _
  | some state =>
    have ids := pendingIds_stored stored
    simp only
    split
    · exact List.Sublist.refl _
    · have shorter : ((state.pending.eraseP fun task =>
          task.id == id).map Task.id).Sublist (executor.pendingIds key) := by
        rw [ids]
        exact (List.eraseP_sublist ..).map _
      split
      · apply tasksOf_sublist
        · unfold dispatchedOf
          rw [filterMap_append]
          exact append_nil _
        · exact sublist_put key none rfl (List.nil_sublist _) other
      · apply tasksOf_sublist
        · rfl
        · exact sublist_put key (some _) rfl shorter other

theorem Kept.settle_tasksOf (kept : Kept budgets executor)
    (member : flight ∈ executor.inFlight) (outcome : Outcome V E) (other : K) :
    ((executor.settle budgets flight.task outcome).tasksOf other).Sublist
      (executor.tasksOf other) := by
  obtain ⟨pending, stored⟩ := kept.active_of_flying member
  have ids := pendingIds_stored stored
  have pumped := (kept.landed member outcome).pump_tasksOf other
  have released : ((executor.release flight.task).tasksOf other).Sublist
      (executor.tasksOf other) := by
    unfold release
    rw [stored]
    simp only
    split
    · apply tasksOf_sublist
      · rfl
      · exact sublist_put flight.task.key none rfl (List.nil_sublist _) other
    · rw [markReady_tasksOf]
      apply tasksOf_sublist
      · rfl
      · apply sublist_put flight.task.key
          (some
            { active := none
              pending }) rfl
        rw [ids]
        exact List.Sublist.refl _
  have settled : (executor.settle budgets flight.task outcome).tasksOf other =
      (executor.release flight.task).tasksOf other := pumped
  rw [settled]
  exact released

omit [JsNumber R] in
theorem refreshPending_tasksOf (executor : Executor K R V E) (key : K)
    (id : Nat) (now : R) (other : K) :
    ((executor.refreshPending key id now).tasksOf other).Sublist
      (executor.tasksOf other) := by
  apply tasksOf_sublist
  · unfold refreshPending
    split
    · rfl
    · rfl
  · rw [refreshPending_pendingIds]

/-! ## Results and promises -/

theorem pump_frame (budgets : ExecutionBudgets R)
    (executor : Executor K R V E) :
    (executor.pump budgets).results = executor.results ∧
      (executor.pump budgets).settled = executor.settled ∧
      (executor.pump budgets).nextId = executor.nextId := by
  apply @pumpTurns_keeps K R V E _ _ budgets executor (fun last =>
    last.results = executor.results ∧ last.settled = executor.settled ∧
      last.nextId = executor.nextId)
  · intro middle head rest before _ _
    obtain ⟨results, settled, nextId⟩ := before
    rw [← results, ← settled, ← nextId]
    unfold serve
    simp only
    split
    · exact ⟨rfl, rfl, rfl⟩
    · split
      · exact ⟨rfl, rfl, rfl⟩
      · split
        · exact ⟨rfl, rfl, rfl⟩
        · exact ⟨rfl, rfl, rfl⟩
  · exact ⟨rfl, rfl, rfl⟩

theorem run_frame (budgets : ExecutionBudgets R)
    (executor : Executor K R V E) (key : K) (now : R) :
    (executor.run budgets key now).results = executor.results ∧
      (executor.run budgets key now).settled = executor.settled := by
  unfold run
  split
  · exact ⟨rfl, rfl⟩
  · obtain ⟨results, settled, -⟩ :=
      pump_frame budgets (executor.enqueue key now)
    have enqueued : (executor.enqueue key now).results = executor.results ∧
        (executor.enqueue key now).settled = executor.settled := by
      rw [enqueue_eq]
      split
      · obtain ⟨same, kept, -⟩ :=
          markReady_frame (executor.queued key now) key
        exact ⟨same, kept⟩
      · exact ⟨rfl, rfl⟩
    exact ⟨results.trans enqueued.1, settled.trans enqueued.2⟩

theorem run_nextId (admitted : executor.canRun budgets key = true) (now : R) :
    (executor.run budgets key now).nextId = executor.nextId + 1 := by
  have pumped := (pump_frame budgets (executor.enqueue key now)).2.2
  have enqueued : (executor.enqueue key now).nextId = executor.nextId + 1 := by
    rw [enqueue_eq]
    split
    · unfold markReady
      split
      · rfl
      · rfl
    · rfl
  unfold run
  rw [admitted, if_neg (by simp)]
  exact pumped.trans enqueued

theorem settle_frame (budgets : ExecutionBudgets R)
    (executor : Executor K R V E) (task : Task K R) (outcome : Outcome V E) :
    (executor.settle budgets task outcome).results = executor.results ∧
      (executor.settle budgets task outcome).settled =
        executor.settled ++ [(task.id, outcome)] := by
  obtain ⟨results, settled, -⟩ :=
    pump_frame budgets (executor.landed task outcome)
  obtain ⟨same, kept, -⟩ := release_frame executor task
  refine ⟨results.trans same, settled.trans ?_⟩
  unfold landed
  rw [kept]

/-! ## The active task -/

def LastTaken (executor : Executor K R V E) : Prop :=
  ∀ key state task, executor.states.get key = some state →
    state.active = some task →
    ∃ front, executor.dispatchedOf key = front ++ [task.id]

section

omit [JsNumber R]

theorem lastTaken_new : LastTaken (new : Executor K R V E) := by
  intro key state task stored
  cases stored

theorem LastTaken.put (last : LastTaken executor) (key : K)
    (state : Option (KeyState K R))
    (states : after.states = executor.states.put key state)
    (active : ∀ found task, state = some found → found.active = some task →
      ∃ before, executor.states.get key = some before ∧
        before.active = some task) (dispatched : ∀ other,
      after.dispatchedOf other = executor.dispatchedOf other) :
    LastTaken after := by
  intro other found task stored busy
  rw [dispatched]
  rw [states, OrderedMap.get_put] at stored
  split at stored
  · rename_i same
    subst same
    obtain ⟨before, had, worked⟩ := active found task stored busy
    exact last other before task had worked
  · exact last other found task stored busy

theorem LastTaken.same (last : LastTaken executor)
    (states : after.states = executor.states) (dispatched : ∀ other,
      after.dispatchedOf other = executor.dispatchedOf other) :
    LastTaken after := by
  intro other found task stored busy
  rw [states] at stored
  rw [dispatched]
  exact last other found task stored busy

theorem LastTaken.markReady (last : LastTaken executor) (key : K) :
    LastTaken (executor.markReady key) := by
  unfold Executor.markReady
  split
  · exact last
  · refine last.same rfl ?_
    intro other
    unfold dispatchedOf
    rw [filterMap_append]
    exact append_nil _

end

theorem LastTaken.serve (last : LastTaken executor)
    (kept : Kept budgets executor) {rest : List K}
    (ready : executor.ready = key :: rest) :
    LastTaken (executor.serve key rest) := by
  obtain ⟨task, pending, stored⟩ := kept.head_idle ready
  rw [serve_eq stored]
  intro other found active has busy
  unfold dispatchedOf
  rw [filterMap_append]
  by_cases same : other = key
  · subst same
    rw [OrderedMap.get_set_self] at has
    cases has
    cases busy
    refine ⟨executor.dispatchedOf other, ?_⟩
    congr 1
    simp only [List.filterMap_cons, List.filterMap_nil, Turn.idOf, if_true]
  · rw [OrderedMap.get_set_of_ne same] at has
    obtain ⟨front, taken⟩ := last other found active has busy
    refine ⟨front, ?_⟩
    have quiet : [Turn.dispatch key task.id].filterMap (Turn.idOf other) =
        [] := by
      simp only [List.filterMap_cons, List.filterMap_nil, Turn.idOf,
        if_neg (Ne.symm same)]
    rw [quiet, append_nil]
    exact taken

theorem LastTaken.pump (last : LastTaken executor)
    (kept : Kept budgets executor) : LastTaken (executor.pump budgets) := by
  have turn : ∀ (middle : Executor K R V E) first rest,
      LastTaken middle ∧ Kept budgets middle →
      middle.ready = first :: rest →
      middle.active < budgets.maxConcurrent →
      LastTaken (middle.serve first rest) ∧
        Kept budgets (middle.serve first rest) := by
    rintro middle first rest ⟨last, kept⟩ ready free
    exact ⟨last.serve kept ready, kept.serve ready free⟩
  exact (pumpTurns_keeps turn executor.ready.length ⟨last, kept⟩).1

theorem LastTaken.run (last : LastTaken executor)
    (kept : Kept budgets executor) (key : K) (now : R) :
    LastTaken (executor.run budgets key now) := by
  cases admitted : executor.canRun budgets key with
  | false =>
    rw [run_refused admitted]
    exact last.same rfl fun _ => rfl
  | true =>
    have room : (executor.pendingOf key).length <
        budgets.maxPendingPerKey := by
      unfold canRun at admitted
      rw [Bool.and_eq_true] at admitted
      exact of_decide_eq_true admitted.2
    have queued : LastTaken (executor.queued key now) := by
      apply last.put key (some (executor.joined key now)) rfl
      · intro found task same busy
        cases same
        obtain ⟨before, had, worked⟩ := Option.bind_eq_some_iff.mp busy
        exact ⟨before, had, worked⟩
      · intro other
        rfl
    have enqueued : LastTaken (executor.enqueue key now) := by
      rw [enqueue_eq]
      split
      · exact queued.markReady key
      · exact queued
    have pumped := enqueued.pump (kept.enqueue key now room)
    unfold Executor.run
    rw [admitted, if_neg (by simp)]
    exact pumped.same rfl fun _ => rfl

omit [JsNumber R] in
theorem LastTaken.expire (last : LastTaken executor) (key : K) (id : Nat) :
    LastTaken (executor.expire key id) := by
  unfold Executor.expire
  cases stored : executor.states.get key with
  | none => exact last
  | some state =>
    simp only
    split
    · exact last
    · split
      · apply last.put key none rfl
        · intro found task none
          cases none
        · intro other
          unfold dispatchedOf
          rw [filterMap_append]
          exact append_nil _
      · apply last.put key (some _) rfl
        · intro found task same busy
          cases same
          exact ⟨state, stored, busy⟩
        · intro other
          rfl

theorem LastTaken.settle (last : LastTaken executor)
    (kept : Kept budgets executor) (member : flight ∈ executor.inFlight)
    (outcome : Outcome V E) :
    LastTaken (executor.settle budgets flight.task outcome) := by
  obtain ⟨pending, stored⟩ := kept.active_of_flying member
  have released : LastTaken (executor.release flight.task) := by
    unfold release
    rw [stored]
    simp only
    split
    · apply last.put flight.task.key none rfl
      · intro found task none
        cases none
      · intro other
        rfl
    · apply LastTaken.markReady
      apply last.put flight.task.key
        (some
          { active := none
            pending }) rfl
      · intro found task same busy
        cases same
        cases busy
      · intro other
        rfl
  have landed : LastTaken (executor.landed flight.task outcome) :=
    released.same rfl fun _ => rfl
  exact landed.pump (kept.landed member outcome)

omit [JsNumber R] in
theorem LastTaken.refreshPending (last : LastTaken executor) (key : K)
    (id : Nat) (now : R) :
    LastTaken (executor.refreshPending key id now) := by
  unfold Executor.refreshPending
  cases stored : executor.states.get key with
  | none => exact last
  | some state =>
    apply last.put key (some _) rfl
    · intro found task same busy
      cases same
      exact ⟨state, stored, busy⟩
    · intro other
      rfl

/-! ## Any step -/

omit [JsNumber R] in
theorem release_nextId (executor : Executor K R V E) (task : Task K R) :
    (executor.release task).nextId = executor.nextId := by
  unfold release
  simp only
  split
  · rfl
  · split
    · rfl
    · unfold markReady
      split
      · rfl
      · rfl

variable {label : ExecutorLabel K R V E}

section

variable (taken : Executor.step budgets executor label = some after)

include taken

/-- Only a submission takes an id. -/
theorem step_nextId_eq (other : ∀ key now, label ≠ .run key now) :
    after.nextId = executor.nextId := by
  cases stepped_of_step taken with
  | run key now => exact absurd rfl (other key now)
  | overdue | calls | finishes => rfl
  | @settles id flight outcome =>
    have pumped :=
      (pump_frame budgets (executor.landed flight.task outcome)).2.2
    exact pumped.trans (release_nextId executor flight.task)
  | expire key id =>
    unfold Executor.expire
    split
    · rfl
    · simp only
      split
      · rfl
      · split
        · rfl
        · rfl
  | refreshPending key id now =>
    unfold Executor.refreshPending
    split
    · rfl
    · rfl

/-- Ids are not given out again. -/
theorem step_nextId : executor.nextId ≤ after.nextId := by
  by_cases runs : ∃ key now, label = .run key now
  · obtain ⟨key, now, rfl⟩ := runs
    cases taken
    cases admitted : executor.canRun budgets key with
    | false =>
      rw [run_refused admitted]
    | true =>
      rw [run_nextId admitted]
      exact Nat.le_succ _
  · apply Nat.le_of_eq
    symm
    apply step_nextId_eq taken
    intro key now same
    exact runs ⟨key, now, same⟩

theorem step_settled : ∀ entry ∈ executor.settled, entry ∈ after.settled := by
  intro entry member
  cases stepped_of_step taken with
  | run key now =>
    rw [(run_frame budgets executor key now).2]
    exact member
  | overdue | calls | finishes => exact member
  | @settles id flight outcome =>
    rw [(settle_frame budgets executor flight.task outcome).2]
    exact List.mem_append_left _ member
  | expire key id =>
    unfold Executor.expire
    split
    · exact member
    · simp only
      split
      · exact member
      · split
        · exact List.mem_append_left _ member
        · exact List.mem_append_left _ member
  | refreshPending key id now =>
    unfold Executor.refreshPending
    split
    · exact member
    · exact member

end

theorem Kept.step_tasksOf (kept : Kept budgets executor)
    (taken : Executor.step budgets executor label = some after) {id : Nat}
    (member : id ∈ after.tasksOf key) :
    id ∈ executor.tasksOf key ∨
      id = executor.nextId ∧ after.nextId = executor.nextId + 1 ∧
        ∃ now, label = .run key now := by
  cases stepped_of_step taken with
  | run other now =>
    cases admitted : executor.canRun budgets other with
    | false =>
      rw [run_refused admitted] at member
      exact Or.inl member
    | true =>
      rw [kept.run_tasksOf admitted now key] at member
      rcases List.mem_append.mp member with before | latest
      · exact Or.inl before
      · split at latest
        · rename_i same
          subst same
          exact Or.inr ⟨List.mem_singleton.mp latest,
            run_nextId admitted now, now, rfl⟩
        · cases latest
  | overdue | calls | finishes => exact Or.inl member
  | settles found =>
    exact Or.inl
      ((kept.settle_tasksOf (mem_of_flight found) _ key).subset member)
  | expire other id =>
    exact Or.inl ((expire_tasksOf executor other id key).subset member)
  | refreshPending other id now =>
    exact Or.inl
      ((refreshPending_tasksOf executor other id now key).subset member)

end Executor

end Eki.Work
