import Eki.Library.Rounds
import Eki.Work.Promises

/-!
# The order of dispatches

Within a key tasks are taken up as they were submitted, and keys that wait take
turns.  The log of turns is what the ring went through, `pump` included.
-/

namespace Eki.Work

open Insertion Transition

variable {K R V E : Type} [DecidableEq K] [JsNumber R]

/-- What a turn does to the ring. -/
def Turn.event : Turn K → Rounds.Event K
  | .ready key => .joined key
  | .withdrawn key => .left key
  | .dispatch key _ => .served key

def Turn.idOf (key : K) : Turn K → Option Nat
  | .dispatch other id => if other = key then some id else none
  | _ => none

namespace Executor

variable {budgets : ExecutionBudgets R} {executor : Executor K R V E}

def pendingIds (executor : Executor K R V E) (key : K) : List Nat :=
  (executor.pendingOf key).map Task.id

/-- The tasks of a key that were taken up, in the order of their turns. -/
def dispatchedOf (executor : Executor K R V E) (key : K) : List Nat :=
  executor.turns.filterMap (Turn.idOf key)

/-- The log agrees with the ring and with the queues. -/
structure Fair (executor : Executor K R V E) : Prop where
  ring : Rounds.Replay [] (executor.turns.map Turn.event) executor.ready
  /-- The tasks of a key: those taken up, then those that wait. -/
  inOrder : ∀ key,
    (executor.dispatchedOf key ++ executor.pendingIds key).Pairwise (· < ·)
  below : ∀ key, ∀ id ∈ executor.dispatchedOf key ++ executor.pendingIds key,
    id < executor.nextId

omit [JsNumber R] in
theorem fair_new : Fair (new : Executor K R V E) := by
  constructor
  · exact .nil []
  · intro key
    exact List.Pairwise.nil
  · intro key id member
    cases member

variable {after : Executor K R V E}

section

omit [JsNumber R]

/-- Operations that dispatch nothing; tasks may leave their queues. -/
theorem Fair.advance (fair : Fair executor) (more : List (Turn K))
    (turns : after.turns = executor.turns ++ more)
    (quiet : ∀ key, more.filterMap (Turn.idOf key) = [])
    (ring : Rounds.Replay executor.ready (more.map Turn.event) after.ready)
    (queues : ∀ key, (after.pendingIds key).Sublist (executor.pendingIds key))
    (nextId : after.nextId = executor.nextId) : Fair after := by
  have fewer : ∀ key, (after.dispatchedOf key ++ after.pendingIds key).Sublist
      (executor.dispatchedOf key ++ executor.pendingIds key) := by
    intro key
    apply List.Sublist.append
    · unfold dispatchedOf
      rw [turns, List.filterMap_append, quiet key, List.append_nil]
    · exact queues key
  constructor
  · rw [turns, List.map_append]
    exact fair.ring.append ring
  · intro key
    exact List.Pairwise.sublist (fewer key) (fair.inOrder key)
  · intro key id member
    rw [nextId]
    exact fair.below key id ((fewer key).subset member)

theorem Fair.frame (fair : Fair executor)
    (turns : after.turns = executor.turns)
    (ready : after.ready = executor.ready) (queues : ∀ key,
      (after.pendingIds key).Sublist (executor.pendingIds key))
    (nextId : after.nextId = executor.nextId) : Fair after := by
  apply fair.advance []
  · rw [turns, List.append_nil]
  · intro key
    rfl
  · rw [ready]
    apply Rounds.Replay.nil
  · exact queues
  · exact nextId

theorem pendingIds_put {after : Executor K R V E} {key : K}
    {state : Option (KeyState K R)}
    (states : after.states = executor.states.put key state) (other : K) :
    after.pendingIds other =
      if other = key then
        ((state.map KeyState.pending).getD []).map Task.id
      else executor.pendingIds other := by
  unfold pendingIds pendingOf
  rw [states, OrderedMap.get_put]
  split
  · rfl
  · rfl

end

variable {key : K}

section

omit [JsNumber R]

theorem pendingIds_stored {state : KeyState K R}
    (stored : executor.states.get key = some state) :
    executor.pendingIds key = state.pending.map Task.id := by
  unfold pendingIds pendingOf
  rw [stored]
  rfl

theorem sublist_put (key : K) (state : Option (KeyState K R))
    (states : after.states = executor.states.put key state)
    (shorter : (((state.map KeyState.pending).getD []).map Task.id).Sublist
      (executor.pendingIds key)) (other : K) :
    (after.pendingIds other).Sublist (executor.pendingIds other) := by
  rw [pendingIds_put states]
  split
  · rename_i same
    rw [same]
    exact shorter
  · exact List.Sublist.refl _

theorem Fair.shorten (fair : Fair executor) (key : K)
    (state : Option (KeyState K R))
    (states : after.states = executor.states.put key state)
    (shorter : (((state.map KeyState.pending).getD []).map Task.id).Sublist
      (executor.pendingIds key)) (turns : after.turns = executor.turns)
    (ready : after.ready = executor.ready)
    (nextId : after.nextId = executor.nextId) : Fair after :=
  fair.frame turns ready (sublist_put key state states shorter) nextId

end

/-! ## A turn of `pump` -/

/-- The tasks of a key: those taken up, then those that wait. -/
def tasksOf (executor : Executor K R V E) (key : K) : List Nat :=
  executor.dispatchedOf key ++ executor.pendingIds key

/-- The task changes sides, and the order of both sides together stays. -/
theorem Kept.serve_tasksOf (kept : Kept budgets executor) {rest : List K}
    (ready : executor.ready = key :: rest) (other : K) :
    (executor.serve key rest).tasksOf other = executor.tasksOf other := by
  obtain ⟨task, pending, stored⟩ := kept.head_idle ready
  have ids := pendingIds_stored stored
  have states : (executor.serve key rest).states =
      executor.states.put key
        (some
          { active := some task
            pending }) := by
    rw [serve_eq stored]
    rfl
  have turns : (executor.serve key rest).turns =
      executor.turns ++ [.dispatch key task.id] := by
    rw [serve_eq stored]
  unfold tasksOf dispatchedOf
  rw [pendingIds_put states, turns, List.filterMap_append]
  by_cases same : other = key
  · subst same
    rw [if_pos rfl, ids, List.map_cons]
    simp only [List.filterMap_cons, List.filterMap_nil, Turn.idOf, if_true,
      List.append_assoc, List.cons_append, List.nil_append, Option.map_some,
      Option.getD_some]
  · have quiet : [Turn.dispatch key task.id].filterMap (Turn.idOf other) =
        [] := by
      simp only [List.filterMap_cons, List.filterMap_nil, Turn.idOf,
        if_neg (Ne.symm same)]
    rw [if_neg same, quiet, List.append_nil]

theorem Fair.serve (fair : Fair executor) (kept : Kept budgets executor)
    {rest : List K} (ready : executor.ready = key :: rest) :
    Fair (executor.serve key rest) := by
  obtain ⟨task, pending, stored⟩ := kept.head_idle ready
  constructor
  · have before := fair.ring
    rw [ready] at before
    rw [serve_eq stored, List.map_append]
    exact before.append (.single (.served key rest))
  · intro other
    have together := kept.serve_tasksOf ready other
    unfold tasksOf at together
    rw [together]
    exact fair.inOrder other
  · intro other id member
    have together := kept.serve_tasksOf ready other
    unfold tasksOf at together
    rw [together] at member
    rw [serve_eq stored]
    exact fair.below other id member

theorem Fair.pump (fair : Fair executor) (kept : Kept budgets executor) :
    Fair (executor.pump budgets) := by
  have turn : ∀ (executor : Executor K R V E) key rest,
      Fair executor ∧ Kept budgets executor →
      executor.ready = key :: rest →
      executor.active < budgets.maxConcurrent →
      Fair (executor.serve key rest) ∧
        Kept budgets (executor.serve key rest) := by
    rintro executor key rest ⟨fair, kept⟩ ready free
    exact ⟨fair.serve kept ready, kept.serve ready free⟩
  exact (pumpTurns_keeps turn _ ⟨fair, kept⟩).1

/-! ## The other operations -/

section

omit [JsNumber R]

theorem Fair.markReady (fair : Fair executor)
    (agrees : ∀ key, key ∈ executor.readySet ↔ key ∈ executor.ready)
    (key : K) : Fair (executor.markReady key) := by
  unfold Executor.markReady
  split
  · exact fair
  · rename_i absent
    apply fair.advance [.ready key] rfl
    · intro other
      rfl
    · apply Rounds.Replay.single
      apply Rounds.Turns.joined
      intro member
      apply absent
      rw [List.contains_iff_mem]
      exact (agrees key).mpr member
    · intro other
      exact List.Sublist.refl _
    · rfl

theorem queued_pendingIds (executor : Executor K R V E) (key : K) (now : R)
    (other : K) :
    (executor.queued key now).pendingIds other =
      executor.pendingIds other ++
        if other = key then [executor.nextId] else [] := by
  have put : (executor.queued key now).states =
      executor.states.put key (some (executor.joined key now)) := rfl
  rw [pendingIds_put put]
  split
  · rename_i same
    subst same
    unfold joined pendingIds
    rw [Option.map_some, Option.getD_some, List.map_append]
    rfl
  · rw [List.append_nil]

theorem Fair.queued (fair : Fair executor) (key : K) (now : R) :
    Fair (executor.queued key now) := by
  have tail := executor.queued_pendingIds key now
  have latest : ∀ other, ∀ id ∈
      executor.dispatchedOf other ++ executor.pendingIds other,
      ∀ last ∈ (if other = key then [executor.nextId] else []), id < last := by
    intro other id member last final
    split at final
    · rw [List.mem_singleton.mp final]
      exact fair.below other id member
    · cases final
  constructor
  · exact fair.ring
  · intro other
    rw [tail]
    show (executor.dispatchedOf other ++ _).Pairwise _
    rw [← List.append_assoc, List.pairwise_append]
    refine ⟨fair.inOrder other, ?_, latest other⟩
    split
    · exact List.pairwise_singleton _ _
    · exact List.Pairwise.nil
  · intro other id member
    rw [tail] at member
    rw [← List.append_assoc] at member
    rcases List.mem_append.mp member with before | last
    · exact Nat.lt_succ_of_lt (fair.below other id before)
    · split at last
      · rw [List.mem_singleton.mp last]
        exact Nat.lt_succ_self _
      · cases last

end

theorem Fair.run (fair : Fair executor) (kept : Kept budgets executor)
    (key : K) (now : R) : Fair (executor.run budgets key now) := by
  have unchanged : ∀ other, (executor.pendingIds other).Sublist
      (executor.pendingIds other) := fun other => List.Sublist.refl _
  unfold Executor.run
  cases admitted : executor.canRun budgets key with
  | false =>
    rw [if_pos (by rfl)]
    exact fair.frame rfl rfl unchanged rfl
  | true =>
    rw [if_neg (by simp)]
    have room : (executor.pendingOf key).length <
        budgets.maxPendingPerKey := by
      unfold canRun at admitted
      rw [Bool.and_eq_true] at admitted
      exact of_decide_eq_true admitted.2
    have enqueued : Fair (executor.enqueue key now) := by
      have queued := fair.queued key now
      rw [enqueue_eq]
      split
      · exact queued.markReady kept.readySet_iff key
      · exact queued
    have pumped := enqueued.pump (kept.enqueue key now room)
    exact pumped.frame rfl rfl (fun other => List.Sublist.refl _) rfl

omit [JsNumber R] in
theorem Fair.expire (fair : Fair executor) (key : K) (id : Nat) :
    Fair (executor.expire key id) := by
  unfold Executor.expire
  cases stored : executor.states.get key with
  | none => exact fair
  | some state =>
    have ids := pendingIds_stored stored
    simp only
    split
    · exact fair
    · have shorter : ((state.pending.eraseP fun task =>
          task.id == id).map Task.id).Sublist (executor.pendingIds key) := by
        rw [ids]
        exact (List.eraseP_sublist ..).map _
      split
      · refine fair.advance [.withdrawn key] rfl ?_ ?_ ?_ rfl
        · intro other
          rfl
        · exact .single (.left _ key)
        · exact sublist_put key none rfl (List.nil_sublist _)
      · exact fair.shorten key (some _) rfl shorter rfl rfl rfl

section

variable {flight : Flight K R V E} (fair : Fair executor)
  (kept : Kept budgets executor) (member : flight ∈ executor.inFlight)
  (outcome : Outcome V E)

include fair kept member outcome

/-- A key that is given back joins the ring, or is forgotten. -/
theorem Fair.landed : Fair (executor.landed flight.task outcome) := by
  obtain ⟨pending, stored⟩ := kept.active_of_flying member
  have ids := pendingIds_stored stored
  have released : Fair (executor.release flight.task) := by
    unfold release
    rw [stored]
    simp only
    split
    · exact fair.shorten flight.task.key none rfl (List.nil_sublist _)
        rfl rfl rfl
    · apply Fair.markReady
      · apply fair.shorten flight.task.key
          (some
            { active := none
              pending })
        · rfl
        · rw [ids]
          exact List.Sublist.refl _
        · rfl
        · rfl
        · rfl
      · exact kept.readySet_iff
  exact released.frame rfl rfl (fun other => List.Sublist.refl _) rfl

theorem Fair.settle : Fair (executor.settle budgets flight.task outcome) :=
  (fair.landed kept member outcome).pump (kept.landed member outcome)

end

omit [JsNumber R] in
/-- A task keeps its id when its age is set anew. -/
theorem refreshPending_pendingIds (executor : Executor K R V E) (key : K)
    (id : Nat) (now : R) (other : K) :
    (executor.refreshPending key id now).pendingIds other =
      executor.pendingIds other := by
  unfold Executor.refreshPending
  cases stored : executor.states.get key with
  | none => rfl
  | some state =>
    have same : (state.pending.map fun task =>
        if task.id == id then { task with enqueuedAt := now }
        else task).map Task.id = state.pending.map Task.id := by
      rw [List.map_map]
      apply List.map_congr_left
      intro task _
      show Task.id (if _ then _ else _) = task.id
      split <;> rfl
    simp only
    refine (@pendingIds_put K R V E _ executor _ key
      (some
        { state with
          pending := state.pending.map fun task =>
            if task.id == id then { task with enqueuedAt := now }
            else task }) rfl other).trans ?_
    rw [Option.map_some, Option.getD_some, same]
    split
    · rename_i own
      rw [own, pendingIds_stored stored]
    · rfl

omit [JsNumber R] in
theorem Fair.refreshPending (fair : Fair executor) (key : K) (id : Nat)
    (now : R) : Fair (executor.refreshPending key id now) := by
  have queues := executor.refreshPending_pendingIds key id now
  unfold Executor.refreshPending at queues ⊢
  split
  · exact fair
  · rename_i state stored
    rw [stored] at queues
    refine fair.frame rfl rfl ?_ rfl
    intro other
    rw [queues]

theorem Fair.step {label : ExecutorLabel K R V E}
    {next : Executor K R V E} (fair : Fair executor)
    (kept : Kept budgets executor)
    (taken : Executor.step budgets executor label = some next) :
    Fair next := by
  have unchanged : ∀ other, (executor.pendingIds other).Sublist
      (executor.pendingIds other) := fun other => List.Sublist.refl _
  cases stepped_of_step taken with
  | run key now => exact fair.run kept key now
  | overdue | calls | finishes => exact fair.frame rfl rfl unchanged rfl
  | settles found => exact fair.settle kept (mem_of_flight found) _
  | expire key id => exact fair.expire key id
  | refreshPending key id now => exact fair.refreshPending key id now

/-! ## Whole runs -/

structure Ordered (budgets : ExecutionBudgets R)
    (executor : Executor K R V E) : Prop where
  /-- Tasks of a key are taken up in the order of their submission. -/
  inOrder : ∀ key,
    (executor.dispatchedOf key ++ executor.pendingIds key).Pairwise (· < ·)
  /-- With a slot free, no key without an active task has work waiting. -/
  conserving : executor.active < budgets.maxConcurrent →
    ∀ key, executor.isActive key = false → executor.pendingOf key = []
  /-- The ring holds the idle keys that have work, each once. -/
  ring_nodup : executor.ready.Nodup
  ring_iff : ∀ key, key ∈ executor.ready ↔
    executor.isActive key = false ∧ executor.pendingOf key ≠ []
  ring_log : executor.ready = Rounds.ringAfter (executor.turns.map Turn.event)
  /-- Between two dispatches of a key, another key that was in the ring after
  the first and was not withdrawn is dispatched. -/
  roundRobin : ∀ front between back key first second other,
    executor.turns =
      front ++ .dispatch key first :: between ++ .dispatch key second :: back →
    other ≠ key →
    other ∈ Rounds.ringAfter
      ((front ++ [Turn.dispatch key first]).map Turn.event) →
    Turn.withdrawn other ∉ between →
    ∃ id, Turn.dispatch other id ∈ between

theorem Kept.ring_iff (kept : Kept budgets executor) (key : K) :
    key ∈ executor.ready ↔
      executor.isActive key = false ∧ executor.pendingOf key ≠ [] := by
  rw [kept.ready_iff]
  unfold Idle isActive pendingOf
  cases stored : executor.states.get key with
  | none => simp
  | some state =>
    have busy := (kept.fits key state stored).busy
    constructor
    · rintro ⟨found, same, idle⟩
      cases same
      rw [Option.any_some, idle]
      exact ⟨rfl, busy idle⟩
    · rintro ⟨inactive, -⟩
      refine ⟨state, rfl, ?_⟩
      simpa using inactive

theorem Sound.conserving (sound : Sound budgets executor)
    (free : executor.active < budgets.maxConcurrent) (key : K)
    (inactive : executor.isActive key = false) :
    executor.pendingOf key = [] := by
  by_contra waits
  have turn := (sound.toKept.ring_iff key).mpr ⟨inactive, waits⟩
  rcases sound.full with empty | full
  · rw [empty] at turn
    cases turn
  · omega

omit [JsNumber R] in
theorem Fair.roundRobin (fair : Fair executor)
    {front between back : List (Turn K)} {other : K} {first second : Nat}
    (turns : executor.turns =
      front ++ .dispatch key first :: between ++ .dispatch key second :: back)
    (different : other ≠ key) (member : other ∈ Rounds.ringAfter
      ((front ++ [Turn.dispatch key first]).map Turn.event))
    (stays : Turn.withdrawn other ∉ between) :
    ∃ id, Turn.dispatch other id ∈ between := by
  have ring := fair.ring
  have shape : executor.turns.map Turn.event =
      (front ++ [Turn.dispatch key first]).map Turn.event ++
        ((between.map Turn.event ++ [.served key]) ++
          back.map Turn.event) := by
    rw [turns]
    simp [Turn.event]
  rw [shape] at ring
  obtain ⟨middle, before, after⟩ := ring.split
  obtain ⟨later, during, -⟩ := after.split
  rw [before.ringAfter_eq] at member
  rw [List.map_append] at before
  have served := Rounds.Replay.served_between List.nodup_nil before during
    different member (by
      intro left
      obtain ⟨turn, inside, same⟩ := List.mem_map.mp left
      cases turn with
      | ready => cases same
      | withdrawn other =>
        cases same
        exact stays inside
      | dispatch => cases same)
  obtain ⟨turn, inside, same⟩ := List.mem_map.mp served
  cases turn with
  | ready | withdrawn => cases same
  | dispatch other id =>
    cases same
    exact ⟨id, inside⟩

/-- After any operations, whatever was dispatched was dispatched in order. -/
theorem ordered_of_steps
    (steps : System.Steps (Executor.step budgets) (fun _ _ => True)
      (Executor.new : Executor K R V E) executor) :
    Ordered budgets executor := by
  have both : Sound budgets executor ∧ Fair executor := by
    apply System.Steps.invariant steps ⟨sound_new, fair_new⟩
    rintro state label next ⟨sound, fair⟩ _ taken
    exact ⟨sound.step taken, fair.step sound.toKept taken⟩
  obtain ⟨sound, fair⟩ := both
  exact
    { inOrder := fair.inOrder
      conserving := sound.conserving
      ring_nodup := sound.ready_nodup
      ring_iff := sound.toKept.ring_iff
      ring_log := fair.ring.ringAfter_eq.symm
      roundRobin := by
        intro front between back key first second other turns different member
          stays
        exact fair.roundRobin turns different member stays }

/-- Two keys take turns in one slot. -/
theorem ordered_of_turns :
    ∃ (budgets : ExecutionBudgets ℚ) (executor : Executor Nat ℚ Nat Nat),
      Ordered budgets executor ∧
        executor.turns =
          [.ready 0, .dispatch 0 0, .ready 1, .ready 0, .dispatch 1 1,
            .dispatch 0 2] := by
  let budgets := ExecutionBudgets.oneSlot 8 2 5 (by decide) (by decide)
  have decided :
      (System.run (Executor.step budgets) (fun _ _ => true)
        (Executor.new : Executor Nat ℚ Nat Nat)
        [.run 0 0, .run 1 1, .run 0 1, .start 0 1, .finish 0 (.ok 3),
          .complete 0, .start 1 2, .finish 1 (.ok 4), .complete 1]).any
        (fun executor =>
          executor.turns =
            [.ready 0, .dispatch 0 0, .ready 1, .ready 0, .dispatch 1 1,
              .dispatch 0 2]) = true := by
    decide +kernel
  obtain ⟨executor, steps, ended⟩ := System.exists_of_run decided
  refine ⟨budgets, executor, ?_, of_decide_eq_true ended⟩
  exact ordered_of_steps (steps.mono fun _ _ _ => trivial)

end Executor

end Eki.Work
