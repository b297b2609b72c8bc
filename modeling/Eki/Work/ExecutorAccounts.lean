import Eki.Work.KeyedExecutor

/-!
# The accounts of the executor

Counters, queues, the ring and the tasks in flight agree with one another
after every operation.  An operation changes the state of one key, so one lemma
says what such a change has to keep in balance.
-/

namespace Eki.Work

open Insertion Transition
open List (append_assoc append_nil count_append count_cons length_append
  length_cons length_map map_append map_cons map_map map_nil mem_append
  mem_cons mem_cons_self mem_singleton perm_iff_count)
open Option (getD_none getD_some isNone_iff_eq_none map_none map_some)
open OrderedMap (collect_get collect_put get_put get_set_self itemsOf
  mem_collect)

variable {K R V E : Type} [DecidableEq K] [JsNumber R]

structure KeyState.Fits (budgets : ExecutionBudgets R) (key : K)
    (state : KeyState K R) : Prop where
  pendingKeyed : ∀ task ∈ state.pending, task.key = key
  activeKeyed : ∀ task ∈ state.active, task.key = key
  busy : state.active = none → state.pending ≠ []
  perKey : state.pending.length ≤ budgets.maxPendingPerKey

def activeTasks (state : KeyState K R) : List (Task K R) :=
  state.active.toList

namespace Executor

variable {budgets : ExecutionBudgets R} {executor : Executor K R V E}

def waitingTasks (executor : Executor K R V E) : List (Task K R) :=
  executor.states.collect KeyState.pending

def flying (executor : Executor K R V E) : List (Task K R) :=
  executor.inFlight.map Flight.task

def settledIds (executor : Executor K R V E) : List Nat :=
  executor.settled.map Prod.fst

def Idle (executor : Executor K R V E) (key : K) : Prop :=
  ∃ state, executor.states.get key = some state ∧ state.active = none

/-- The accounts, up to what `pump` still has to do. -/
structure Kept (budgets : ExecutionBudgets R)
    (executor : Executor K R V E) : Prop where
  fits : ∀ key state, executor.states.get key = some state →
    state.Fits budgets key
  capacity : executor.active ≤ budgets.maxConcurrent
  active_eq : executor.active = executor.inFlight.length
  flights : executor.flying.Perm (executor.states.collect activeTasks)
  waiting_eq : executor.waiting = executor.waitingTasks.length
  ready_nodup : executor.ready.Nodup
  readySet_iff : ∀ key, key ∈ executor.readySet ↔ key ∈ executor.ready
  ready_iff : ∀ key, key ∈ executor.ready ↔ executor.Idle key
  ids : (executor.settledIds ++ executor.flying.map Task.id ++
      executor.waitingTasks.map Task.id).Perm (List.range executor.nextId)

theorem kept_new : Kept budgets (new : Executor K R V E) := by
  constructor
  · intro key state stored
    cases stored
  · exact Nat.zero_le _
  · rfl
  · exact List.Perm.refl _
  · rfl
  · exact List.nodup_nil
  · intro key
    exact Iff.rfl
  · intro key
    constructor
    · intro member
      cases member
    · rintro ⟨state, stored, -⟩
      cases stored
  · exact List.Perm.refl _

structure Change (budgets : ExecutionBudgets R) (before : Executor K R V E)
    (key : K) (state : Option (KeyState K R)) (after : Executor K R V E) :
    Prop where
  states : after.states = before.states.put key state
  fits : ∀ found, state = some found → found.Fits budgets key
  capacity : after.active ≤ budgets.maxConcurrent
  active_eq : after.active = after.inFlight.length
  flights : (after.flying ++
      OrderedMap.itemsOf activeTasks (before.states.get key)).Perm
    (before.flying ++ OrderedMap.itemsOf activeTasks state)
  waiting : after.waiting +
      (OrderedMap.itemsOf KeyState.pending (before.states.get key)).length =
    before.waiting + (OrderedMap.itemsOf KeyState.pending state).length
  ready_nodup : after.ready.Nodup
  readySet_iff : ∀ other, other ∈ after.readySet ↔ other ∈ after.ready
  others : ∀ other, other ≠ key → (other ∈ after.ready ↔ other ∈ before.ready)
  own : key ∈ after.ready ↔ ∃ found, state = some found ∧ found.active = none
  ids : ∃ fresh, List.range after.nextId = List.range before.nextId ++ fresh ∧
    (after.settledIds ++ after.flying.map Task.id ++
        (OrderedMap.itemsOf KeyState.pending state).map Task.id).Perm
      (before.settledIds ++ before.flying.map Task.id ++
        (OrderedMap.itemsOf KeyState.pending
          (before.states.get key)).map Task.id ++ fresh)

variable {after : Executor K R V E}

theorem Kept.change (kept : Kept budgets executor) (key : K)
    (state : Option (KeyState K R))
    (changed : Change budgets executor key state after) :
    Kept budgets after := by
  have got : ∀ other, after.states.get other =
      if other = key then state else executor.states.get other := by
    intro other
    rw [changed.states]
    exact get_put _ _ _ _
  have pendingAfter : after.waitingTasks.Perm
      (itemsOf KeyState.pending state ++
        (executor.states.delete key).collect KeyState.pending) := by
    unfold waitingTasks
    rw [changed.states]
    exact collect_put _ _ _ _
  have pendingBefore : executor.waitingTasks.Perm
      (itemsOf KeyState.pending (executor.states.get key) ++
        (executor.states.delete key).collect KeyState.pending) :=
    collect_get _ _ _
  constructor
  · intro other found stored
    rw [got] at stored
    split at stored
    · rename_i same
      rw [same]
      exact changed.fits found stored
    · exact kept.fits other found stored
  · exact changed.capacity
  · exact changed.active_eq
  · have activeAfter : (after.states.collect activeTasks).Perm
        (itemsOf activeTasks state ++
          (executor.states.delete key).collect activeTasks) := by
      rw [changed.states]
      exact collect_put _ _ _ _
    have activeBefore : (executor.states.collect activeTasks).Perm
        (itemsOf activeTasks (executor.states.get key) ++
          (executor.states.delete key).collect activeTasks) :=
      collect_get _ _ _
    have together := changed.flights
    have before := kept.flights
    classical
    rw [perm_iff_count] at together before activeAfter activeBefore ⊢
    intro task
    have one := together task
    have two := before task
    have three := activeAfter task
    have four := activeBefore task
    simp only [count_append] at one three four
    omega
  · have lengthAfter := pendingAfter.length_eq
    have lengthBefore := pendingBefore.length_eq
    have balance := changed.waiting
    have counted := kept.waiting_eq
    rw [length_append] at lengthAfter lengthBefore
    omega
  · exact changed.ready_nodup
  · exact changed.readySet_iff
  · intro other
    unfold Idle
    rw [got]
    by_cases same : other = key
    · rw [same, if_pos rfl]
      exact changed.own
    · rw [if_neg same, changed.others other same]
      exact kept.ready_iff other
  · obtain ⟨fresh, range, moved⟩ := changed.ids
    have idsAfter := pendingAfter.map Task.id
    have idsBefore := pendingBefore.map Task.id
    have before := kept.ids
    rw [range]
    rw [perm_iff_count] at idsAfter idsBefore before moved ⊢
    intro id
    have one := idsAfter id
    have two := idsBefore id
    have three := before id
    have four := moved id
    simp only [count_append, map_append] at one two three four ⊢
    omega

/-- Operations on flights and counters alone. -/
theorem Kept.frame (kept : Kept budgets executor)
    (states : after.states = executor.states)
    (ready : after.ready = executor.ready)
    (readySet : after.readySet = executor.readySet)
    (active : after.active = executor.active)
    (waiting : after.waiting = executor.waiting)
    (nextId : after.nextId = executor.nextId)
    (settled : after.settled = executor.settled)
    (flying : after.flying = executor.flying) : Kept budgets after := by
  have flights : after.inFlight.length = executor.inFlight.length := by
    have length := congrArg List.length flying
    unfold Executor.flying at length
    rw [length_map, length_map] at length
    exact length
  constructor
  · rw [states]
    exact kept.fits
  · rw [active]
    exact kept.capacity
  · rw [active, flights]
    exact kept.active_eq
  · rw [flying, states]
    exact kept.flights
  · unfold waitingTasks
    rw [waiting, states]
    exact kept.waiting_eq
  · rw [ready]
    exact kept.ready_nodup
  · rw [readySet, ready]
    exact kept.readySet_iff
  · unfold Idle
    rw [ready, states]
    exact kept.ready_iff
  · unfold settledIds waitingTasks
    rw [settled, flying, states, nextId]
    exact kept.ids

omit [DecidableEq K] [JsNumber R] in
theorem flying_setStage (executor : Executor K R V E) (id : Nat)
    (stage : Stage V E) :
    (executor.setStage id stage).flying = executor.flying := by
  unfold flying setStage
  rw [map_map]
  apply List.map_congr_left
  intro flight _
  show Flight.task (if _ then _ else _) = flight.task
  split <;> rfl

theorem Kept.setStage (kept : Kept budgets executor) (id : Nat)
    (stage : Stage V E) : Kept budgets (executor.setStage id stage) :=
  kept.frame rfl rfl rfl rfl rfl rfl rfl (flying_setStage executor id stage)

/-! ## A turn of `pump` -/

variable {key : K} {rest : List K}

theorem Kept.head_idle (kept : Kept budgets executor)
    (ready : executor.ready = key :: rest) :
    ∃ task pending, executor.states.get key =
      some
        { active := none
          pending := task :: pending } := by
  have member : key ∈ executor.ready := by
    rw [ready]
    exact mem_cons_self ..
  obtain ⟨⟨active, queue⟩, stored, idle⟩ := (kept.ready_iff key).mp member
  have waits := (kept.fits key _ stored).busy idle
  simp only at idle waits
  subst idle
  cases queue with
  | nil => exact absurd rfl waits
  | cons task pending => exact ⟨task, pending, stored⟩

omit [JsNumber R] in
theorem serve_eq {task : Task K R} {pending : List (Task K R)}
    (stored : executor.states.get key =
      some
        { active := none
          pending := task :: pending }) :
    executor.serve key rest =
      { executor with
        ready := rest
        readySet := executor.readySet.filter (· ≠ key)
        waiting := executor.waiting - 1
        active := executor.active + 1
        states :=
          executor.states.set key
            { active := some task
              pending }
        inFlight :=
          executor.inFlight ++
            [{ task
               stage := .dispatched }]
        turns := executor.turns ++ [.dispatch key task.id] } := by
  unfold serve
  rw [stored]
  rfl

theorem Kept.serve (kept : Kept budgets executor)
    (ready : executor.ready = key :: rest)
    (free : executor.active < budgets.maxConcurrent) :
    Kept budgets (executor.serve key rest) := by
  obtain ⟨task, pending, stored⟩ := kept.head_idle ready
  have fits := kept.fits key _ stored
  have nodup := kept.ready_nodup
  rw [ready, List.nodup_cons] at nodup
  rw [serve_eq stored]
  apply kept.change key
    (some
      { active := some task
        pending })
  constructor
  · rfl
  · intro found same
    cases same
    constructor
    · intro other member
      exact fits.pendingKeyed other (List.mem_cons_of_mem _ member)
    · intro other member
      cases member
      exact fits.pendingKeyed task (mem_cons_self ..)
    · intro idle
      cases idle
    · have most := fits.perKey
      simp only [length_cons] at most
      exact Nat.le_of_succ_le most
  · exact free
  · simp only [length_append, List.length_singleton]
    rw [kept.active_eq]
  · rw [stored]
    simp only [flying, map_append, map_cons, map_nil,
      itemsOf, map_some, getD_some, activeTasks,
      Option.toList_none, Option.toList_some, append_nil]
    exact List.Perm.refl _
  · have counted := kept.waiting_eq
    have many := (collect_get KeyState.pending executor.states key).length_eq
    rw [stored] at many ⊢
    simp only [itemsOf, map_some, getD_some,
      length_append, length_cons] at many ⊢
    unfold waitingTasks at counted
    omega
  · exact nodup.2
  · intro other
    simp only [List.mem_filter, decide_eq_true_eq]
    rw [kept.readySet_iff, ready, mem_cons]
    constructor
    · rintro ⟨same | later, different⟩
      · exact absurd same different
      · exact later
    · intro later
      refine ⟨Or.inr later, ?_⟩
      intro same
      rw [same] at later
      exact nodup.1 later
  · intro other different
    rw [ready, mem_cons]
    constructor
    · exact Or.inr
    · intro member
      exact member.resolve_left different
  · constructor
    · intro member
      exact absurd member nodup.1
    · rintro ⟨found, same, idle⟩
      cases same
      cases idle
  · refine ⟨[], (append_nil _).symm, ?_⟩
    rw [stored]
    simp only [flying, settledIds, map_append, map_cons,
      map_nil, itemsOf, map_some, getD_some,
      append_nil, append_assoc, List.cons_append, List.nil_append]
    exact List.Perm.refl _

theorem pumpTurns_keeps {holds : Executor K R V E → Prop}
    (turn : ∀ executor key rest, holds executor →
      executor.ready = key :: rest →
      executor.active < budgets.maxConcurrent →
      holds (executor.serve key rest))
    (turns : Nat) (start : holds executor) :
    holds (pumpTurns budgets turns executor) := by
  induction turns generalizing executor with
  | zero => exact start
  | succ turns induction =>
    unfold pumpTurns
    split
    · rename_i free
      split
      · exact start
      · rename_i key rest ready
        exact induction (turn executor key rest start ready free)
    · exact start

theorem Kept.pump (kept : Kept budgets executor) :
    Kept budgets (executor.pump budgets) := by
  apply pumpTurns_keeps
  · intro executor key rest kept ready free
    exact kept.serve ready free
  · exact kept

omit [JsNumber R] in
theorem serve_ready (executor : Executor K R V E) (key : K)
    (rest : List K) : (executor.serve key rest).ready = rest := by
  unfold serve
  simp only
  split
  · rfl
  · split
    · rfl
    · split <;> rfl

theorem pumpTurns_full (kept : Kept budgets executor) (turns : Nat)
    (enough : executor.ready.length ≤ turns) :
    (pumpTurns budgets turns executor).ready = [] ∨
      (pumpTurns budgets turns executor).active = budgets.maxConcurrent := by
  induction turns generalizing executor with
  | zero =>
    left
    exact List.length_eq_zero_iff.mp (Nat.le_zero.mp enough)
  | succ turns induction =>
    unfold pumpTurns
    split
    · rename_i free
      split
      · rename_i ready
        exact Or.inl ready
      · rename_i key rest ready
        apply induction (kept.serve ready free)
        rw [serve_ready]
        rw [ready, length_cons] at enough
        omega
    · rename_i full
      right
      have most := kept.capacity
      omega

theorem Kept.pump_full (kept : Kept budgets executor) :
    (executor.pump budgets).ready = [] ∨
      (executor.pump budgets).active = budgets.maxConcurrent :=
  pumpTurns_full kept _ (Nat.le_refl _)

/-! ## The other operations -/

def joined (executor : Executor K R V E) (key : K) (now : R) : KeyState K R :=
  { active := (executor.states.get key).bind KeyState.active
    pending := executor.pendingOf key ++
      [{ id := executor.nextId
         key
         enqueuedAt := now }] }

/-- The task is queued, its key not yet in the ring. -/
def queued (executor : Executor K R V E) (key : K) (now : R) :
    Executor K R V E :=
  { executor with
    nextId := executor.nextId + 1
    waiting := executor.waiting + 1
    states := executor.states.set key (executor.joined key now) }

omit [JsNumber R] in
theorem enqueue_eq (executor : Executor K R V E) (key : K) (now : R) :
    executor.enqueue key now =
      if ((executor.states.get key).bind KeyState.active).isNone then
        (executor.queued key now).markReady key
      else executor.queued key now := by
  unfold enqueue queued joined pendingOf
  cases executor.states.get key with
  | none | some => rfl

omit [DecidableEq K] [JsNumber R] in
theorem pending_itemsOf (state : Option (KeyState K R)) :
    itemsOf KeyState.pending state =
      (state.map KeyState.pending).getD [] := rfl

omit [JsNumber R] in
theorem queued_ids (executor : Executor K R V E) (key : K) (now : R) :
    ((executor.settledIds ++ executor.flying.map Task.id) ++
        (executor.joined key now).pending.map Task.id).Perm
      (executor.settledIds ++ executor.flying.map Task.id ++
        (itemsOf KeyState.pending
          (executor.states.get key)).map Task.id ++ [executor.nextId]) := by
  unfold joined pendingOf
  rw [← pending_itemsOf, map_append, append_assoc, append_assoc, append_assoc]
  exact List.Perm.refl _

theorem Kept.enqueue (kept : Kept budgets executor) (key : K) (now : R)
    (room : (executor.pendingOf key).length < budgets.maxPendingPerKey) :
    Kept budgets (executor.enqueue key now) := by
  have fits : ∀ found, some (executor.joined key now) = some found →
      found.Fits budgets key := by
    intro found same
    cases same
    constructor
    · intro task member
      rcases mem_append.mp member with before | last
      · unfold pendingOf at before
        cases stored : executor.states.get key with
        | none =>
          rw [stored] at before
          cases before
        | some state =>
          rw [stored] at before
          exact (kept.fits key state stored).pendingKeyed task before
      · rw [mem_singleton.mp last]
    · intro task member
      obtain ⟨state, stored, active⟩ := Option.bind_eq_some_iff.mp member
      exact (kept.fits key state stored).activeKeyed task active
    · intro _ none
      exact absurd none (by simp [joined])
    · unfold joined
      rw [length_append, List.length_singleton]
      exact room
  have flights : (executor.flying ++
      itemsOf activeTasks (executor.states.get key)).Perm
    (executor.flying ++
      itemsOf activeTasks (some (executor.joined key now))) := by
    apply List.Perm.of_eq
    unfold joined
    cases executor.states.get key <;> rfl
  have waiting : executor.waiting + 1 +
      (itemsOf KeyState.pending (executor.states.get key)).length =
    executor.waiting + (itemsOf KeyState.pending
      (some (executor.joined key now))).length := by
    unfold joined pendingOf
    rw [pending_itemsOf, pending_itemsOf]
    simp only [map_some, getD_some, length_append, List.length_singleton]
    omega
  have ids := executor.queued_ids key now
  have range : List.range (executor.nextId + 1) =
      List.range executor.nextId ++ [executor.nextId] := List.range_succ
  rw [enqueue_eq]
  split
  · rename_i idle
    have idle := isNone_iff_eq_none.mp idle
    by_cases known : executor.readySet.contains key = true
    · have member := (kept.readySet_iff key).mp (List.contains_iff_mem.mp known)
      have same : (executor.queued key now).markReady key =
          executor.queued key now := by
        unfold markReady
        rw [if_pos]
        exact known
      rw [same]
      apply kept.change key (some (executor.joined key now))
      exact
        { states := rfl
          fits
          capacity := kept.capacity
          active_eq := kept.active_eq
          flights
          waiting
          ready_nodup := kept.ready_nodup
          readySet_iff := kept.readySet_iff
          others := fun _ _ => Iff.rfl
          own := ⟨fun _ => ⟨_, rfl, idle⟩, fun _ => member⟩
          ids := ⟨_, range, ids⟩ }
    · have absent : key ∉ executor.ready := by
        intro member
        exact known (List.contains_iff_mem.mpr
          ((kept.readySet_iff key).mpr member))
      have added : (executor.queued key now).markReady key =
          { executor.queued key now with
            readySet := key :: executor.readySet
            ready := executor.ready ++ [key]
            turns := executor.turns ++ [.ready key] } := by
        unfold markReady
        rw [if_neg]
        · rfl
        · exact known
      rw [added]
      apply kept.change key (some (executor.joined key now))
      exact
        { states := rfl
          fits
          capacity := kept.capacity
          active_eq := kept.active_eq
          flights
          waiting
          ready_nodup := by
            rw [← List.concat_eq_append]
            exact List.Nodup.concat absent kept.ready_nodup
          readySet_iff := by
            intro other
            rw [mem_cons, mem_append, mem_singleton, kept.readySet_iff]
            exact Or.comm
          others := by
            intro other different
            rw [mem_append, mem_singleton]
            exact or_iff_left different
          own := ⟨fun _ => ⟨_, rfl, idle⟩,
            fun _ => List.mem_append_right _ (mem_singleton.mpr rfl)⟩
          ids := ⟨_, range, ids⟩ }
  · rename_i busy
    apply kept.change key (some (executor.joined key now))
    exact
      { states := rfl
        fits
        capacity := kept.capacity
        active_eq := kept.active_eq
        flights
        waiting
        ready_nodup := kept.ready_nodup
        readySet_iff := kept.readySet_iff
        others := fun _ _ => Iff.rfl
        own := by
          constructor
          · intro member
            obtain ⟨state, stored, idle⟩ := (kept.ready_iff key).mp member
            rw [stored] at busy
            exact absurd (isNone_iff_eq_none.mpr idle) busy
          · rintro ⟨found, same, idle⟩
            cases same
            exact absurd (isNone_iff_eq_none.mpr idle) busy
        ids := ⟨_, range, ids⟩ }

omit [DecidableEq K] [JsNumber R] in
theorem eraseP_perm {pending : List (Task K R)} {id : Nat}
    (waits : (pending.any fun task => task.id == id) = true) :
    ∃ task, task.id = id ∧
      pending.Perm (task :: pending.eraseP fun task => task.id == id) := by
  obtain ⟨found, member, same⟩ := List.any_eq_true.mp waits
  have taken := @List.exists_of_eraseP _
    (fun task : Task K R => task.id == id) _ _ member same
  obtain ⟨task, front, back, -, same, split, erased⟩ := taken
  refine ⟨task, beq_iff_eq.mp same, ?_⟩
  rw [erased, split]
  exact List.perm_middle

theorem Kept.expire (kept : Kept budgets executor) (key : K) (id : Nat) :
    Kept budgets (executor.expire key id) := by
  unfold Executor.expire
  cases stored : executor.states.get key with
  | none => exact kept
  | some state =>
    simp only
    cases waits : state.pending.any fun task => task.id == id with
    | false =>
      rw [if_pos (by rfl)]
      exact kept
    | true =>
      rw [if_neg (by simp)]
      obtain ⟨task, named, perm⟩ := eraseP_perm waits
      have fits := kept.fits key state stored
      have sublist : (state.pending.eraseP fun task =>
          task.id == id).Sublist state.pending := List.eraseP_sublist
      have shorter := perm.length_eq
      rw [length_cons] at shorter
      have counted := kept.waiting_eq
      have many := (collect_get KeyState.pending executor.states key).length_eq
      rw [stored, pending_itemsOf] at many
      simp only [map_some, getD_some, length_append]
        at many
      unfold waitingTasks at counted
      have ids : ((executor.settledIds ++ [id]) ++
          executor.flying.map Task.id ++
          (state.pending.eraseP fun task => task.id == id).map
            Task.id).Perm
          (executor.settledIds ++ executor.flying.map Task.id ++
            state.pending.map Task.id ++ []) := by
        have moved := perm.map Task.id
        rw [perm_iff_count] at moved ⊢
        intro other
        have here := moved other
        rw [map_cons, named, count_cons] at here
        simp only [count_append, count_cons, List.count_nil]
        omega
      split
      · rename_i last
        rw [Bool.and_eq_true, isNone_iff_eq_none, List.isEmpty_iff] at last
        have member : key ∈ executor.ready :=
          (kept.ready_iff key).mpr ⟨state, stored, last.1⟩
        rw [last.2] at ids shorter
        apply kept.change key none
        exact
          { states := rfl
            fits := by
              intro found none
              cases none
            capacity := kept.capacity
            active_eq := kept.active_eq
            flights := by
              apply List.Perm.of_eq
              rw [stored]
              unfold itemsOf activeTasks
              rw [map_some, getD_some, last.1]
              rfl
            waiting := by
              rw [stored]
              simp only [pending_itemsOf, map_some,
                getD_some, map_none, getD_none,
                List.length_nil] at shorter ⊢
              omega
            ready_nodup := kept.ready_nodup.erase key
            readySet_iff := by
              intro other
              rw [List.mem_filter, decide_eq_true_eq,
                kept.readySet_iff, kept.ready_nodup.mem_erase_iff]
              exact And.comm
            others := by
              intro other different
              exact List.mem_erase_of_ne different
            own := by
              rw [kept.ready_nodup.mem_erase_iff]
              constructor
              · intro kept
                exact absurd rfl kept.1
              · rintro ⟨found, none, -⟩
                cases none
            ids := by
              refine ⟨[], (append_nil _).symm, ?_⟩
              rw [stored]
              unfold settledIds at ids ⊢
              rw [map_append]
              exact ids }
      · rename_i more
        apply kept.change key
          (some
            { state with
              pending :=
                state.pending.eraseP fun task => task.id == id })
        exact
          { states := rfl
            fits := by
              intro found same
              cases same
              constructor
              · intro other member
                exact fits.pendingKeyed other (sublist.subset member)
              · exact fits.activeKeyed
              · intro idle none
                simp only at idle none
                rw [idle, none] at more
                exact more rfl
              · exact Nat.le_trans sublist.length_le fits.perKey
            capacity := kept.capacity
            active_eq := kept.active_eq
            flights := by
              rw [stored]
              exact List.Perm.refl _
            waiting := by
              rw [stored]
              simp only [pending_itemsOf, map_some, getD_some]
              omega
            ready_nodup := kept.ready_nodup
            readySet_iff := kept.readySet_iff
            others := fun _ _ => Iff.rfl
            own := by
              rw [kept.ready_iff key]
              constructor
              · rintro ⟨found, same, idle⟩
                rw [stored] at same
                cases same
                exact ⟨_, rfl, idle⟩
              · rintro ⟨found, same, idle⟩
                cases same
                exact ⟨state, stored, idle⟩
            ids := by
              refine ⟨[], (append_nil _).symm, ?_⟩
              rw [stored]
              unfold settledIds at ids ⊢
              rw [map_append]
              exact ids }

theorem Kept.nodup (kept : Kept budgets executor) :
    (executor.settledIds ++ executor.flying.map Task.id ++
      executor.waitingTasks.map Task.id).Nodup :=
  kept.ids.nodup_iff.mpr List.nodup_range

theorem Kept.flying_nodup (kept : Kept budgets executor) :
    (executor.inFlight.map fun flight => flight.task.id).Nodup := by
  have all := (List.nodup_append.mp kept.nodup).1
  have own := (List.nodup_append.mp all).2.1
  unfold flying at own
  rw [map_map] at own
  exact own

variable {flight : Flight K R V E}

theorem Kept.active_of_flying (kept : Kept budgets executor)
    (member : flight ∈ executor.inFlight) :
    ∃ pending, executor.states.get flight.task.key =
      some
        { active := some flight.task
          pending } := by
  have flying : flight.task ∈ executor.flying := List.mem_map_of_mem member
  obtain ⟨key, ⟨active, pending⟩, stored, active_is⟩ :=
    mem_collect.mp (kept.flights.mem_iff.mp flying)
  have active_is := Option.mem_toList.mp active_is
  have keyed := (kept.fits key _ stored).activeKeyed _ active_is
  simp only at active_is
  subst active_is
  exact ⟨pending, keyed ▸ stored⟩

/-- The slot of a task is given back and its promise settles. -/
def landed (executor : Executor K R V E) (task : Task K R)
    (outcome : Outcome V E) : Executor K R V E :=
  { executor.release task with
    settled := (executor.release task).settled ++ [(task.id, outcome)] }

theorem Kept.landed (kept : Kept budgets executor)
    (member : flight ∈ executor.inFlight) (outcome : Outcome V E) :
    Kept budgets (executor.landed flight.task outcome) := by
  obtain ⟨pending, stored⟩ := kept.active_of_flying member
  have fits := kept.fits _ _ stored
  have others : executor.inFlight.Perm (flight :: executor.inFlight.filter
      fun other => other.task.id != flight.task.id) := by
    have focus := OrderedMap.perm_focus
      (fun flight : Flight K R V E => flight.task.id) kept.flying_nodup member
    refine focus.trans (List.Perm.of_eq ?_)
    congr 2
    funext other
    simp [bne, Bool.beq_eq_decide_eq]
  have length := others.length_eq
  rw [length_cons] at length
  have tasks := others.map Flight.task
  have busy : flight.task.key ∉ executor.ready := by
    intro ready
    obtain ⟨state, same, idle⟩ := (kept.ready_iff _).mp ready
    rw [stored] at same
    cases same
    cases idle
  have capacity := kept.capacity
  have counted := kept.active_eq
  have ids : ((executor.settledIds ++ [flight.task.id]) ++
      (executor.inFlight.filter fun other =>
        other.task.id != flight.task.id).map (Task.id ∘ Flight.task)).Perm
      (executor.settledIds ++ executor.flying.map Task.id) := by
    have moved := tasks.map Task.id
    unfold flying
    rw [map_cons, map_cons, map_map, map_map] at moved
    rw [perm_iff_count] at moved ⊢
    intro id
    have here := moved id
    rw [count_cons] at here
    simp only [count_append, count_cons, List.count_nil, map_map]
    omega
  unfold Executor.landed release
  rw [stored]
  simp only
  split
  · rename_i last
    rw [List.isEmpty_iff] at last
    apply kept.change flight.task.key none
    exact
      { states := rfl
        fits := by
          intro found none
          cases none
        capacity := Nat.le_trans (Nat.sub_le _ _) capacity
        active_eq := by
          simp only
          omega
        flights := by
          rw [stored]
          unfold flying
          refine List.Perm.trans ?_ (tasks.symm.trans
            (List.Perm.of_eq (append_nil _).symm))
          exact List.perm_append_comm
        waiting := by
          rw [stored, last]
          rfl
        ready_nodup := kept.ready_nodup
        readySet_iff := kept.readySet_iff
        others := fun _ _ => Iff.rfl
        own := by
          constructor
          · intro ready
            exact absurd ready busy
          · rintro ⟨found, none, -⟩
            cases none
        ids := by
          refine ⟨[], (append_nil _).symm, ?_⟩
          rw [stored, last]
          unfold settledIds at ids ⊢
          unfold flying at ids ⊢
          simp only [map_append, map_cons, map_nil,
            map_map, pending_itemsOf, map_none, getD_none,
            map_some, getD_some, append_nil] at ids ⊢
          exact ids }
  · rename_i more
    have unlisted : executor.readySet.contains flight.task.key = false := by
      rw [Bool.eq_false_iff]
      intro listed
      exact busy ((kept.readySet_iff _).mp (List.contains_iff_mem.mp listed))
    unfold markReady
    rw [if_neg (by simpa using unlisted)]
    apply kept.change flight.task.key
      (some
        { active := none
          pending })
    exact
      { states := rfl
        fits := by
          intro found same
          cases same
          constructor
          · exact fits.pendingKeyed
          · intro task none
            cases none
          · intro _ none
            exact more (List.isEmpty_iff.mpr none)
          · exact fits.perKey
        capacity := Nat.le_trans (Nat.sub_le _ _) capacity
        active_eq := by
          simp only
          omega
        flights := by
          rw [stored]
          unfold flying
          refine List.Perm.trans ?_ (tasks.symm.trans
            (List.Perm.of_eq (append_nil _).symm))
          exact List.perm_append_comm
        waiting := by
          rw [stored]
          rfl
        ready_nodup := by
          rw [← List.concat_eq_append]
          exact List.Nodup.concat busy kept.ready_nodup
        readySet_iff := by
          intro other
          rw [mem_cons, mem_append, mem_singleton, kept.readySet_iff]
          exact Or.comm
        others := by
          intro other different
          rw [mem_append, mem_singleton]
          exact or_iff_left different
        own := ⟨fun _ => ⟨_, rfl, rfl⟩,
          fun _ => List.mem_append_right _ (mem_singleton.mpr rfl)⟩
        ids := by
          refine ⟨[], (append_nil _).symm, ?_⟩
          rw [stored]
          unfold settledIds at ids ⊢
          unfold flying at ids ⊢
          simp only [map_append, map_cons, map_nil,
            map_map, pending_itemsOf, map_some, getD_some,
            append_nil] at ids ⊢
          exact ids.append_right _ }

theorem Kept.refreshPending (kept : Kept budgets executor) (key : K)
    (id : Nat) (now : R) : Kept budgets (executor.refreshPending key id now) := by
  unfold Executor.refreshPending
  cases stored : executor.states.get key with
  | none => exact kept
  | some state =>
    have fits := kept.fits key state stored
    have sameIds : (state.pending.map fun task =>
        if task.id == id then { task with enqueuedAt := now }
        else task).map Task.id = state.pending.map Task.id := by
      rw [map_map]
      apply List.map_congr_left
      intro task _
      show Task.id (if _ then _ else _) = task.id
      split <;> rfl
    apply kept.change key
      (some
        { state with
          pending :=
            state.pending.map fun task =>
              if task.id == id then { task with enqueuedAt := now }
              else task })
    exact
      { states := rfl
        fits := by
          intro found same
          cases same
          constructor
          · intro task member
            obtain ⟨old, waits, rfl⟩ := List.mem_map.mp member
            have keyed := fits.pendingKeyed old waits
            split
            · exact keyed
            · exact keyed
          · exact fits.activeKeyed
          · intro idle none
            exact fits.busy idle (List.map_eq_nil_iff.mp none)
          · rw [length_map]
            exact fits.perKey
        capacity := kept.capacity
        active_eq := kept.active_eq
        flights := by
          rw [stored]
          exact List.Perm.refl _
        waiting := by
          rw [stored]
          simp only [pending_itemsOf, map_some, getD_some, length_map]
        ready_nodup := kept.ready_nodup
        readySet_iff := kept.readySet_iff
        others := fun _ _ => Iff.rfl
        own := by
          rw [kept.ready_iff key]
          constructor
          · rintro ⟨found, same, idle⟩
            rw [stored] at same
            cases same
            exact ⟨_, rfl, idle⟩
          · rintro ⟨found, same, idle⟩
            cases same
            exact ⟨state, stored, idle⟩
        ids := by
          refine ⟨[], (append_nil _).symm, ?_⟩
          rw [stored]
          simp only [pending_itemsOf, map_some, getD_some]
          rw [sameIds, append_nil]
          exact List.Perm.refl _ }

/-! ## Every operation -/

/-- The accounts between operations. -/
structure Sound (budgets : ExecutionBudgets R)
    (executor : Executor K R V E) : Prop extends Kept budgets executor where
  full : executor.ready = [] ∨ executor.active = budgets.maxConcurrent
  bounded : executor.waiting ≤ budgets.maxPending

omit [JsNumber R] in
theorem serve_waiting_le (executor : Executor K R V E) (key : K)
    (rest : List K) : (executor.serve key rest).waiting ≤ executor.waiting := by
  unfold serve
  simp only
  split
  · exact Nat.le_refl _
  · split
    · exact Nat.le_refl _
    · split
      · exact Nat.le_refl _
      · exact Nat.sub_le _ _

theorem pumpTurns_waiting_le (budgets : ExecutionBudgets R) (turns : Nat)
    (executor : Executor K R V E) :
    (pumpTurns budgets turns executor).waiting ≤ executor.waiting := by
  induction turns generalizing executor with
  | zero => exact Nat.le_refl _
  | succ turns induction =>
    unfold pumpTurns
    split
    · split
      · exact Nat.le_refl _
      · exact Nat.le_trans (induction _) (serve_waiting_le _ _ _)
    · exact Nat.le_refl _

theorem Kept.pump_waiting_lt (kept : Kept budgets executor)
    (free : executor.active < budgets.maxConcurrent)
    (ready : executor.ready ≠ []) :
    (executor.pump budgets).waiting < executor.waiting := by
  unfold Executor.pump
  cases ring : executor.ready with
  | nil => exact absurd ring ready
  | cons key rest =>
    obtain ⟨task, pending, stored⟩ := kept.head_idle ring
    have some_waiting : 0 < executor.waiting := by
      rw [kept.waiting_eq]
      apply List.length_pos_of_mem (a := task)
      exact mem_collect.mpr
        ⟨key, _, stored, mem_cons_self ..⟩
    rw [length_cons]
    unfold pumpTurns
    rw [if_pos free, ring]
    simp only
    have later := pumpTurns_waiting_le budgets rest.length
      (executor.serve key rest)
    have taken : (executor.serve key rest).waiting = executor.waiting - 1 := by
      rw [serve_eq stored]
    omega

theorem sound_new : Sound budgets (new : Executor K R V E) :=
  { kept_new with
    full := Or.inl rfl
    bounded := Nat.zero_le _ }

theorem Kept.pumped (kept : Kept budgets executor)
    (bounded : executor.waiting ≤ budgets.maxPending) :
    Sound budgets (executor.pump budgets) :=
  { kept.pump with
    full := kept.pump_full
    bounded := Nat.le_trans (pumpTurns_waiting_le _ _ _) bounded }

theorem Sound.frame (sound : Sound budgets executor)
    (kept : Kept budgets after) (ready : after.ready = executor.ready)
    (active : after.active = executor.active)
    (waiting : after.waiting ≤ executor.waiting) : Sound budgets after :=
  { kept with
    full := by
      rw [ready, active]
      exact sound.full
    bounded := Nat.le_trans waiting sound.bounded }

omit [JsNumber R] in
theorem enqueue_counts (executor : Executor K R V E) (key : K) (now : R) :
    (executor.enqueue key now).waiting = executor.waiting + 1 ∧
      (executor.enqueue key now).active = executor.active := by
  rw [enqueue_eq]
  split
  · unfold markReady
    split
    · exact ⟨rfl, rfl⟩
    · exact ⟨rfl, rfl⟩
  · exact ⟨rfl, rfl⟩

theorem Kept.absent (kept : Kept budgets executor)
    (inactive : executor.isActive key = false)
    (empty : executor.pendingOf key = []) :
    executor.states.get key = none := by
  unfold isActive at inactive
  unfold pendingOf at empty
  cases stored : executor.states.get key with
  | none => rfl
  | some state =>
    rw [stored] at inactive empty
    have idle : state.active = none := by
      simpa using inactive
    exact absurd empty ((kept.fits key state stored).busy idle)

theorem Sound.run (sound : Sound budgets executor) (key : K) (now : R) :
    Sound budgets (executor.run budgets key now) := by
  unfold Executor.run
  cases admitted : executor.canRun budgets key with
  | false =>
    rw [if_pos (by rfl)]
    exact sound.frame (sound.toKept.frame rfl rfl rfl rfl rfl rfl rfl rfl)
      rfl rfl (Nat.le_refl _)
  | true =>
    rw [if_neg (by simp)]
    unfold canRun at admitted
    simp only [Bool.and_eq_true, Bool.or_eq_true, Bool.not_eq_true',
      decide_eq_true_eq, List.isEmpty_iff] at admitted
    obtain ⟨place, room⟩ := admitted
    have kept := sound.toKept.enqueue key now room
    obtain ⟨waiting, active⟩ := executor.enqueue_counts key now
    have pumped : Sound budgets ((executor.enqueue key now).pump budgets) := by
      rcases place with ⟨⟨inactive, empty⟩, free⟩ | spare
      · have absent := sound.toKept.absent inactive empty
        have listed : key ∈ (executor.enqueue key now).ready := by
          rw [kept.ready_iff]
          refine ⟨executor.joined key now, ?_, ?_⟩
          · rw [enqueue_eq, absent]
            simp only [Option.bind_none, Option.isNone_none, if_true]
            unfold markReady
            split
            · exact get_set_self
            · exact get_set_self
          · unfold joined
            rw [absent]
            rfl
        have fewer := kept.pump_waiting_lt (by omega)
          (List.ne_nil_of_mem listed)
        exact
          { kept.pump with
            full := kept.pump_full
            bounded := by
              have most := sound.bounded
              omega }
      · exact kept.pumped (by omega)
    exact pumped.frame (pumped.toKept.frame rfl rfl rfl rfl rfl rfl rfl rfl)
      rfl rfl (Nat.le_refl _)

theorem Sound.settle (sound : Sound budgets executor)
    (member : flight ∈ executor.inFlight) (outcome : Outcome V E) :
    Sound budgets (executor.settle budgets flight.task outcome) := by
  have kept := sound.toKept.landed member outcome
  apply kept.pumped
  obtain ⟨pending, stored⟩ := sound.toKept.active_of_flying member
  have same : (executor.landed flight.task outcome).waiting =
      executor.waiting := by
    unfold Executor.landed release
    rw [stored]
    simp only
    split
    · rfl
    · unfold markReady
      split <;> rfl
  rw [same]
  exact sound.bounded

/-- What a task in flight settles with. -/
def Stage.outcome : Stage V E → Option (Outcome V E)
  | .overdue => some .expired
  | .finished result => some (.own result)
  | _ => none

/-- What one step of the executor does. -/
inductive Stepped (budgets : ExecutionBudgets R)
    (executor : Executor K R V E) :
    ExecutorLabel K R V E → Executor K R V E → Prop where
  | run (key : K) (now : R) :
      Stepped budgets executor (.run key now) (executor.run budgets key now)
  | overdue {id : Nat} {now : R} {task : Task K R}
      (found : executor.flight id =
        some
          { task
            stage := .dispatched }) :
      Stepped budgets executor (.start id now)
        { executor.setStage id .overdue with
          expired := executor.expired + 1 }
  | calls {id : Nat} {now : R} {task : Task K R}
      (found : executor.flight id =
        some
          { task
            stage := .dispatched }) :
      Stepped budgets executor (.start id now) (executor.setStage id .running)
  | finishes {id : Nat} {result : Except E V} {task : Task K R}
      (found : executor.flight id =
        some
          { task
            stage := .running }) :
      Stepped budgets executor (.finish id result)
        { executor.setStage id (.finished result) with
          results := executor.results ++ [(id, result)] }
  | settles {id : Nat} {flight : Flight K R V E} {outcome : Outcome V E}
      (found : executor.flight id = some flight)
      (ends : Stage.outcome flight.stage = some outcome) :
      Stepped budgets executor (.complete id)
        (executor.settle budgets flight.task outcome)
  | expire (key : K) (id : Nat) :
      Stepped budgets executor (.expire key id) (executor.expire key id)
  | refreshPending (key : K) (id : Nat) (now : R) :
      Stepped budgets executor (.refreshPending key id now)
        (executor.refreshPending key id now)

theorem stepped_of_step {label : ExecutorLabel K R V E}
    {next : Executor K R V E}
    (taken : Executor.step budgets executor label = some next) :
    Stepped budgets executor label next := by
  cases label with
  | run key now =>
    cases taken
    exact .run key now
  | start id now =>
    simp only [Executor.step, Executor.start] at taken
    split at taken
    · rename_i task found
      split at taken
      · cases taken
        exact .overdue found
      · cases taken
        exact .calls found
    · cases taken
  | finish id result =>
    simp only [Executor.step, Executor.finish] at taken
    split at taken
    · rename_i task found
      cases taken
      exact .finishes found
    · cases taken
  | complete id =>
    simp only [Executor.step, Executor.complete] at taken
    split at taken
    · rename_i found
      cases taken
      exact .settles found rfl
    · rename_i found
      cases taken
      exact .settles found rfl
    · cases taken
  | expire key id =>
    cases taken
    exact .expire key id
  | refreshPending key id now =>
    cases taken
    exact .refreshPending key id now

omit [DecidableEq K] [JsNumber R] in
theorem mem_of_flight {id : Nat} (found : executor.flight id = some flight) :
    flight ∈ executor.inFlight :=
  List.mem_of_find?_eq_some found

omit [JsNumber R] in
theorem expire_counts (executor : Executor K R V E) (key : K) (id : Nat) :
    (executor.expire key id).waiting ≤ executor.waiting ∧
      (executor.expire key id).active = executor.active ∧
      (executor.ready = [] → (executor.expire key id).ready = []) := by
  unfold Executor.expire
  split
  · exact ⟨Nat.le_refl _, rfl, fun none => none⟩
  · simp only
    split
    · exact ⟨Nat.le_refl _, rfl, fun none => none⟩
    · split
      · refine ⟨Nat.sub_le _ _, rfl, ?_⟩
        intro none
        simp only [none, List.erase_nil]
      · exact ⟨Nat.sub_le _ _, rfl, fun none => none⟩

theorem Sound.expire (sound : Sound budgets executor) (key : K) (id : Nat) :
    Sound budgets (executor.expire key id) := by
  obtain ⟨fewer, same, still⟩ := executor.expire_counts key id
  exact
    { sound.toKept.expire key id with
      full := by
        rw [same]
        exact sound.full.imp still (fun full => full)
      bounded := Nat.le_trans fewer sound.bounded }

omit [JsNumber R] in
theorem refreshPending_counts (executor : Executor K R V E) (key : K)
    (id : Nat) (now : R) :
    (executor.refreshPending key id now).ready = executor.ready ∧
      (executor.refreshPending key id now).active = executor.active ∧
      (executor.refreshPending key id now).waiting = executor.waiting := by
  unfold Executor.refreshPending
  split
  · exact ⟨rfl, rfl, rfl⟩
  · exact ⟨rfl, rfl, rfl⟩

/-- Every operation keeps the accounts. -/
theorem Sound.step {label : ExecutorLabel K R V E}
    {next : Executor K R V E} (sound : Sound budgets executor)
    (taken : Executor.step budgets executor label = some next) :
    Sound budgets next := by
  cases stepped_of_step taken with
  | run key now => exact sound.run key now
  | @overdue id =>
    exact sound.frame ((sound.toKept.setStage id .overdue).frame
      rfl rfl rfl rfl rfl rfl rfl rfl) rfl rfl (Nat.le_refl _)
  | @calls id =>
    exact sound.frame (sound.toKept.setStage id .running) rfl rfl
      (Nat.le_refl _)
  | @finishes id result =>
    exact sound.frame ((sound.toKept.setStage id (.finished result)).frame
      rfl rfl rfl rfl rfl rfl rfl rfl) rfl rfl (Nat.le_refl _)
  | settles found => exact sound.settle (mem_of_flight found) _
  | expire key id => exact sound.expire key id
  | refreshPending key id now =>
    obtain ⟨ready, active, waiting⟩ :=
      executor.refreshPending_counts key id now
    exact sound.frame (sound.toKept.refreshPending key id now) ready active
      (Nat.le_of_eq waiting)

end Executor

end Eki.Work
