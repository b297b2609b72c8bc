import Eki.Work.LatestAccounts

/-!
# The steps of the scheduler

A step leaves the accounts in order.  One handler does not: that of an expired
promise drops what comes next.
-/

namespace Eki.Work

open Insertion Transition
open List (append_nil count_append map_append map_cons map_nil mem_append
  mem_map mem_singleton perm_iff_count)
open Option (bind_eq_some_iff getD_some map_eq_some_iff map_some)
open OrderedMap (get_delete_of_ne get_delete_self get_of_get_delete
  get_set_of_ne get_set_self itemsOf)

variable {K T R E : Type} [DecidableEq K] [JsNumber R]

namespace LatestPending

variable {options : ExecutionBudgets R}
  {scheduler before after : LatestPending K T R E} {key : K}
  {worker id : Nat} {state : WorkerState T R}

/-! ## The worker of a key -/

section

omit [JsNumber R]

theorem heldAt_of_get {objects : OrderedMap Nat (WorkerState T R)}
    (stored : objects.get worker = some state) :
    heldAt objects worker = held state := by
  rw [heldAt, stored]
  rfl

theorem Attached.heldOf (attached : Attached scheduler key worker id state) :
    scheduler.heldOf key = held state := by
  rw [LatestPending.heldOf, attached.stored]
  exact heldAt_of_get attached.object

theorem heldOf_of_none (absent : scheduler.workers.get key = none) :
    scheduler.heldOf key = [] := by
  rw [heldOf, absent]
  rfl

end

theorem Orderly.only (orderly : Orderly options scheduler)
    (attached : Attached scheduler key worker id state) (other : Nat)
    (closure : Closure K)
    (stored : scheduler.closures.get other = some closure)
    (same : closure.key = key) : other = id := by
  obtain ⟨found, second⟩ := orderly.closed other closure stored
  have stored := second.stored
  rw [same, attached.stored] at stored
  cases stored
  have object := second.object
  rw [attached.object] at object
  cases object
  have promise := second.promise
  rw [attached.promise] at promise
  cases promise
  rfl

theorem Orderly.unshared (orderly : Orderly options scheduler)
    (stored : scheduler.workers.get key = some worker) (other : K)
    (different : other ≠ key) : scheduler.workers.get other ≠ some worker := by
  intro shared
  exact different (orderly.distinct other key worker shared stored)

theorem Orderly.vacant (orderly : Orderly options scheduler)
    (ends : ∀ id closure, scheduler.closures.get id = some closure →
      closure.key = key → id ∈ scheduler.executor.settledIds) :
    scheduler.executor.states.get key = none := by
  have kept := orderly.sound.toKept
  cases found : scheduler.executor.states.get key with
  | none => rfl
  | some state =>
    obtain ⟨id, located⟩ := kept.exists_located found
    obtain ⟨lower, unsettled⟩ := kept.lt_of_located located
    obtain ⟨closure, stored⟩ := orderly.accepted id lower unsettled
    obtain ⟨state, attached⟩ := orderly.closed id closure stored
    obtain ⟨bound, lives⟩ := attached.lives
    rcases kept.located_of_lives lives with settled | there
    · exact absurd settled unsettled
    · exact absurd
        (ends id closure stored (kept.key_of_located there located))
        unsettled

/-! ## The executor alone -/

/-- What a step keeps that changes no worker. -/
structure Works (options : ExecutionBudgets R)
    (before after : LatestPending K T R E) : Prop where
  executor : Advances options before.executor after.executor fun id =>
    before.closures.get id = none
  workers : after.workers = before.workers
  objects : after.objects = before.objects
  closures : after.closures = before.closures
  nextWorker : after.nextWorker = before.nextWorker
  history : after.history = before.history
  nextId : after.executor.nextId = before.executor.nextId
  running : ∀ id task, after.processing.get id = some task →
    ∃ flight ∈ after.executor.inFlight,
      flight.task.id = id ∧ flight.stage = .running
  balance : (after.fates.map Prod.fst ++ after.processingSeqs).Perm
    (before.fates.map Prod.fst ++ before.processingSeqs)
  newer : ∀ seq, (seq, Fate.coalesced) ∈ after.fates →
    (seq, Fate.coalesced) ∈ before.fates

theorem Works.attached (works : Works options before after)
    (attached : Attached before key worker id state) :
    Attached after key worker id state := by
  constructor
  · rw [works.workers]
    exact attached.stored
  · rw [works.objects]
    exact attached.object
  · rw [works.closures]
    exact attached.closure
  · exact attached.promise
  · rw [attached.started, works.executor.begun]
    intro absent
    rw [attached.closure] at absent
    cases absent
  · obtain ⟨bound, lives⟩ := attached.lives
    exact ⟨bound, works.executor.lives bound key id lives⟩
  · rw [works.history]
    exact attached.submitted
  · rw [works.history]
    exact attached.next

theorem Orderly.work (orderly : Orderly options before)
    (works : Works options before after) : Orderly options after := by
  constructor
  · exact works.executor.sound
  · intro key worker stored
    rw [works.workers] at stored
    obtain ⟨id, state, attached⟩ := orderly.attached key worker stored
    exact ⟨id, state, works.attached attached⟩
  · intro id closure stored
    rw [works.closures] at stored
    obtain ⟨state, attached⟩ := orderly.closed id closure stored
    exact ⟨state, works.attached attached⟩
  · rw [works.workers]
    exact orderly.distinct
  · rw [works.workers, works.nextWorker]
    exact orderly.below
  · intro id lower unsettled
    rw [works.nextId] at lower
    rw [works.closures]
    apply orderly.accepted id lower
    intro settled
    exact unsettled (works.executor.settled id settled)
  · exact works.running
  · have account := orderly.account
    have balance := works.balance
    rw [works.history]
    have shape : ∀ scheduler : LatestPending K T R E, scheduler.outstanding =
        scheduler.workers.collect (heldAt scheduler.objects) ++
          scheduler.processingSeqs := by
      intro scheduler
      rfl
    rw [shape] at account ⊢
    rw [works.workers, works.objects]
    rw [perm_iff_count] at account balance ⊢
    intro seq
    have one := account seq
    have two := balance seq
    simp only [count_append] at one two ⊢
    omega
  · intro seq member
    rw [works.history]
    exact orderly.newer seq (works.newer seq member)

variable {last : Executor K R Unit Empty}

variable {label : ExecutorLabel K R Unit Empty}

section

variable (orderly : Orderly options before)
  (taken : Executor.step options.latest before.executor label = some last)

include orderly taken

/-- Works that run go on when the executor completes, expires or dispatches
others. -/
theorem Orderly.running_step {id : Nat} {task : PendingTask T R}
    (stored : before.processing.get id = some task)
    (goes_on : ∀ result, label ≠ .finish id result) :
    ∃ flight ∈ last.inFlight, flight.task.id = id ∧
      flight.stage = .running := by
  obtain ⟨flight, member, named, runs⟩ := orderly.running id task stored
  subst named
  exact ⟨flight,
    orderly.sound.toKept.running_step member runs taken goes_on, rfl, runs⟩

theorem Orderly.executes (accepts : ∀ key now, label ≠ .run key now)
    (goes_on : ∀ id result, label ≠ .finish id result)
    (calls : ∀ id now task, label = .start id now →
      last.flight id =
        some
          { task
            stage := .running } →
      before.closures.get id = none) :
    Works options before { before with executor := last } := by
  have kept := orderly.sound.toKept
  have executor : Advances options before.executor last fun id =>
      before.closures.get id = none := by
    constructor
    · exact orderly.sound.step taken
    · intro bound key id lives
      exact lives.step kept taken
    · intro id settled
      obtain ⟨entry, member, same⟩ := mem_map.mp settled
      exact mem_map.mpr
        ⟨entry, Executor.step_settled taken entry member, same⟩
    · intro id opened
      rw [kept.begun_step taken]
      constructor
      · rintro (begun | ⟨⟨now, started⟩, task, flies⟩)
        · exact begun
        · exact absurd (calls id now task started flies) opened
      · exact Or.inl
    · intro other task bound key id aboard next
      exact nearer_of_step orderly.sound taken aboard next
  exact
    { executor
      workers := rfl
      objects := rfl
      closures := rfl
      nextWorker := rfl
      history := rfl
      nextId := Executor.step_nextId_eq taken accepts
      running := fun id task stored =>
        orderly.running_step taken stored (goes_on id)
      balance := List.Perm.refl _
      newer := fun _ member => member }

end

theorem Orderly.complete (orderly : Orderly options before)
    (taken : before.complete options id = some after) :
    Works options before after := by
  obtain ⟨last, done, same⟩ := map_eq_some_iff.mp taken
  subst same
  have step : Executor.step options.latest before.executor (.complete id) =
      some last := done
  apply orderly.executes step
  · intro key now same
    cases same
  · intro id result same
    cases same
  · intro id now task same
    cases same

theorem Orderly.expire (orderly : Orderly options before) (key : K)
    (id : Nat) : Works options before (before.expire key id) := by
  have step : Executor.step options.latest before.executor (.expire key id) =
      some (before.executor.expire key id) := rfl
  apply orderly.executes step
  · intro key now same
    cases same
  · intro id result same
    cases same
  · intro id now task same
    cases same

/-! ## A call of `processTask` settles -/

theorem Orderly.settle (orderly : Orderly options before)
    {result : Except E Unit} (taken : before.settle id result = some after) :
    Works options before after := by
  have kept := orderly.sound.toKept
  obtain ⟨task, stored, rest⟩ := bind_eq_some_iff.mp taken
  obtain ⟨last, done, same⟩ := map_eq_some_iff.mp rest
  subst same
  have step : Executor.step options.latest before.executor
      (.finish id (.ok ())) = some last := done
  have executor : Advances options before.executor last fun id =>
      before.closures.get id = none := by
    apply advances_of_step orderly.sound step
    intro id now same
    cases same
  refine ⟨executor, rfl, rfl, rfl, rfl, rfl, ?_, ?_, ?_, ?_⟩
  · apply Executor.step_nextId_eq step
    intro key now same
    cases same
  · intro other found present
    have different : other ≠ id := by
      rintro rfl
      rw [get_delete_self] at present
      cases present
    rw [get_delete_of_ne different] at present
    apply orderly.running_step step present
    intro result same
    cases same
    exact different rfl
  · have moved := OrderedMap.collect_of_get
      (fun task : PendingTask T R => [task.seq]) stored
    rw [map_append, List.append_assoc]
    exact (moved.symm).append_left _
  · intro seq member
    rcases mem_append.mp member with known | last
    · exact known
    · cases mem_singleton.mp last

/-! ## Submissions -/

variable {closure : Closure K}

theorem Orderly.closure_lt (orderly : Orderly options scheduler)
    (stored : scheduler.closures.get id = some closure) :
    id < scheduler.executor.nextId := by
  have kept := orderly.sound.toKept
  obtain ⟨state, attached⟩ := orderly.closed id closure stored
  obtain ⟨bound, lives⟩ := attached.lives
  rcases kept.located_of_lives lives with settled | located
  · exact kept.lt_of_settled settled
  · exact (kept.lt_of_located located).1

/-- A worker is about to submit its only value, and has no promise. -/
structure Opens (key : K) (worker : Nat) (state : WorkerState T R)
    (before opened : LatestPending K T R E) : Prop extends
    Apart key before opened where
  executor : opened.executor = before.executor
  stored : opened.workers.get key = some worker
  closed : ∀ id closure, opened.closures.get id = some closure →
    closure.key ≠ key
  unshared : ∀ other, other ≠ key → before.workers.get other ≠ some worker
  lower : worker < opened.nextWorker
  nextWorker : before.nextWorker ≤ opened.nextWorker
  accepted : ∀ id, id < before.executor.nextId →
    id ∉ before.executor.settledIds →
    ∃ closure, opened.closures.get id = some closure
  processing : opened.processing = before.processing
  fates : opened.fates = before.fates
  submitted : Known opened.history key state.submitted
  last : state.next = none
  fresh : ∃ fresh, List.range opened.history.length =
      List.range before.history.length ++ fresh ∧
    [state.submitted.seq].Perm (before.heldOf key ++ fresh)
  vacant : before.executor.states.get key = none

variable {opened : LatestPending K T R E}

omit [JsNumber R] in
theorem Opens.objects_set (opens : Opens key worker state before opened)
    (object : WorkerState T R) (other : K) (there : Nat)
    (different : other ≠ key)
    (stored : before.workers.get other = some there) :
    (opened.objects.set worker object).get there =
      before.objects.get there := by
  have apart : there ≠ worker := by
    rintro rfl
    exact opens.unshared other different stored
  rw [get_set_of_ne apart]
  exact opens.objects other there different stored

omit [JsNumber R] in
theorem Opens.gives_up (opens : Opens key worker state before opened)
    (fate : Fate E) :
    ∃ fresh, List.range opened.history.length =
        List.range before.history.length ++ fresh ∧
      ((opened.fates ++ [(state.submitted.seq, fate)]).map Prod.fst ++ [] ++
          opened.processingSeqs).Perm
        (before.fates.map Prod.fst ++ before.heldOf key ++
          before.processingSeqs ++ fresh) := by
  obtain ⟨fresh, range, held⟩ := opens.fresh
  refine ⟨fresh, range, ?_⟩
  rw [opens.fates, processingSeqs, opens.processing]
  rw [perm_iff_count] at held ⊢
  intro seq
  have one := held seq
  simp only [map_append, map_cons, map_nil, count_append,
    List.count_nil, processingSeqs] at one ⊢
  omega

theorem Orderly.submitted (orderly : Orderly options before)
    (opens : Opens key worker state before opened) (times : SubmitTimes R) :
    Touches options key before
      (opened.submit options key worker state times) := by
  have kept := orderly.sound.toKept
  have deleted : ∀ other, other ≠ key →
      (opened.workers.delete key).get other = before.workers.get other := by
    intro other different
    rw [get_delete_of_ne different]
    exact opens.workers other different
  have step : Executor.step options.latest before.executor
      (.run key times.enqueuedAt) =
        some (before.executor.run options.latest key times.enqueuedAt) := rfl
  have ran : Advances options before.executor
      (before.executor.run options.latest key times.enqueuedAt) fun id =>
        ∃ closure, before.closures.get id = some closure ∧
          closure.key = key := by
    apply advances_of_step orderly.sound step
    intro id now same
    cases same
  have running : ∀ id task, before.processing.get id = some task →
      ∃ flight ∈ (before.executor.run options.latest key
        times.enqueuedAt).inFlight,
          flight.task.id = id ∧ flight.stage = .running := by
    intro id task stored
    apply orderly.running_step step stored
    intro result same
    cases same
  have same : opened.executor = before.executor := opens.executor
  simp only [submit, same]
  split
  · constructor
    · constructor
      · exact deleted
      · exact opens.objects_set state
      · exact opens.closures
      · exact opens.history
    · exact Advances.refl orderly.sound _
    · exact Or.inl ⟨get_delete_self, opens.closed⟩
    · exact opens.nextWorker
    · exact opens.accepted
    · rw [opens.processing]
      exact orderly.running
    · have absent : (opened.workers.delete key).get key = none :=
        get_delete_self
      rw [heldOf_of_none absent]
      exact opens.gives_up .expired
    · intro seq member
      rw [opens.fates] at member
      rcases mem_append.mp member with known | last
      · exact Or.inl known
      · cases mem_singleton.mp last
  · split
    · rename_i admitted
      have unknown : opened.closures.get before.executor.nextId = none := by
        cases found : opened.closures.get before.executor.nextId with
        | none => rfl
        | some closure =>
          have stored := (opens.closures _ closure
            (opens.closed _ closure found)).mp found
          exact absurd (orderly.closure_lt stored) (Nat.lt_irrefl _)
      constructor
      · constructor
        · exact opens.workers
        · exact opens.objects_set _
        · intro id closure different
          by_cases fresh : id = before.executor.nextId
          · subst fresh
            rw [get_set_self, ← opens.closures _ _ different, unknown]
            constructor
            · intro found
              cases found
              exact absurd rfl different
            · intro found
              cases found
          · rw [get_set_of_ne fresh]
            exact opens.closures id closure different
        · exact opens.history
      · exact ran
      · right
        refine ⟨worker, before.executor.nextId,
          { state with
            started := false
            promise := some before.executor.nextId }, ?_, opens.lower,
          opens.unshared, ?_⟩
        · constructor
          · exact opens.stored
          · exact get_set_self
          · exact get_set_self
          · rfl
          · have idle : ¬ (before.executor.run options.latest key
                times.enqueuedAt).Begun before.executor.nextId := by
              rw [ran.begun]
              · intro begun
                exact absurd (kept.lt_of_begun begun) (Nat.lt_irrefl _)
              · rintro ⟨closure, stored, -⟩
                exact absurd (orderly.closure_lt stored) (Nat.lt_irrefl _)
            constructor
            · intro started
              cases started
            · intro begun
              exact absurd begun idle
          · exact kept.lives_run opens.vacant admitted times.enqueuedAt
          · exact opens.submitted
          · intro task next
            rw [opens.last] at next
            cases next
        · intro other closure found keyed
          by_cases fresh : other = before.executor.nextId
          · exact fresh
          · rw [get_set_of_ne fresh] at found
            exact absurd keyed (opens.closed other closure found)
      · exact opens.nextWorker
      · intro id lower unsettled
        rw [Executor.run_nextId admitted] at lower
        by_cases fresh : id = before.executor.nextId
        · subst fresh
          exact ⟨_, get_set_self⟩
        · rw [get_set_of_ne fresh]
          apply opens.accepted id (by omega)
          intro known
          exact unsettled (ran.settled id known)
      · rw [opens.processing]
        exact running
      · obtain ⟨fresh, range, held⟩ := opens.fresh
        refine ⟨fresh, range, ?_⟩
        have own : heldOf
            { opened with
              executor :=
                before.executor.run options.latest key times.enqueuedAt
              objects :=
                opened.objects.set worker
                  { state with
                    started := false
                    promise := some before.executor.nextId }
              closures :=
                opened.closures.set before.executor.nextId
                  { key
                    worker } } key = [state.submitted.seq] := by
          rw [heldOf, opens.stored]
          refine (heldAt_of_get get_set_self).trans ?_
          rw [LatestPending.held, opens.last]
          rfl
        rw [own, processingSeqs, opens.fates, opens.processing]
        rw [perm_iff_count] at held ⊢
        intro seq
        have one := held seq
        simp only [count_append, processingSeqs] at one ⊢
        omega
      · intro seq member
        rw [opens.fates] at member
        exact Or.inl member
    · rename_i refused
      constructor
      · constructor
        · exact deleted
        · exact opens.objects_set _
        · exact opens.closures
        · exact opens.history
      · exact ran
      · exact Or.inl ⟨get_delete_self, opens.closed⟩
      · exact opens.nextWorker
      · intro id lower unsettled
        rw [Executor.run_refused (Bool.eq_false_iff.mpr refused)] at lower
        apply opens.accepted id lower
        intro known
        exact unsettled (ran.settled id known)
      · rw [opens.processing]
        exact running
      · have absent : (opened.workers.delete key).get key = none :=
          get_delete_self
        rw [heldOf_of_none absent]
        exact opens.gives_up .rejected
      · intro seq member
        rw [opens.fates] at member
        rcases mem_append.mp member with known | last
        · exact Or.inl known
        · cases mem_singleton.mp last

/-! ## A value is scheduled -/

omit [DecidableEq K] [JsNumber R] in
theorem known_last (history : List (K × T)) (key : K) (value : T) (now : R) :
    Known (history ++ [(key, value)]) key
      { seq := history.length
        value
        enqueuedAt := now } := by
  rw [Known, List.getElem?_append_right (Nat.le_refl _), Nat.sub_self]
  rfl

omit [DecidableEq K] [JsNumber R] in
theorem range_last (history : List (K × T)) (entry : K × T) :
    List.range (history ++ [entry]).length =
      List.range history.length ++ [history.length] := by
  rw [List.length_append, List.length_singleton, List.range_succ]

section

variable (orderly : Orderly options before)
  (attached : Attached before key worker id state)

include orderly attached

/-- The worker of a key is put in another state, and the rest stays: the
executor may only go on with work of this key. -/
theorem Orderly.replaces {after : LatestPending K T R E}
    {latest : WorkerState T R} {fresh : List Nat}
    (objects : after.objects = before.objects.set worker latest)
    (workers : after.workers = before.workers)
    (closures : after.closures = before.closures)
    (nextWorker : after.nextWorker = before.nextWorker)
    (history : ∃ more, after.history = before.history ++ more)
    (executor : Advances options before.executor after.executor fun id =>
      ∃ closure, before.closures.get id = some closure ∧ closure.key = key)
    (nextId : after.executor.nextId = before.executor.nextId)
    (running : ∀ id task, after.processing.get id = some task →
      ∃ flight ∈ after.executor.inFlight,
        flight.task.id = id ∧ flight.stage = .running)
    (promise : latest.promise = state.promise)
    (started : latest.started = true ↔ after.executor.Begun id)
    (submitted : Known after.history key latest.submitted)
    (next : ∀ task, latest.next = some task → Known after.history key task)
    (range : List.range after.history.length =
      List.range before.history.length ++ fresh)
    (balance : (after.fates.map Prod.fst ++ held latest ++
        after.processingSeqs).Perm
      (before.fates.map Prod.fst ++ held state ++ before.processingSeqs ++
        fresh))
    (newer : ∀ seq, (seq, Fate.coalesced) ∈ after.fates →
      (seq, Fate.coalesced) ∈ before.fates ∨ Superseded after.history seq) :
    Touches options key before after := by
  have stored : after.workers.get key = some worker := by
    rw [workers, attached.stored]
  have object : after.objects.get worker = some latest := by
    rw [objects, get_set_self]
  constructor
  · constructor
    · intro other _
      rw [workers]
    · intro other there different shared
      have apart : there ≠ worker := by
        rintro rfl
        exact orderly.unshared attached.stored other different shared
      rw [objects, get_set_of_ne apart]
    · intro other closure _
      rw [closures]
    · exact history
  · exact executor
  · right
    refine ⟨worker, id, latest, ?_, ?_,
      orderly.unshared attached.stored, ?_⟩
    · obtain ⟨bound, lives⟩ := attached.lives
      exact
        { stored
          object
          closure := closures ▸ attached.closure
          promise := promise.trans attached.promise
          started
          lives := ⟨bound, executor.lives bound key id lives⟩
          submitted
          next }
    · rw [nextWorker]
      exact orderly.below key worker attached.stored
    · rw [closures]
      exact orderly.only attached
  · exact nextWorker.ge
  · intro other lower unsettled
    rw [nextId] at lower
    rw [closures]
    apply orderly.accepted other lower
    intro known
    exact unsettled (executor.settled other known)
  · exact running
  · refine ⟨fresh, range, ?_⟩
    have own : itemsOf (heldAt after.objects) (some worker) = held latest :=
      heldAt_of_get object
    rw [attached.heldOf, heldOf, stored, own]
    exact balance
  · exact newer

theorem Orderly.takeNext (value : T) (now : R) (counts : Nat) :
    Touches options key before
      { before with
        scheduled := before.scheduled + 1
        history := before.history ++ [(key, value)]
        objects :=
          before.objects.set worker
            { state with
              next :=
                some
                  { seq := before.history.length
                    value
                    enqueuedAt := now } }
        coalesced := counts
        fates :=
          before.fates ++
            state.next.toList.map fun older => (older.seq, .coalesced) } := by
  refine orderly.replaces attached rfl rfl rfl rfl ⟨_, rfl⟩
    (Advances.refl orderly.sound _) rfl orderly.running rfl attached.started
    (attached.submitted.grow _) ?_ (range_last _ _) ?_ ?_
  · intro task next
    cases next
    exact known_last before.history key value now
  · rw [perm_iff_count]
    intro seq
    simp only [held, processingSeqs, map_append, List.map_map, count_append,
      Option.toList_some, map_cons, map_nil]
    have older : (state.next.toList.map
        (Prod.fst ∘ fun older => (older.seq, (Fate.coalesced : Fate E)))) =
          state.next.toList.map PendingTask.seq := rfl
    rw [older]
    omega
  · intro seq member
    rcases mem_append.mp member with known | older
    · exact Or.inl known
    · right
      obtain ⟨task, next, same⟩ := mem_map.mp older
      cases same
      exact (attached.next task (Option.mem_toList.mp next)).superseded value

theorem Orderly.takeOver (idle : state.started = false) (value : T)
    (now refreshedAt : R) (counts : Nat) {executor : Executor K R Unit Empty}
    (refreshes : executor =
      before.executor.refreshPending key id refreshedAt) :
    Touches options key before
      { before with
        scheduled := before.scheduled + 1
        history := before.history ++ [(key, value)]
        executor
        objects :=
          before.objects.set worker
            { state with
              submitted :=
                { seq := before.history.length
                  value
                  enqueuedAt := now } }
        coalesced := counts
        fates :=
          before.fates ++ [(state.submitted.seq, .coalesced)] } := by
  subst refreshes
  have step : Executor.step options.latest before.executor
      (.refreshPending key id refreshedAt) =
        some (before.executor.refreshPending key id refreshedAt) := rfl
  have refreshed : Advances options before.executor
      (before.executor.refreshPending key id refreshedAt) fun id =>
        ∃ closure, before.closures.get id = some closure ∧
          closure.key = key := by
    apply advances_of_step orderly.sound step
    intro id now same
    cases same
  have sameId : (before.executor.refreshPending key id refreshedAt).nextId =
      before.executor.nextId := by
    apply Executor.step_nextId_eq step
    intro key now same
    cases same
  refine orderly.replaces attached rfl rfl rfl rfl ⟨_, rfl⟩ refreshed sameId
    ?_ rfl ?_ (known_last before.history key value now) ?_ (range_last _ _)
    ?_ ?_
  · intro other task stored
    apply orderly.running_step step stored
    intro result same
    cases same
  · rw [orderly.sound.toKept.begun_step step, attached.started]
    constructor
    · exact Or.inl
    · rintro (begun | ⟨⟨now, same⟩, -⟩)
      · exact begun
      · cases same
  · intro task next
    exact (attached.next task next).grow _
  · rw [perm_iff_count]
    intro seq
    simp only [held, idle, Bool.false_eq_true, if_false, processingSeqs,
      map_append, map_cons, map_nil, count_append]
    omega
  · intro seq member
    rcases mem_append.mp member with known | last
    · exact Or.inl known
    · right
      cases mem_singleton.mp last
      exact attached.submitted.superseded value

end

theorem Orderly.schedule (orderly : Orderly options before) (key : K)
    (value : T) (now : R) (times : SubmitTimes R) :
    Touches options key before
      (before.schedule options key value now times) := by
  rw [LatestPending.schedule]
  cases stored : before.workers.get key with
  | none =>
    have unopened : ∀ id closure,
        before.closures.get id = some closure → closure.key ≠ key := by
      intro id closure found same
      obtain ⟨state, attached⟩ := orderly.closed id closure found
      have there := attached.stored
      rw [same, stored] at there
      cases there
    apply orderly.submitted
    constructor
    · constructor
      · intro other different
        exact get_set_of_ne different
      · intro other worker _ _
        rfl
      · intro id closure _
        exact Iff.rfl
      · exact ⟨_, rfl⟩
    · rfl
    · exact get_set_self
    · exact unopened
    · intro other _ shared
      exact absurd (orderly.below other _ shared) (Nat.lt_irrefl _)
    · exact Nat.lt_succ_self _
    · exact Nat.le_succ _
    · exact orderly.accepted
    · rfl
    · rfl
    · exact known_last before.history key value now
    · rfl
    · refine ⟨[before.history.length], range_last _ _, ?_⟩
      rw [heldOf_of_none stored]
      exact List.Perm.refl _
    · apply orderly.vacant
      intro id closure found same
      exact absurd same (unopened id closure found)
  | some worker =>
    obtain ⟨id, state, attached⟩ := orderly.attached key worker stored
    simp only [attached.object]
    split
    · exact orderly.takeNext attached value now _
    · rename_i waits
      rw [Bool.or_eq_true, not_or] at waits
      refine orderly.takeOver attached (Bool.eq_false_iff.mpr waits.1) value
        now times.checkedAt _ ?_
      rw [attached.promise]
      rfl

/-! ## A work is called -/

variable {fates : List (Nat × Fate E)}

theorem Orderly.begins (orderly : Orderly options before)
    (attached : Attached before key worker id state)
    (idle : state.started = false)
    (executor : Advances options before.executor last fun id =>
      ∃ closure, before.closures.get id = some closure ∧ closure.key = key)
    (begun : last.Begun id) (nextId : last.nextId = before.executor.nextId)
    {processing : OrderedMap Nat (PendingTask T R)}
    (running : ∀ id task, processing.get id = some task →
      ∃ flight ∈ last.inFlight,
        flight.task.id = id ∧ flight.stage = .running)
    (more : List (Nat × Fate E)) (added : fates = before.fates ++ more)
    (apart : ∀ seq, (seq, Fate.coalesced) ∉ more)
    (balance : (more.map Prod.fst ++
        processing.collect fun task => [task.seq]).Perm
      (state.submitted.seq :: before.processingSeqs)) (expired : Nat)
    (lastQueueAgeMs maxQueueAgeMs : R) :
    Touches options key before
      { before with
        executor := last
        objects := before.objects.set worker { state with started := true }
        processing
        fates
        expired
        lastQueueAgeMs
        maxQueueAgeMs } := by
  refine orderly.replaces attached rfl rfl rfl rfl
    ⟨[], (append_nil _).symm⟩ executor nextId running rfl
    ⟨fun _ => begun, fun _ => rfl⟩ attached.submitted attached.next
    (append_nil _).symm ?_ ?_
  · rw [perm_iff_count] at balance ⊢
    intro seq
    have one := balance seq
    simp only [held, idle, added, if_true, Bool.false_eq_true, if_false,
      processingSeqs, map_append, count_append, List.count_cons,
      List.count_nil, List.nil_append, append_nil] at one ⊢
    omega
  · intro seq member
    rw [added] at member
    rcases mem_append.mp member with known | latest
    · exact Or.inl known
    · exact absurd latest (apart seq)

variable {now : R}

omit [DecidableEq K] in
theorem start_dispatched {first : Executor K R Unit Empty}
    (taken : first.start options.latest id now = some last) :
    ∃ task, first.flight id =
      some
        { task
          stage := .dispatched } := by
  rw [Executor.start] at taken
  split at taken
  · rename_i task found
    exact ⟨task, found⟩
  · cases taken

variable {task : Task K R}

theorem Orderly.idle_of_dispatched (orderly : Orderly options before)
    (attached : Attached before key worker id state)
    (found : before.executor.flight id =
      some
        { task
          stage := .dispatched }) : state.started = false := by
  rw [Bool.eq_false_iff]
  intro begun
  have known := orderly.sound.toKept.begun_iff_stage
    (Executor.mem_of_flight found)
  rw [Executor.flight_id found] at known
  cases known.mp (attached.started.mp begun)

/-- The work of a promise that was not called is not running. -/
theorem Orderly.unprocessed (orderly : Orderly options before)
    (found : before.executor.flight id =
      some
        { task
          stage := .dispatched }) : before.processing.get id = none := by
  cases stored : before.processing.get id with
  | none => rfl
  | some value =>
    obtain ⟨flight, member, named, runs⟩ :=
      orderly.running id value stored
    have one := orderly.sound.toKept.one_flight member
      (Executor.mem_of_flight found)
      (named.trans (Executor.flight_id found).symm)
    rw [one] at runs
    cases runs

variable {startedAt : R}

theorem Orderly.callWork (orderly : Orderly options before)
    {moved : Executor K R Unit Empty}
    (started : before.executor.start options.latest id now = some moved)
    (flies : moved.flight id =
      some
        { task
          stage := .running }) (stored : before.closures.get id = some closure)
    (taken : callWork options { before with executor := moved } closure id
      startedAt = some after) : Touches options closure.key before after := by
  obtain ⟨state, object, rest⟩ := bind_eq_some_iff.mp taken
  obtain ⟨found, attached⟩ := orderly.closed id closure stored
  have same : found = state :=
    Option.some.inj (attached.object.symm.trans object)
  subst same
  obtain ⟨waiting, dispatched⟩ := start_dispatched started
  have idle := orderly.idle_of_dispatched attached dispatched
  have absent := orderly.unprocessed dispatched
  have step : Executor.step options.latest before.executor (.start id now) =
      some moved := started
  have first : Advances options before.executor moved fun id =>
      ∃ other, before.closures.get id = some other ∧
        other.key = closure.key := by
    apply advances_of_step orderly.sound step
    intro other at_ same
    cases same
    exact ⟨closure, stored, rfl⟩
  have begun : moved.Begun id :=
    Or.inl ⟨_, Executor.mem_of_flight flies, Executor.flight_id flies, rfl⟩
  have nextId : moved.nextId = before.executor.nextId := by
    apply Executor.step_nextId_eq step
    intro key now same
    cases same
  have goes_on : ∀ other task, before.processing.get other = some task →
      ∃ flight ∈ moved.inFlight,
        flight.task.id = other ∧ flight.stage = .running := by
    intro other task present
    apply orderly.running_step step present
    intro result same
    cases same
  simp only at rest
  split at rest
  · obtain ⟨last, done, same⟩ := map_eq_some_iff.mp rest
    subst same
    have finishes : Executor.step options.latest moved
        (.finish id (.ok ())) = some last := done
    have second : Advances options moved last fun id =>
        ∃ other, before.closures.get id = some other ∧
          other.key = closure.key := by
      apply advances_of_step first.sound finishes
      intro other now same
      cases same
    have sameId : last.nextId = moved.nextId := by
      apply Executor.step_nextId_eq finishes
      intro key now same
      cases same
    refine orderly.begins attached idle (first.trans second) ?_
      (sameId.trans nextId) ?_ [(found.submitted.seq, .expired)] rfl ?_ ?_ _
      _ _
    · rw [first.sound.toKept.begun_step finishes]
      exact Or.inl begun
    · intro other task present
      have different : other ≠ id := by
        rintro rfl
        rw [absent] at present
        cases present
      obtain ⟨flight, member, named, runs⟩ := goes_on other task present
      refine ⟨flight, ?_, named, runs⟩
      apply first.sound.toKept.running_step member runs finishes
      intro result same
      cases same
      exact different named.symm
    · intro seq member
      cases mem_singleton.mp member
    · exact List.Perm.refl _
  · cases rest
    refine orderly.begins attached idle first begun nextId ?_ []
      (append_nil _).symm ?_ ?_ _ _ _
    · intro other task present
      by_cases own : other = id
      · subst own
        exact ⟨_, Executor.mem_of_flight flies, Executor.flight_id flies, rfl⟩
      · rw [get_set_of_ne own] at present
        exact goes_on other task present
    · intro seq member
      cases member
    · have moves := OrderedMap.collect_set
        (fun task : PendingTask T R => [task.seq]) before.processing id
        found.submitted
      have alone := OrderedMap.collect_of_get_none
        (fun task : PendingTask T R => [task.seq]) absent
      rw [← alone] at moves
      exact moves

theorem Orderly.start_cases (orderly : Orderly options before)
    (taken : before.start options id now startedAt = some after) :
    (∃ moved task closure,
      before.executor.start options.latest id now = some moved ∧
        moved.flight id =
          some
            { task
              stage := .running } ∧
        before.closures.get id = some closure ∧
        LatestPending.callWork options { before with executor := moved }
          closure id startedAt = some after) ∨
      Works options before after := by
  obtain ⟨moved, started, rest⟩ := bind_eq_some_iff.mp taken
  have step : Executor.step options.latest before.executor (.start id now) =
      some moved := started
  simp only at rest
  split at rest
  · rename_i task closure flies stored
    exact Or.inl ⟨moved, task, closure, started, flies, stored, rest⟩
  · rename_i uncalled
    cases rest
    right
    apply orderly.executes step
    · intro key now same
      cases same
    · intro other result same
      cases same
    · intro other now task same flies
      cases same
      cases stored : before.closures.get id with
      | none => rfl
      | some closure => exact (uncalled task closure flies stored).elim

/-! ## A promise has settled -/

theorem Orderly.leaves (orderly : Orderly options before)
    (attached : Attached before key worker id state)
    (settled : id ∈ before.executor.settledIds) (more : List (Nat × Fate E))
    (added : fates = before.fates ++ more)
    (apart : ∀ seq, (seq, Fate.coalesced) ∉ more)
    (balance : more.map Prod.fst = held state) (expired : Nat) :
    Touches options key before
      { before with
        closures := before.closures.delete id
        workers := before.workers.delete key
        fates
        expired } := by
  constructor
  · constructor
    · intro other different
      exact get_delete_of_ne different
    · intro other worker _ _
      rfl
    · intro other closure different
      have distinct : ∀ found, before.closures.get other = some found →
          found.key ≠ key → other ≠ id := by
        rintro found stored elsewhere rfl
        rw [attached.closure] at stored
        cases stored
        exact elsewhere rfl
      constructor
      · exact get_of_get_delete
      · intro stored
        rw [get_delete_of_ne (distinct closure stored different)]
        exact stored
    · exact ⟨[], (append_nil _).symm⟩
  · exact Advances.refl orderly.sound _
  · left
    refine ⟨get_delete_self, ?_⟩
    intro other closure stored same
    have one := orderly.only attached other closure
      (get_of_get_delete stored) same
    subst one
    rw [get_delete_self] at stored
    cases stored
  · exact Nat.le_refl _
  · intro other lower unsettled
    obtain ⟨closure, stored⟩ := orderly.accepted other lower unsettled
    refine ⟨closure, ?_⟩
    rw [get_delete_of_ne]
    · exact stored
    · rintro rfl
      exact unsettled settled
  · exact orderly.running
  · refine ⟨[], (append_nil _).symm, ?_⟩
    have absent : (before.workers.delete key).get key = none :=
      get_delete_self
    rw [attached.heldOf, heldOf_of_none absent, added, ← balance,
      map_append, append_nil, append_nil]
    exact List.Perm.refl _
  · intro seq member
    rw [added] at member
    rcases mem_append.mp member with known | latest
    · exact Or.inl known
    · exact absurd latest (apart seq)

omit [DecidableEq K] [JsNumber R] in
theorem outcome_settled {outcome : Outcome Unit Empty}
    (found : scheduler.outcomeOf id = some outcome) :
    (id, outcome) ∈ scheduler.executor.settled := by
  obtain ⟨entry, first, same⟩ := map_eq_some_iff.mp found
  have named := List.find?_some first
  have pair : entry = (id, outcome) := Prod.ext (eq_of_beq named) same
  rw [← pair]
  exact List.mem_of_find?_eq_some first

/-- The handler of the promise drops no value that comes next. -/
def Spares (scheduler : LatestPending K T R E) (id : Nat) : Prop :=
  ∀ closure state, scheduler.closures.get id = some closure →
    scheduler.objects.get closure.worker = some state →
    scheduler.outcomeOf id = some .expired → state.next = none

variable {times : SubmitTimes R}

theorem Orderly.handle (orderly : Orderly options before)
    (taken : before.handle options id times = some after)
    (spares : Spares before id)
    (stored : before.closures.get id = some closure) :
    Touches options closure.key before after := by
  have kept := orderly.sound.toKept
  obtain ⟨outcome, settles, rest⟩ := bind_eq_some_iff.mp taken
  rw [stored, Option.bind_some] at rest
  obtain ⟨state, object, same⟩ := map_eq_some_iff.mp rest
  subst same
  obtain ⟨found, attached⟩ := orderly.closed id closure stored
  have one : found = state :=
    Option.some.inj (attached.object.symm.trans object)
  subst one
  have entry := outcome_settled settles
  have settled : id ∈ before.executor.settledIds := List.mem_map_of_mem entry
  have started := attached.started.trans (kept.begun_iff_outcome entry)
  have detached : detach { before with
        closures := before.closures.delete id } closure =
      { before with
        closures := before.closures.delete id
        workers := before.workers.delete closure.key } := by
    rw [detach, if_pos attached.stored]
  cases outcome with
  | own result =>
    have begun : found.started = true := started.mpr ⟨result, rfl⟩
    rw [handled]
    cases next : found.next with
    | none =>
      simp only
      rw [detached]
      refine orderly.leaves attached settled [] (append_nil _).symm
        ?_ ?_ _
      · intro seq member
        cases member
      · rw [held, begun, next]
        rfl
    | some newer =>
      apply orderly.submitted
      have sameKey := orderly.only attached
      constructor
      · constructor
        · intro other _
          rfl
        · intro other worker _ _
          rfl
        · intro other elsewhere different
          constructor
          · exact get_of_get_delete
          · intro present
            rw [get_delete_of_ne]
            · exact present
            · rintro rfl
              rw [stored] at present
              cases present
              exact different rfl
        · exact ⟨[], (append_nil _).symm⟩
      · rfl
      · exact attached.stored
      · intro other elsewhere present same
        have own := sameKey other elsewhere
          (get_of_get_delete present) same
        subst own
        rw [get_delete_self] at present
        cases present
      · exact orderly.unshared attached.stored
      · exact orderly.below _ _ attached.stored
      · exact Nat.le_refl _
      · intro other lower unsettled
        obtain ⟨elsewhere, present⟩ :=
          orderly.accepted other lower unsettled
        refine ⟨elsewhere, ?_⟩
        rw [get_delete_of_ne]
        · exact present
        · rintro rfl
          exact unsettled settled
      · rfl
      · rfl
      · exact attached.next newer next
      · rfl
      · refine ⟨[], (append_nil _).symm, ?_⟩
        rw [attached.heldOf, held, begun, next]
        exact List.Perm.refl _
      · apply orderly.vacant
        intro other elsewhere present same
        rw [sameKey other elsewhere present same]
        exact settled
  | expired =>
    have idle : found.started = false := by
      rw [Bool.eq_false_iff]
      intro begun
      obtain ⟨result, same⟩ := started.mp begun
      cases same
    have none := spares closure found stored object settles
    simp only [handled, detached]
    refine orderly.leaves attached settled [(found.submitted.seq, .expired)]
      rfl ?_ ?_ _
    · intro seq member
      cases mem_singleton.mp member
    · rw [held, idle, none]
      rfl

/-! ## Any step -/

/-- No handler of an expired promise finds a value that comes next. -/
def Spared (scheduler : LatestPending K T R E) :
    SchedulerLabel K T R E → Prop
  | .handle id _ => Spares scheduler id
  | _ => True

theorem handle_closure (taken : before.handle options id times = some after) :
    ∃ closure, before.closures.get id = some closure := by
  obtain ⟨outcome, -, rest⟩ := bind_eq_some_iff.mp taken
  obtain ⟨closure, stored, -⟩ := bind_eq_some_iff.mp rest
  exact ⟨closure, stored⟩

theorem Orderly.step (orderly : Orderly options before)
    {label : SchedulerLabel K T R E} (spared : Spared before label)
    (taken : step options before label = some after) :
    Orderly options after := by
  cases label with
  | schedule key value now times =>
    cases taken
    exact orderly.touch key (orderly.schedule key value now times)
  | start id now startedAt =>
    rcases orderly.start_cases taken with
      ⟨moved, task, closure, started, flies, stored, called⟩ | works
    · exact orderly.touch closure.key
        (orderly.callWork started flies stored called)
    · exact orderly.work works
  | settle id result => exact orderly.work (orderly.settle taken)
  | complete id => exact orderly.work (orderly.complete taken)
  | expire key id =>
    cases taken
    exact orderly.work (orderly.expire key id)
  | handle id times =>
    obtain ⟨closure, stored⟩ := handle_closure taken
    exact orderly.touch closure.key (orderly.handle taken spared stored)

end LatestPending

end Eki.Work
