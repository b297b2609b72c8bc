import Eki.Work.KeyedExecutor

/-!
# The scheduler of latest values

Each key has at most one worker, and the worker one value that it has submitted
and one that comes next.  A newer value takes the place of the one that waits.
When the promise of a submission is fulfilled the worker submits what comes
next, and otherwise it is given up.
-/

namespace Eki.Work

open Insertion Transition

/-- The executor of a scheduler lets one task of a key wait. -/
def ExecutionBudgets.latest {R : Type} [JsNumber R]
    (options : ExecutionBudgets R) : ExecutionBudgets R :=
  { options with
    maxPendingPerKey := 1
    maxPendingPerKey_pos := Nat.one_pos }

/-- A value with its place among all the values that were scheduled. -/
structure PendingTask (T R : Type) where
  seq : Nat
  value : T
  enqueuedAt : R

structure WorkerState (T R : Type) where
  started : Bool
  submitted : PendingTask T R
  next : Option (PendingTask T R)
  promise : Option Nat

/-- What becomes of a value.  `onError` is told of all but those that were
coalesced or processed with success. -/
inductive Fate (E : Type) where
  | processed (result : Except E Unit)
  | coalesced
  | rejected
  | expired

/-- The key and the worker that the functions around a promise refer to: the
work before it and the handlers after it. -/
structure Closure (K : Type) where
  key : K
  worker : Nat

/-- A scheduler and its executor.  Workers are objects, known by a number.
`closures` are those of the promises whose handlers have not run, `processing`
the calls of `processTask` that have not settled, by the promise.  No step
reads the fates. -/
structure LatestPending (K T R E : Type) where
  executor : Executor K R Unit Empty
  objects : OrderedMap Nat (WorkerState T R)
  workers : OrderedMap K Nat
  nextWorker : Nat
  closures : OrderedMap Nat (Closure K)
  processing : OrderedMap Nat (PendingTask T R)
  scheduled : Nat
  processed : Nat
  coalesced : Nat
  failed : Nat
  rejected : Nat
  expired : Nat
  lastQueueAgeMs : R
  maxQueueAgeMs : R
  history : List (K × T)
  fates : List (Nat × Fate E)

/-- What `now` says to `submit` and then to the executor. -/
structure SubmitTimes (R : Type) where
  checkedAt : R
  enqueuedAt : R

inductive SchedulerLabel (K T R E : Type) where
  | schedule (key : K) (value : T) (now : R) (times : SubmitTimes R)
  /-- The microtask after a dispatch; the work is called at `startedAt`. -/
  | start (id : Nat) (now startedAt : R)
  /-- The promise of `processTask` settles. -/
  | settle (id : Nat) (result : Except E Unit)
  | complete (id : Nat)
  /-- The timer of a task. -/
  | expire (key : K) (id : Nat)
  /-- The handlers of a promise that has settled. -/
  | handle (id : Nat) (times : SubmitTimes R)

namespace LatestPending

variable {K T R E : Type} [DecidableEq K] [JsNumber R]

def new : LatestPending K T R E :=
  { executor := .new
    objects := .empty
    workers := .empty
    nextWorker := 0
    closures := .empty
    processing := .empty
    scheduled := 0
    processed := 0
    coalesced := 0
    failed := 0
    rejected := 0
    expired := 0
    lastQueueAgeMs := 0
    maxQueueAgeMs := 0
    history := []
    fates := [] }

variable (options : ExecutionBudgets R) (scheduler : LatestPending K T R E)

/-- `submit`, for a worker that is to look like this. -/
def submit (key : K) (worker : Nat) (state : WorkerState T R)
    (times : SubmitTimes R) : LatestPending K T R E :=
  let budgets := options.latest
  if times.checkedAt - state.submitted.enqueuedAt ≥
      budgets.maxQueueAgeMs then
    { scheduler with
      objects := scheduler.objects.set worker state
      workers := scheduler.workers.delete key
      expired := scheduler.expired + 1
      fates := scheduler.fates ++ [(state.submitted.seq, .expired)] }
  else if scheduler.executor.canRun budgets key then
    let id := scheduler.executor.nextId
    { scheduler with
      executor := scheduler.executor.run budgets key times.enqueuedAt
      objects :=
        scheduler.objects.set worker
          { state with
            started := false
            promise := some id }
      closures :=
        scheduler.closures.set id
          { key
            worker } }
  else
    { scheduler with
      executor := scheduler.executor.run budgets key times.enqueuedAt
      objects :=
        scheduler.objects.set worker { state with started := false }
      workers := scheduler.workers.delete key
      rejected := scheduler.rejected + 1
      fates := scheduler.fates ++ [(state.submitted.seq, .rejected)] }

def schedule (key : K) (value : T) (now : R) (times : SubmitTimes R) :
    LatestPending K T R E :=
  let task : PendingTask T R :=
    { seq := scheduler.history.length
      value
      enqueuedAt := now }
  let counted : LatestPending K T R E :=
    { scheduler with
      scheduled := scheduler.scheduled + 1
      history := scheduler.history ++ [(key, value)] }
  match scheduler.workers.get key with
  | none =>
    let worker := scheduler.nextWorker
    let opened : LatestPending K T R E :=
      { counted with
        workers := scheduler.workers.set key worker
        nextWorker := worker + 1 }
    opened.submit options key worker
      { started := false
        submitted := task
        next := none
        promise := none } times
  | some worker =>
    match scheduler.objects.get worker with
    | none => counted
    | some state =>
      if state.started ||
          state.promise.any (scheduler.executor.isDispatched key) then
        { counted with
          objects :=
            scheduler.objects.set worker { state with next := some task }
          coalesced :=
            scheduler.coalesced + state.next.toList.length
          fates :=
            scheduler.fates ++
              state.next.toList.map fun older =>
                (older.seq, .coalesced) }
      else
        { counted with
          executor :=
            state.promise.elim scheduler.executor fun id =>
              scheduler.executor.refreshPending key id times.checkedAt
          objects :=
            scheduler.objects.set worker { state with submitted := task }
          coalesced := scheduler.coalesced + 1
          fates :=
            scheduler.fates ++ [(state.submitted.seq, .coalesced)] }

/-- The work of a worker is called: it takes the value that is submitted, and
looks at its age once more. -/
def callWork (closure : Closure K) (id : Nat) (startedAt : R) :
    Option (LatestPending K T R E) :=
  (scheduler.objects.get closure.worker).bind fun state =>
    let task := state.submitted
    let age := JsNumber.max 0 (startedAt - task.enqueuedAt)
    let started : LatestPending K T R E :=
      { scheduler with
        objects :=
          scheduler.objects.set closure.worker { state with started := true }
        lastQueueAgeMs := age
        maxQueueAgeMs := JsNumber.max scheduler.maxQueueAgeMs age }
    if age ≥ options.latest.maxQueueAgeMs then
      (scheduler.executor.finish id (.ok ())).map fun finished =>
        { started with
          executor := finished
          expired := scheduler.expired + 1
          fates := scheduler.fates ++ [(task.seq, .expired)] }
    else
      some { started with processing := scheduler.processing.set id task }

def start (id : Nat) (now startedAt : R) : Option (LatestPending K T R E) :=
  (scheduler.executor.start options.latest id now).bind fun executor =>
    let moved : LatestPending K T R E := { scheduler with executor }
    match executor.flight id, scheduler.closures.get id with
    | some { stage := .running, .. }, some closure =>
      moved.callWork options closure id startedAt
    | _, _ => some moved

def settle (id : Nat) (result : Except E Unit) :
    Option (LatestPending K T R E) :=
  (scheduler.processing.get id).bind fun task =>
    (scheduler.executor.finish id (.ok ())).map fun executor =>
      { scheduler with
        executor
        processing := scheduler.processing.delete id
        failed :=
          match result with
          | .ok _ => scheduler.failed
          | .error _ => scheduler.failed + 1
        processed := scheduler.processed + 1
        fates := scheduler.fates ++ [(task.seq, .processed result)] }

def complete (id : Nat) : Option (LatestPending K T R E) :=
  (scheduler.executor.complete options.latest id).map fun executor =>
    { scheduler with executor }

def expire (key : K) (id : Nat) : LatestPending K T R E :=
  { scheduler with executor := scheduler.executor.expire key id }

/-- `if (workers.get(key) === state) workers.delete(key)` -/
def detach (closure : Closure K) : LatestPending K T R E :=
  if scheduler.workers.get closure.key = some closure.worker then
    { scheduler with workers := scheduler.workers.delete closure.key }
  else scheduler

/-- The handlers of a promise. -/
def handled (closure : Closure K) (state : WorkerState T R)
    (outcome : Outcome Unit Empty) (times : SubmitTimes R) :
    LatestPending K T R E :=
  match outcome with
  | .own _ =>
    match state.next with
    | some next =>
      scheduler.submit options closure.key closure.worker
        { state with
          submitted := next
          next := none } times
    | none => scheduler.detach closure
  | .expired =>
    { scheduler.detach closure with
      expired := scheduler.expired + 1
      fates := scheduler.fates ++ [(state.submitted.seq, .expired)] }

/-- How a promise has settled. -/
def outcomeOf (id : Nat) : Option (Outcome Unit Empty) :=
  (scheduler.executor.settled.find? fun entry => entry.1 == id).map Prod.snd

def handle (id : Nat) (times : SubmitTimes R) :
    Option (LatestPending K T R E) :=
  (scheduler.outcomeOf id).bind fun outcome =>
    (scheduler.closures.get id).bind fun closure =>
      (scheduler.objects.get closure.worker).map fun state =>
        { scheduler with closures := scheduler.closures.delete id }.handled
          options closure state outcome times

def step : System (LatestPending K T R E) (SchedulerLabel K T R E) :=
  fun scheduler label =>
    match label with
    | .schedule key value now times =>
      some (scheduler.schedule options key value now times)
    | .start id now startedAt => scheduler.start options id now startedAt
    | .settle id result => scheduler.settle id result
    | .complete id => scheduler.complete options id
    | .expire key id => some (scheduler.expire key id)
    | .handle id times => scheduler.handle options id times

/-! ## The values of a scheduler -/

/-- The values that a worker holds.  What it has submitted is no longer its
own when the work has begun. -/
def held (state : WorkerState T R) : List Nat :=
  (if state.started then [] else [state.submitted.seq]) ++
    state.next.toList.map PendingTask.seq

def heldAt (objects : OrderedMap Nat (WorkerState T R)) (worker : Nat) :
    List Nat :=
  ((objects.get worker).map held).getD []

/-- The values that are neither done nor given up. -/
def outstanding : List Nat :=
  scheduler.workers.collect (heldAt scheduler.objects) ++
    scheduler.processing.collect fun task => [task.seq]

end LatestPending

end Eki.Work
