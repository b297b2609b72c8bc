import Eki.Library.Entries
import Eki.Library.Transition
import Eki.Trip.JsNumber

/-!
# The bounded keyed executor

Tasks of one key wait in a queue and run one at a time; keys that are idle and
have work wait their turn in a ring.  A task that waits too long expires, and
one that was taken up keeps its slot until its work has really settled.
-/

namespace Eki.Work

open Insertion Transition

/-- The constructor refuses other budgets. -/
structure ExecutionBudgets (R : Type) [JsNumber R] where
  maxConcurrent : Nat
  maxPending : Nat
  maxPendingPerKey : Nat
  maxQueueAgeMs : R
  maxConcurrent_pos : 0 < maxConcurrent
  maxPendingPerKey_pos : 0 < maxPendingPerKey
  maxQueueAgeMs_finite : JsNumber.isFinite maxQueueAgeMs = true
  maxQueueAgeMs_pos : ¬ maxQueueAgeMs ≤ 0

/-- One slot for rational times. -/
def ExecutionBudgets.oneSlot (maxPending maxPendingPerKey : Nat) (age : ℚ)
    (some_task : 0 < maxPendingPerKey) (some_age : ¬ age ≤ 0) :
    ExecutionBudgets ℚ where
  maxConcurrent := 1
  maxPending
  maxPendingPerKey
  maxQueueAgeMs := age
  maxConcurrent_pos := Nat.one_pos
  maxPendingPerKey_pos := some_task
  maxQueueAgeMs_finite := rfl
  maxQueueAgeMs_pos := some_age

/-- A task is known by its promise. -/
structure Task (K R : Type) where
  id : Nat
  key : K
  enqueuedAt : R

structure KeyState (K R : Type) where
  active : Option (Task K R)
  pending : List (Task K R)

/-- How a promise settles. -/
inductive Outcome (V E : Type) where
  | own (result : Except E V)
  | expired

/-- Where a task stands that was taken up. -/
inductive Stage (V E : Type) where
  /-- Its age has not been looked at yet. -/
  | dispatched
  | overdue
  | running
  /-- Its work has settled, the executor does not know yet. -/
  | finished (result : Except E V)

structure Flight (K R V E : Type) where
  task : Task K R
  stage : Stage V E

inductive Turn (K : Type) where
  | ready (key : K)
  | withdrawn (key : K)
  | dispatch (key : K) (id : Nat)
  deriving DecidableEq

/-- An executor, with the tasks it has taken up and the promises that have
settled.  No step reads the results of works or the turns. -/
structure Executor (K R V E : Type) where
  states : OrderedMap K (KeyState K R)
  ready : List K
  readySet : List K
  active : Nat
  waiting : Nat
  rejected : Nat
  expired : Nat
  peakPending : Nat
  nextId : Nat
  inFlight : List (Flight K R V E)
  settled : List (Nat × Outcome V E)
  results : List (Nat × Except E V)
  turns : List (Turn K)

inductive ExecutorLabel (K R V E : Type) where
  | run (key : K) (now : R)
  /-- The microtask after a dispatch. -/
  | start (id : Nat) (now : R)
  /-- The promise of a work settles; one that is thrown settles as well. -/
  | finish (id : Nat) (result : Except E V)
  /-- The handler of a work's promise. -/
  | complete (id : Nat)
  /-- The timer of a task. -/
  | expire (key : K) (id : Nat)
  | refreshPending (key : K) (id : Nat) (now : R)

namespace Executor

variable {K R V E : Type}

def new : Executor K R V E :=
  { states := .empty
    ready := []
    readySet := []
    active := 0
    waiting := 0
    rejected := 0
    expired := 0
    peakPending := 0
    nextId := 0
    inFlight := []
    settled := []
    results := []
    turns := [] }

variable [DecidableEq K] [JsNumber R] (budgets : ExecutionBudgets R)
  (executor : Executor K R V E)

def pendingOf (key : K) : List (Task K R) :=
  ((executor.states.get key).map KeyState.pending).getD []

def isActive (key : K) : Bool :=
  (executor.states.get key).any fun state => state.active.isSome

def canRun (key : K) : Bool :=
  let startsImmediately := !executor.isActive key &&
    (executor.pendingOf key).isEmpty &&
    decide (executor.active < budgets.maxConcurrent)
  (startsImmediately || decide (executor.waiting < budgets.maxPending)) &&
    decide ((executor.pendingOf key).length < budgets.maxPendingPerKey)

def markReady (key : K) : Executor K R V E :=
  if executor.readySet.contains key then executor
  else
    { executor with
      readySet := key :: executor.readySet
      ready := executor.ready ++ [key]
      turns := executor.turns ++ [.ready key] }

/-- One turn of `pump`: the first key in the ring is served. -/
def serve (key : K) (rest : List K) : Executor K R V E :=
  let shifted : Executor K R V E :=
    { executor with
      ready := rest
      readySet := executor.readySet.filter (· ≠ key) }
  match executor.states.get key with
  | none => shifted
  | some state =>
    if state.active.isSome then shifted
    else
      match state.pending with
      | [] =>
        { shifted with
          states := executor.states.delete key }
      | task :: pending =>
        { shifted with
          waiting := executor.waiting - 1
          active := executor.active + 1
          states :=
            executor.states.set key
              { active := some task
                pending }
          inFlight :=
            executor.inFlight ++
              [{ task
                 stage := .dispatched }]
          turns := executor.turns ++ [.dispatch key task.id] }

/-- At most this many turns of `pump`. -/
def pumpTurns : Nat → Executor K R V E → Executor K R V E
  | 0, executor => executor
  | turns + 1, executor =>
    if executor.active < budgets.maxConcurrent then
      match executor.ready with
      | [] => executor
      | key :: rest => pumpTurns turns (executor.serve key rest)
    else executor

/-- Every turn takes a key off the ring, and none puts one on it. -/
def pump : Executor K R V E :=
  pumpTurns budgets executor.ready.length executor

def enqueue (key : K) (now : R) : Executor K R V E :=
  let state := (executor.states.get key).getD
    { active := none
      pending := [] }
  let task : Task K R :=
    { id := executor.nextId
      key
      enqueuedAt := now }
  let queued : Executor K R V E :=
    { executor with
      nextId := executor.nextId + 1
      waiting := executor.waiting + 1
      states :=
        executor.states.set key
          { state with pending := state.pending ++ [task] } }
  if state.active.isNone then queued.markReady key else queued

def run (key : K) (now : R) : Executor K R V E :=
  if !executor.canRun budgets key then
    { executor with rejected := executor.rejected + 1 }
  else
    let pumped := (executor.enqueue key now).pump budgets
    { pumped with peakPending := max pumped.peakPending pumped.waiting }

def expire (key : K) (id : Nat) : Executor K R V E :=
  match executor.states.get key with
  | none => executor
  | some state =>
    if !state.pending.any fun task => task.id == id then executor
    else
      let pending := state.pending.eraseP fun task => task.id == id
      let removed : Executor K R V E :=
        { executor with
          waiting := executor.waiting - 1
          expired := executor.expired + 1
          settled := executor.settled ++ [(id, .expired)] }
      if state.active.isNone && pending.isEmpty then
        { removed with
          states := executor.states.delete key
          readySet := executor.readySet.filter (· ≠ key)
          ready := executor.ready.erase key
          turns := executor.turns ++ [.withdrawn key] }
      else
        { removed with
          states := executor.states.set key { state with pending } }

def flight (id : Nat) : Option (Flight K R V E) :=
  executor.inFlight.find? fun flight => flight.task.id == id

def setStage (id : Nat) (stage : Stage V E) : Executor K R V E :=
  { executor with
    inFlight :=
      executor.inFlight.map fun flight =>
        if flight.task.id == id then { flight with stage } else flight }

/-- The age of a task is looked at before its work is called. -/
def start (id : Nat) (now : R) : Option (Executor K R V E) :=
  match executor.flight id with
  | some { task, stage := .dispatched } =>
    if now - task.enqueuedAt ≥ budgets.maxQueueAgeMs then
      some
        { executor.setStage id .overdue with
          expired := executor.expired + 1 }
    else some (executor.setStage id .running)
  | _ => none

def finish (id : Nat) (result : Except E V) : Option (Executor K R V E) :=
  match executor.flight id with
  | some { stage := .running, .. } =>
    some
      { executor.setStage id (.finished result) with
        results := executor.results ++ [(id, result)] }
  | _ => none

/-- The slot of a task is given back. -/
def release (task : Task K R) : Executor K R V E :=
  let landed : Executor K R V E :=
    { executor with
      active := executor.active - 1
      inFlight :=
        executor.inFlight.filter fun flight => flight.task.id != task.id }
  match executor.states.get task.key with
  | none => landed
  | some state =>
    if state.pending.isEmpty then
      { landed with
        states := executor.states.delete task.key }
    else
      { landed with
        states :=
          executor.states.set task.key { state with active := none } }
        |>.markReady task.key

/-- `complete`, and the settlement of the promise, which `pump` does not
see. -/
def settle (task : Task K R) (outcome : Outcome V E) : Executor K R V E :=
  let released := executor.release task
  { released with
    settled := released.settled ++ [(task.id, outcome)] }.pump budgets

def complete (id : Nat) : Option (Executor K R V E) :=
  match executor.flight id with
  | some { task, stage := .overdue } =>
    some (executor.settle budgets task .expired)
  | some { task, stage := .finished result } =>
    some (executor.settle budgets task (.own result))
  | _ => none

/-- Only the age of a waiting task is set anew. -/
def refreshPending (key : K) (id : Nat) (now : R) : Executor K R V E :=
  match executor.states.get key with
  | none => executor
  | some state =>
    { executor with
      states :=
        executor.states.set key
          { state with
            pending :=
              state.pending.map fun task =>
                if task.id == id then { task with enqueuedAt := now }
                else task } }

def isDispatched (key : K) (id : Nat) : Bool :=
  (executor.states.get key).any fun state =>
    state.active.any fun task => task.id == id

def step : System (Executor K R V E) (ExecutorLabel K R V E) :=
  fun executor label =>
    match label with
    | .run key now => some (executor.run budgets key now)
    | .start id now => executor.start budgets id now
    | .finish id result => executor.finish id result
    | .complete id => executor.complete budgets id
    | .expire key id => some (executor.expire key id)
    | .refreshPending key id now => some (executor.refreshPending key id now)

end Executor

end Eki.Work
