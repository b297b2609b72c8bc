import Eki.Library.Insertion

/-!
# Bounded single flight

Reads of one key share one flight, and the number of flights and of callers
that wait for one is bounded.  A caller gives up at its deadline; its flight
keeps its slot until the work has really settled.
-/

namespace Eki.Reads

open Insertion

inductive ReadError where
  | capacity
  | deadline
  | invalidated
  | load (text : String)
  deriving DecidableEq

def ReadError.message : ReadError → String
  | .capacity =>
    "Credential verification capacity is temporarily exhausted."
  | .deadline => "Credential verification response deadline exceeded."
  | .invalidated => "Route geometry read was invalidated or expired."
  | .load text => text

/-- The constructor refuses budgets that are not positive. -/
structure Budgets where
  maxFills : Nat
  maxWaitersPerFill : Nat
  responseMs : Nat
  maxFills_pos : 0 < maxFills
  maxWaitersPerFill_pos : 0 < maxWaitersPerFill
  responseMs_pos : 0 < responseMs

structure Loaded (Value : Type) where
  value : Value
  began : Nat
  deriving DecidableEq

abbrev Result (Value : Type) := Except ReadError (Loaded Value)

/-- Where the promise of a flight stands. -/
inductive Stage (Value : Type) where
  /-- The work has not been called yet. -/
  | queued
  /-- The work awaits its load. -/
  | loading (began : Nat)
  /-- The load has settled, the work has not gone on yet. -/
  | loaded (began : Nat) (outcome : Except String Value)
  /-- The work has returned or thrown, `finally` has not run yet. -/
  | returned (result : Result Value)
  | settled (result : Result Value)

namespace Stage

variable {Value : Type}

def isLoading : Stage Value → Bool
  | .loading _ => true
  | _ => false

def isSettled : Stage Value → Bool
  | .settled _ => true
  | _ => false

/-- The value that the work has returned, while its flight has its slot. -/
def published : Stage Value → Option (Loaded Value)
  | .returned (.ok result) => some result
  | _ => none

end Stage

structure Flight (Value : Type) where
  key : String
  scope : String
  current : Bool
  startedAt : Nat
  waiters : Nat
  stage : Stage Value

/-- `flights`, by key, and all flights that were ever made. -/
structure SingleFlight (Value : Type) where
  flights : OrderedMap String Nat := OrderedMap.empty
  heap : List (Flight Value) := []

namespace SingleFlight

variable {Value : Type}

def modify (id : Nat) (change : Flight Value → Flight Value)
    (fills : SingleFlight Value) : SingleFlight Value :=
  { fills with heap := fills.heap.modify id change }

/-- Whether a flight is one of `flights.values()`. -/
def registered (fills : SingleFlight Value) (id : Nat) : Bool :=
  fills.flights.entries.any fun entry => entry.2 == id

def invalidate (scope : Option String) (fills : SingleFlight Value) :
    SingleFlight Value :=
  { fills with
    heap := fills.heap.mapIdx fun id flight =>
      if fills.registered id && (scope.isNone || scope == some flight.scope)
      then { flight with current := false } else flight }

/-- The flight of a key, made where there is none and a slot is free. -/
def flightFor (budgets : Budgets) (now : Nat) (key scope : String)
    (fills : SingleFlight Value) : Option (Nat × SingleFlight Value) :=
  match fills.flights.get key with
  | some id => some (id, fills)
  | none =>
    if budgets.maxFills ≤ fills.flights.size then none
    else some (fills.heap.length,
      { flights := fills.flights.set key fills.heap.length
        heap := fills.heap ++ [{
          key := key
          scope := scope
          current := true
          startedAt := now
          waiters := 0
          stage := .queued }] })

/-- One more caller waits for a flight. -/
def join (budgets : Budgets) (now id : Nat) (fills : SingleFlight Value) :
    Except ReadError (SingleFlight Value) :=
  match fills.heap[id]? with
  -- Every identifier is on the heap.
  | none => .error .capacity
  | some flight =>
    if budgets.maxWaitersPerFill ≤ flight.waiters then .error .capacity
    else if budgets.responseMs ≤ now - flight.startedAt then
      .error .deadline
    else .ok (fills.modify id fun flight =>
      { flight with waiters := flight.waiters + 1 })

/-- `run`, up to the promise that the caller awaits. -/
def run (budgets : Budgets) (now : Nat) (key scope : String)
    (fills : SingleFlight Value) :
    SingleFlight Value × Except ReadError Nat :=
  match fills.flightFor budgets now key scope with
  | none => (fills, .error .capacity)
  | some (id, opened) =>
    match opened.join budgets now id with
    | .error error => (opened, .error error)
    | .ok joined => (joined, .ok id)

/-- `finally` of a flight: its slot is free again. -/
def release (id : Nat) (key : String) (fills : SingleFlight Value) :
    SingleFlight Value :=
  if fills.flights.get key = some id then
    { fills with flights := fills.flights.delete key }
  else fills

def isCurrent (budgets : Budgets) (now : Nat) (flight : Flight Value) :
    Bool :=
  flight.current && decide (now - flight.startedAt < budgets.responseMs)

end SingleFlight

end Eki.Reads
