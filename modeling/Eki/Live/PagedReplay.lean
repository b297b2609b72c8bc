import Eki.Library.Transition

/-!
# The paged replay

The lifecycle is recovered page by page from what is stored now.  A request
starts a pass over all the pages; whatever could not be admitted asks for
another one.  The log is written by every step and read by none.
-/

namespace Eki.Replay

open Transition

variable {C T : Type}

structure Scan (C T : Type) where
  cursor : Option C
  items : List T
  admitted : List T
  nextCursor : Option C

/-- Where the processing of a page stands. -/
inductive Stage (C T : Type) where
  | reading (cursor : Option C)
  | admitting (scan : Scan C T) (item : T) (rest : List T)
  /-- Its promise has settled, and nobody was told. -/
  | settled

structure Run (C T : Type) where
  id : Nat
  stage : Stage C T

inductive Event (C T : Type) where
  | request
  | refused
  | failed
  | noCapacity
  | read (cursor : Option C)
  | scanned (scan : Scan C T)
  /-- A read that failed, a page too large, or a stop. -/
  | abandoned

/-- The variables of the closure, the runs that were started, and the log,
the newest event first. -/
structure PagedReplay (C T : Type) where
  requested : Bool
  again : Bool
  stopped : Bool
  cursor : Option C
  inFlight : Option Nat
  runs : List (Run C T)
  nextRun : Nat
  log : List (Event C T)

inductive Admission where
  | admitted
  | refused
  | failed

/-- `hasCapacity` is what the callback returns at that point. -/
inductive ReplayLabel (C T : Type) where
  | request
  | tick (hasCapacity : Bool)
  | page (id : Nat) (items : List T) (nextCursor : Option C)
    (hasCapacity : Bool)
  | offer (id : Nat) (admission : Admission) (hasCapacity : Bool)
  /-- The read, or the callback, throws. -/
  | fail (id : Nat)
  /-- The `finally` of a run. -/
  | land (id : Nat)
  | stop

def pageSize : Nat := 25

namespace PagedReplay

def new : PagedReplay C T :=
  { requested := false
    again := false
    stopped := false
    cursor := none
    inFlight := none
    runs := []
    nextRun := 0
    log := [] }

variable (replay : PagedReplay C T)

def note (event : Event C T) : PagedReplay C T :=
  { replay with log := event :: replay.log }

def request : PagedReplay C T :=
  if replay.requested then { replay.note .request with again := true }
  else { replay.note .request with requested := true }

def tick (hasCapacity : Bool) : PagedReplay C T :=
  if replay.stopped || !replay.requested || replay.inFlight.isSome ||
      !hasCapacity then
    replay
  else
    { replay.note (.read replay.cursor) with
      inFlight := some replay.nextRun
      runs :=
        replay.runs ++
          [{ id := replay.nextRun
             stage := .reading replay.cursor }]
      nextRun := replay.nextRun + 1 }

def stageOf (id : Nat) : Option (Stage C T) :=
  (replay.runs.find? fun run => run.id == id).map Run.stage

def setStage (id : Nat) (stage : Stage C T) : PagedReplay C T :=
  { replay with
    runs :=
      replay.runs.map fun run =>
        if run.id == id then { run with stage } else run }

/-- The run ends without a word about its page. -/
def abandon (id : Nat) : PagedReplay C T :=
  (replay.setStage id .settled).note .abandoned

/-- What follows the loop over a page. -/
def finishPage (id : Nat) (scan : Scan C T) : PagedReplay C T :=
  let finished :=
    { (replay.setStage id .settled).note (.scanned scan) with
      cursor := scan.nextCursor }
  if scan.nextCursor.isNone then
    { finished with
      requested := finished.again
      again := false }
  else finished

/-- Something was not admitted. -/
def repeatAfter (event : Event C T) : PagedReplay C T :=
  { replay.note event with again := true }

/-- The loop over a page, up to its next `await`. -/
def advance (id : Nat) (scan : Scan C T) (hasCapacity : Bool) :
    List T → PagedReplay C T
  | [] => replay.finishPage id scan
  | item :: rest =>
    if replay.stopped then replay.abandon id
    else if !hasCapacity then
      (replay.repeatAfter .noCapacity).finishPage id scan
    else replay.setStage id (.admitting scan item rest)

def page (id : Nat) (items : List T) (nextCursor : Option C)
    (hasCapacity : Bool) : Option (PagedReplay C T) :=
  match replay.stageOf id with
  | some (.reading cursor) =>
    if replay.stopped || decide (pageSize < items.length) then
      some (replay.abandon id)
    else
      some
        (replay.advance id
          { cursor
            items
            admitted := []
            nextCursor }
          hasCapacity items)
  | _ => none

def offer (id : Nat) (admission : Admission) (hasCapacity : Bool) :
    Option (PagedReplay C T) :=
  match replay.stageOf id with
  | some (.admitting scan item rest) =>
    match admission with
    | .admitted =>
      some
        (replay.advance id
          { scan with admitted := scan.admitted ++ [item] }
          hasCapacity rest)
    | .refused =>
      some ((replay.repeatAfter .refused).advance id scan hasCapacity rest)
    | .failed =>
      some ((replay.repeatAfter .failed).advance id scan hasCapacity rest)
  | _ => none

def fail (id : Nat) : Option (PagedReplay C T) :=
  match replay.stageOf id with
  | some (.reading _) => some (replay.abandon id)
  | some (.admitting _ _ _) => some (replay.abandon id)
  | _ => none

def land (id : Nat) : Option (PagedReplay C T) :=
  match replay.stageOf id with
  | some .settled =>
    some
      { replay with
        runs := replay.runs.filter fun run => run.id != id
        inFlight :=
          if replay.inFlight = some id then none else replay.inFlight }
  | _ => none

def step : System (PagedReplay C T) (ReplayLabel C T) :=
  fun replay label =>
    match label with
    | .request => some replay.request
    | .tick hasCapacity => some (replay.tick hasCapacity)
    | .page id items nextCursor hasCapacity =>
      replay.page id items nextCursor hasCapacity
    | .offer id admission hasCapacity => replay.offer id admission hasCapacity
    | .fail id => replay.fail id
    | .land id => replay.land id
    | .stop => some { replay with stopped := true }

end PagedReplay

end Eki.Replay
