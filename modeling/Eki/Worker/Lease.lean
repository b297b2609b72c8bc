import Mathlib.Algebra.Order.Ring.Unbundled.Rat
import Eki.Library.Transition
import Eki.Library.Versioned

/-!
# The worker lease

Every backend process runs a coordinator that competes for one lease document.
A renewal is a transaction on the document followed by a reading of the local
clocks; between any two of its awaits and clock readings time may pass.

Times are milliseconds.  Fences that were revoked fail for good, so a
coordinator keeps only the fence it has not revoked; it is active exactly while
it has one.
-/

namespace Eki.Worker

open Versioned

def leaseDurationMs : ℚ := 45000

def workerClockSkewMs : ℚ := 2000

/-- The lease document.  A missing document reads as the lease of nobody, of
generation zero and long expired. -/
structure Lease (Owner : Type) where
  ownerId : Option Owner := none
  generation : Nat := 0
  expiresAt : ℚ := 0
  deriving DecidableEq

variable {Owner : Type} [DecidableEq Owner]

/-- The lease transaction from its wall time on: the document it writes, or
nothing while another process holds the lease. -/
def Lease.acquire (lease : Lease Owner) (ownerId : Owner) (now : ℚ) :
    Option (Lease Owner) :=
  if lease.ownerId ≠ some ownerId ∧
      lease.expiresAt + workerClockSkewMs > now then none
  else some {
    ownerId := some ownerId
    generation :=
      if lease.ownerId = some ownerId ∧ lease.expiresAt > now then
        lease.generation
      else lease.generation + 1
    expiresAt := now + leaseDurationMs }

/-- The release transaction of an orderly shutdown. -/
def Lease.release (lease : Lease Owner) (ownerId : Owner) :
    Option (Lease Owner) :=
  if lease.ownerId = some ownerId then
    some { lease with ownerId := none, expiresAt := 0 }
  else none

structure Fence where
  generation : Nat
  deadline : ℚ
  deriving DecidableEq

/-- `WorkerFence.assert` of a fence that is not revoked -/
def Fence.passes (fence : Fence) (monotonic : ℚ) : Prop :=
  monotonic < fence.deadline

instance (fence : Fence) (monotonic : ℚ) : Decidable (fence.passes monotonic) :=
  inferInstanceAs (Decidable (monotonic < fence.deadline))

/-- A lease write on its way to the store. -/
structure Commit (Owner : Type) where
  base : Nat
  document : Lease Owner

/-- Where the renewal of a coordinator stands.  `attempt` is the transition it
began under, `started` the monotonic time then. -/
inductive Renewal (Owner : Type) where
  | idle
  | begun (attempt : Nat) (started : ℚ)
  | read (attempt : Nat) (started : ℚ) (lease : Snapshot (Lease Owner))
  | sent (attempt : Nat) (started : ℚ) (commit : Commit Owner)
  | answered (attempt : Nat) (started : ℚ) (acquired : Option (Lease Owner))
  /-- `performance.now()` was read for the age of the request. -/
  | aged (attempt : Nat) (acquired : Lease Owner) (first budget : ℚ)
  /-- `Date.now()` was read for the remaining lease. -/
  | measured (attempt : Nat) (acquired : Lease Owner) (first remaining : ℚ)
  /-- The deadline is set from another reading of `performance.now()`. -/
  | timed (acquired : Lease Owner) (deadline : ℚ)
  /-- The coordinator awaits the end of earlier work. -/
  | activating (attempt : Nat) (acquired : Lease Owner) (deadline : ℚ)
  /-- The renewal gave up and awaits the end of the work. -/
  | closing

/-- The renewal awaits its transaction. -/
def Renewal.request {Owner : Type} : Renewal Owner → Option (Nat × ℚ)
  | .begun attempt started => some (attempt, started)
  | .read attempt started _ => some (attempt, started)
  | .sent attempt started _ => some (attempt, started)
  | .answered attempt started _ => some (attempt, started)
  | _ => none

inductive Shutdown where
  | running
  | stopping (releaseLease : Bool)
  | releasing
  | done
  deriving DecidableEq

structure Coordinator (Owner : Type) where
  shutdown : Shutdown := .running
  transition : Nat := 0
  fence : Option Fence := none
  expiryTimer : Bool := false
  renewal : Renewal Owner := .idle

namespace Coordinator

def stopped (coordinator : Coordinator Owner) : Bool :=
  coordinator.shutdown != .running

/-- `stopped || attempt !== transition` -/
def superseded (coordinator : Coordinator Owner) (attempt : Nat) : Bool :=
  coordinator.stopped || attempt != coordinator.transition

/-- The synchronous part of `stopWork`. -/
def stopWork (coordinator : Coordinator Owner) : Coordinator Owner :=
  { coordinator with fence := none, expiryTimer := false }

/-- `transition += 1; await stopWork()` at the end of a renewal. -/
def abandon (coordinator : Coordinator Owner) : Coordinator Owner :=
  { coordinator.stopWork with
    transition := coordinator.transition + 1
    renewal := .closing }

/-- Between two readings of a clock no other callback of the process runs. -/
def synchronous (coordinator : Coordinator Owner) : Bool :=
  match coordinator.renewal with
  | .aged .. | .measured .. | .timed .. => true
  | _ => false

end Coordinator

/-- What a coordinator does on its own. -/
inductive Move where
  | begin
  | decide
  | age
  | measure
  | time
  | extend
  /-- `launched` is whether the workers start without throwing. -/
  | activate (launched : Bool)
  | settled
  | expire
  | stop
  | drained
  deriving DecidableEq

namespace Coordinator

def move (coordinator : Coordinator Owner) (ownerId : Owner)
    (monotonic wall : ℚ) : Move → Option (Coordinator Owner)
  | .begin =>
    if coordinator.stopped then none
    else match coordinator.renewal with
      | .idle => some { coordinator with
          renewal := .begun coordinator.transition monotonic }
      | _ => none
  | .decide =>
    match coordinator.renewal with
    | .read attempt started snapshot =>
      if coordinator.superseded attempt then
        some { coordinator with renewal := .answered attempt started none }
      else match snapshot.value.acquire ownerId wall with
        | none => some { coordinator with
            renewal := .answered attempt started none }
        | some document => some { coordinator with
            renewal := .sent attempt started
              ⟨snapshot.version, document⟩ }
    | _ => none
  | .age =>
    match coordinator.renewal with
    | .answered attempt _ none =>
      if coordinator.superseded attempt then
        some { coordinator with renewal := .idle }
      else some coordinator.abandon
    | .answered attempt started (some acquired) => some { coordinator with
        renewal := .aged attempt acquired monotonic
          (leaseDurationMs - 2 * workerClockSkewMs - (monotonic - started)) }
    | _ => none
  | .measure =>
    match coordinator.renewal with
    | .aged attempt acquired first budget => some { coordinator with
        renewal := .measured attempt acquired first
          (min budget (acquired.expiresAt - wall - workerClockSkewMs)) }
    | _ => none
  | .time =>
    match coordinator.renewal with
    | .measured attempt acquired _ remaining =>
      if coordinator.superseded attempt then
        some { coordinator with renewal := .idle }
      else if remaining ≤ 0 then some coordinator.abandon
      else match coordinator.fence with
        | none => some { coordinator with
            renewal := .activating attempt acquired
              (monotonic + remaining) }
        | some fence =>
          if fence.generation = acquired.generation then
            some { coordinator with
              renewal := .timed acquired (monotonic + remaining) }
          else some { coordinator.stopWork with
            renewal := .activating attempt acquired
              (monotonic + remaining) }
    | _ => none
  | .extend =>
    match coordinator.renewal, coordinator.fence with
    | .timed _ deadline, some fence =>
      -- `extend` asserts the old deadline; a throw ends in the handler.
      if fence.passes monotonic then
        some { coordinator with
          fence := some { fence with deadline := deadline }
          expiryTimer := true
          renewal := .idle }
      else some coordinator.abandon
    | _, _ => none
  | .activate launched =>
    match coordinator.renewal with
    | .activating attempt acquired deadline =>
      if coordinator.superseded attempt || coordinator.fence.isSome ||
          decide (deadline ≤ monotonic) then
        some { coordinator with renewal := .idle }
      else if launched then
        some { coordinator with
          fence := some ⟨acquired.generation, deadline⟩
          expiryTimer := true
          renewal := .idle }
      else some coordinator.abandon
    | _ => none
  | .settled =>
    match coordinator.renewal with
    | .closing => some { coordinator with renewal := .idle }
    | _ => none
  | .expire =>
    if coordinator.expiryTimer && !coordinator.synchronous then
      some { coordinator.stopWork with
        transition := coordinator.transition + 1 }
    else none
  | .stop =>
    if coordinator.stopped || coordinator.synchronous then none
    else some { coordinator.stopWork with
      transition := coordinator.transition + 1
      shutdown := .stopping coordinator.fence.isSome }
  | .drained =>
    match coordinator.shutdown with
    | .stopping releaseLease =>
      -- A renewal in flight keeps the lease from being released.
      match coordinator.renewal with
      | .idle => some { coordinator with
          shutdown := if releaseLease then .releasing else .done }
      | _ => some { coordinator with shutdown := .done }
    | _ => none

end Coordinator

/-- What a coordinator and the store do together, and the passing of time. -/
inductive Event (Owner : Type) where
  | tick (elapsed : ℚ)
  | move (ownerId : Owner) (move : Move)
  | read (ownerId : Owner)
  | commit (ownerId : Owner)
  /-- The client library runs the transaction again. -/
  | retry (ownerId : Owner)
  | fail (ownerId : Owner)
  /-- A commit whose answer nobody awaits reaches the store. -/
  | settle (commit : Nat)
  | release (ownerId : Owner)
  deriving DecidableEq

/-- What the two clocks of each process read at a moment. -/
structure Clocks (Owner : Type) where
  wall : Owner → ℚ → ℚ
  boot : Owner → ℚ

/-- `performance.now()`: the time since the process began. -/
def Clocks.monotonic (clocks : Clocks Owner) (ownerId : Owner) (time : ℚ) : ℚ :=
  time - clocks.boot ownerId

/-- The lease document, the coordinators and the lease writes whose answer was
given up.  Nobody reads the update time of the document. -/
structure Election (Owner : Type) where
  time : ℚ := 0
  lease : Cell (Lease Owner) := ⟨{}, 0⟩
  updateTime : ℚ := 0
  coordinators : Owner → Coordinator Owner := fun _ => {}
  dispatched : List (Commit Owner) := []

namespace Election

def put (election : Election Owner) (ownerId : Owner)
    (coordinator : Coordinator Owner) : Election Owner :=
  { election with
    coordinators :=
      Function.update election.coordinators ownerId coordinator }

/-- The write of a renewal whose answer is given up may still reach the
store. -/
def forsake (election : Election Owner) (ownerId : Owner) :
    Election Owner :=
  match (election.coordinators ownerId).renewal with
  | .sent _ _ commit =>
    { election with dispatched := commit :: election.dispatched }
  | _ => election

/-- A commit that the store lets through. -/
def record (election : Election Owner) (commit : Commit Owner) :
    Option (Election Owner) :=
  (election.lease.commit commit.base commit.document).map fun lease =>
    { election with lease := lease, updateTime := election.time }

def step (clocks : Clocks Owner) (election : Election Owner) :
    Event Owner → Option (Election Owner)
  | .tick elapsed =>
    if 0 ≤ elapsed then
      some { election with time := election.time + elapsed }
    else none
  | .move ownerId move =>
    ((election.coordinators ownerId).move ownerId
      (clocks.monotonic ownerId election.time)
      (clocks.wall ownerId election.time) move).map (election.put ownerId)
  | .read ownerId =>
    let coordinator := election.coordinators ownerId
    match coordinator.renewal with
    | .begun attempt started => some <| election.put ownerId
        { coordinator with
          renewal :=
            if coordinator.superseded attempt then
              .answered attempt started none
            else .read attempt started election.lease.read }
    | _ => none
  | .commit ownerId =>
    let coordinator := election.coordinators ownerId
    match coordinator.renewal with
    | .sent attempt started commit =>
      (election.record commit).map fun recorded =>
        recorded.put ownerId { coordinator with
          renewal := .answered attempt started (some commit.document) }
    | _ => none
  | .retry ownerId =>
    let coordinator := election.coordinators ownerId
    coordinator.renewal.request.map fun (attempt, started) =>
      (election.forsake ownerId).put ownerId
        { coordinator with renewal := .begun attempt started }
  | .fail ownerId =>
    let coordinator := election.coordinators ownerId
    coordinator.renewal.request.map fun _ =>
      (election.forsake ownerId).put ownerId coordinator.abandon
  | .settle commit =>
    match election.dispatched[commit]? with
    | some commit => election.record commit
    | none => none
  | .release ownerId =>
    let coordinator := election.coordinators ownerId
    match coordinator.shutdown with
    | .releasing =>
      let recorded :=
        match election.lease.value.release ownerId with
        | some document => { election with
            lease := election.lease.write document
            updateTime := election.time }
        | none => election
      some (recorded.put ownerId { coordinator with shutdown := .done })
    | _ => none

end Election

/-- The coordinators of all processes over one store. -/
def election (clocks : Clocks Owner) :
    Transition.System (Election Owner) (Event Owner) :=
  Election.step clocks

end Eki.Worker
