import Eki.Http.Operations
import Eki.Privacy.Requests

/-!
# The deletion of an account

Workers take up the pending request of one account: the replica that leads
claims it, deletes the account's rate limits page by page, removes its profile
and then has the Auth account deleted.  Leadership may be lost and dependencies
may fail between any two steps, so an execution may stop anywhere, and several
executions may be alive, each on a replica of its own.
-/

namespace Eki.Privacy

open Eki.Http (Delivery)
open Function (update)
open Transition

/-- What is stored of the account, apart from the request to delete it. -/
structure Account where
  user : Option AuthUser
  profile : Option Profile := none
  drivers : Bool := false
  /-- When the account last gave feedback. -/
  cooldown : Option Nat := none
  passengerRequest : Bool := false
  /-- The rides that hold a rate limit of the account. -/
  rateLimits : List String := []
  deriving DecidableEq

inductive Source where
  | auth
  | users
  | drivers
  deriving DecidableEq

def IdentityReads.read (reads : IdentityReads) (account : Account) :
    Source → IdentityReads
  | .auth => { reads with user := some account.user }
  | .users => { reads with profile := some account.profile }
  | .drivers => { reads with drivers := some account.drivers }

namespace Account

def withoutProfile (account : Account) : Account :=
  { account with
    profile := none
    cooldown := none
    passengerRequest := false }

def withoutRateLimits (page : List String) (account : Account) : Account :=
  { account with
    rateLimits := account.rateLimits.filter (· ∉ page) }

def withoutUser (account : Account) : Account :=
  { account with user := none }

end Account

inductive LockOwner where
  | deletion (run : Nat)
  | fleetMutation
  deriving DecidableEq

structure Stored where
  account : Account
  request : Option DeletionRequest := none
  fleetLock : Option LockOwner := none
  deriving DecidableEq

def pageSize : Nat := 200

inductive Stage where
  | starting
  | locking
  | identifying (reads : IdentityReads)
  | recording (identity : Option String)
  | listing
  | deletingPage (page : List String)
  | requeueing
  | rechecking (reads : IdentityReads)
  | removing (reads : IdentityReads) (current : Option String)
  | dispatching
  /-- The deletion was dispatched; it has found or made the account gone. -/
  | deletingAccount (gone : Bool)
  | finishing
  | releasing (error : Option DeletionError)
  | failing (error : DeletionError)
  deriving DecidableEq

namespace Stage

/-- What an exception at this stage leads to; `none` is the end. -/
def stopped (error : DeletionError) : Stage → Option Stage
  | .starting | .failing _ => none
  | .locking | .releasing _ => some (.failing error)
  | _ => some (.releasing (some error))

/-- The execution has claimed the request. -/
def claimed : Stage → Bool
  | .starting => false
  | _ => true

/-- A dispatched deletion that has not settled. -/
def pendingDeletion : Stage → Bool
  | .deletingAccount false => true
  | _ => false

end Stage

structure Execution where
  run : Nat
  generation : Nat := 0
  stage : Stage := .starting
  deriving DecidableEq

/-- The removal of a profile: what its transaction compared. -/
structure Removal where
  generation : Nat
  recorded : Option String
  reads : IdentityReads
  current : Option String
  deriving DecidableEq

/-- What happened, for statements about whole runs; no step reads it. -/
inductive Event where
  | removed (run : Nat) (removal : Removal)
  | dispatched (run : Nat)
  | accountGone (run : Nat)
  | requestRemoved (run : Nat)
  deriving DecidableEq

inductive Action where
  | claim (now deadlineAt : Nat) (delivery : Delivery)
  | lock (delivery : Delivery)
  | read (source : Source)
  | identify
  | record (delivery : Delivery)
  | list
  | deletePage (delivery : Delivery)
  | requeue (now : Nat) (delivery : Delivery)
  | remove (delivery : Delivery)
  | dispatch
  /-- The Auth service deletes the account, or finds it absent. -/
  | vanish
  | acknowledge
  | finish (delivery : Delivery)
  | release (delivered : Bool)
  | fail (now delay : Nat)
  /-- A check or a dependency throws. -/
  | stop (error : DeletionError)

/-- What one step of an execution leaves; without an execution it has ended. -/
structure Outcome where
  stored : Stored
  execution : Option Execution
  events : List Event := []

namespace Execution

variable (execution : Execution) (replica : Nat) (stored : Stored)

def goOn (stage : Stage) : Option Execution :=
  some { execution with stage }

def throw (error : DeletionError) : Outcome where
  stored := stored
  execution := (execution.stage.stopped error).bind execution.goOn

/-- A transaction has committed; its answer may be lost, or the transaction is
run once more. -/
def committed (written : Stored) (delivery : Delivery)
    (next : Option Execution) (events : List Event) : Outcome where
  stored := written
  execution :=
    match delivery with
    | .acknowledged => next
    | .lost =>
      (execution.stage.stopped .dependencyFailure).bind execution.goOn
    | .again => some execution
  events := events

/-- A transaction of the execution throws unless the request is still its
claim. -/
def owned (delivery : Delivery) (next : Option Execution)
    (events : DeletionRequest → List Event)
    (write : DeletionRequest → Except DeletionError Stored) : Outcome :=
  match stored.request.filter
      (DeletionRequest.ownedBy replica execution.generation) with
  | none => execution.throw stored .accountIneligible
  | some data =>
    match write data with
    | .error error => execution.throw stored error
    | .ok written =>
      execution.committed written delivery next (events data)

/-- The transaction that begins an execution. -/
def claim (now deadlineAt : Nat) (delivery : Delivery) : Outcome :=
  match stored.request.filter (DeletionRequest.due now) with
  | none =>
    { stored
      execution := none }
  | some data =>
    execution.committed
      { stored with request := some (data.claim replica deadlineAt) }
      delivery
      (some
        { execution with
          generation := data.generation + 1
          stage := .locking }) []

/-- The transaction at the beginning of `withFleetLock`. -/
def lock (delivery : Delivery) : Outcome :=
  if stored.fleetLock.isSome then execution.throw stored .fleetBusy
  else
    execution.committed
      { stored with fleetLock := some (.deletion execution.run) }
      delivery (execution.goOn (.identifying {})) []

def identify (reads : IdentityReads) (allowed : Option String → Stage) :
    Option Outcome :=
  (passengerIdentity reads true).map fun
    | .error error => execution.throw stored error
    | .ok identity =>
      { stored
        execution := execution.goOn (allowed identity) }

def record (identity : Option String) (delivery : Delivery) : Outcome :=
  execution.owned replica stored delivery (execution.goOn .listing)
    (fun _ => []) fun data =>
      if data.identityChanged identity then .error .accountIneligible
      else
        .ok
          { stored with
            request :=
              some
                { data with
                  targetCreatedAt := data.targetCreatedAt.or identity } }

def afterPage (page : List String) : Option Execution :=
  execution.goOn
    (if page.length = pageSize then .requeueing else .rechecking {})

def list : Outcome :=
  let page := stored.account.rateLimits.take pageSize
  { stored
    execution :=
      if page = [] then execution.afterPage page
      else execution.goOn (.deletingPage page) }

def deletePage (page : List String) (delivery : Delivery) : Outcome :=
  execution.owned replica stored delivery (execution.afterPage page)
    (fun _ => []) fun _ =>
      .ok
        { stored with account := stored.account.withoutRateLimits page }

def requeue (now : Nat) (delivery : Delivery) : Outcome :=
  execution.owned replica stored delivery
    (execution.goOn (.releasing none)) (fun _ => []) fun data =>
      .ok { stored with request := some (data.requeue now) }

/-- The transaction before the irrevocable deletion. -/
def remove (reads : IdentityReads) (current : Option String)
    (delivery : Delivery) : Outcome :=
  execution.owned replica stored delivery (execution.goOn .dispatching)
    (fun data =>
      [.removed execution.run
        { generation := data.generation
          recorded := data.targetCreatedAt
          reads
          current }])
    fun data =>
      if data.identityChanged current then .error .accountIneligible
      else
        .ok
          { stored with
            request := some { data with phase := some .authDeletionDispatched }
            account := stored.account.withoutProfile }

def finish (delivery : Delivery) : Outcome :=
  execution.owned replica stored delivery
    (execution.goOn (.releasing none))
    (fun _ => [.requestRemoved execution.run]) fun _ =>
      .ok { stored with request := none }

/-- The end of `withFleetLock`, on success and on failure. -/
def release (error : Option DeletionError) (delivered : Bool) : Outcome where
  stored :=
    { stored with
      fleetLock :=
        if stored.fleetLock = some (.deletion execution.run) then none
        else stored.fleetLock }
  execution :=
    if delivered then error.bind fun error => execution.goOn (.failing error)
    else execution.goOn (.failing .dependencyFailure)

/-- The transaction that records a failure. -/
def fail (error : DeletionError) (now delay : Nat) : Outcome where
  stored :=
    match stored.request.filter
        (DeletionRequest.ownedBy replica execution.generation) with
    | none => stored
    | some data => { stored with request := some (data.fail error now delay) }
  execution := none

/-- One step of `processRequest`. -/
def act : Action → Option Outcome
  | .claim now deadlineAt delivery =>
    match execution.stage with
    | .starting => some (execution.claim replica stored now deadlineAt delivery)
    | _ => none
  | .lock delivery =>
    match execution.stage with
    | .locking => some (execution.lock stored delivery)
    | _ => none
  | .read source =>
    match execution.stage with
    | .identifying reads =>
      some
        { stored
          execution :=
            execution.goOn
              (.identifying (reads.read stored.account source)) }
    | .rechecking reads =>
      some
        { stored
          execution :=
            execution.goOn
              (.rechecking (reads.read stored.account source)) }
    | _ => none
  | .identify =>
    match execution.stage with
    | .identifying reads => execution.identify stored reads .recording
    | .rechecking reads =>
      execution.identify stored reads (.removing reads)
    | _ => none
  | .record delivery =>
    match execution.stage with
    | .recording identity =>
      some (execution.record replica stored identity delivery)
    | _ => none
  | .list =>
    match execution.stage with
    | .listing => some (execution.list stored)
    | _ => none
  | .deletePage delivery =>
    match execution.stage with
    | .deletingPage page =>
      some (execution.deletePage replica stored page delivery)
    | _ => none
  | .requeue now delivery =>
    match execution.stage with
    | .requeueing => some (execution.requeue replica stored now delivery)
    | _ => none
  | .remove delivery =>
    match execution.stage with
    | .removing reads current =>
      some (execution.remove replica stored reads current delivery)
    | _ => none
  | .dispatch =>
    match execution.stage with
    | .dispatching =>
      some
        { stored
          execution := execution.goOn (.deletingAccount false)
          events := [.dispatched execution.run] }
    | _ => none
  | .vanish =>
    match execution.stage with
    | .deletingAccount false =>
      some
        { stored :=
            { stored with account := stored.account.withoutUser }
          execution := execution.goOn (.deletingAccount true)
          events := [.accountGone execution.run] }
    | _ => none
  | .acknowledge =>
    match execution.stage with
    | .deletingAccount true =>
      some
        { stored
          execution := execution.goOn .finishing }
    | _ => none
  | .finish delivery =>
    match execution.stage with
    | .finishing => some (execution.finish replica stored delivery)
    | _ => none
  | .release delivered =>
    match execution.stage with
    | .releasing error => some (execution.release stored error delivered)
    | _ => none
  | .fail now delay =>
    match execution.stage with
    | .failing error =>
      some (execution.fail replica stored error now delay)
    | _ => none
  | .stop error => some (execution.throw stored error)

end Execution

/-! ## All replicas -/

structure Deletions where
  stored : Stored
  /-- Calls of `requestPrivacyDeletion` that are under way. -/
  submissions : Nat → Option IdentityReads
  /-- The one execution that `privacyExecutions` admits on a replica. -/
  executions : Nat → Option Execution
  runs : Nat
  /-- Dispatched deletions of the account that nobody waits for. -/
  abandoned : Nat
  history : List Event

inductive Label where
  | request (sid : Nat)
  | consider (sid : Nat) (source : Source)
  | submit (sid : Nat) (current : Bool) (now : Nat) (delivery : Delivery)
  | recover (replica : Nat) (recovery : DeletionRequest.Recovery) (now : Nat)
  | scan (replica : Nat)
  | work (replica : Nat) (action : Action)
  | crash (replica : Nat)
  | lateDeletion
  /-- The fleet's other mutations, and guarded recoveries of their lock. -/
  | fleetLock (held : Bool)

namespace Deletions

def start (account : Account) : Deletions where
  stored := { account }
  submissions := fun _ => none
  executions := fun _ => none
  runs := 0
  abandoned := 0
  history := []

variable (state : Deletions)

def setRequest (request : Option DeletionRequest) : Deletions :=
  { state with stored := { state.stored with request } }

def setAccount (account : Account) : Deletions :=
  { state with stored := { state.stored with account } }

def settle (replica : Nat) (before : Execution) (outcome : Outcome) :
    Deletions :=
  { state with
    stored := outcome.stored
    executions :=
      update state.executions replica outcome.execution
    abandoned :=
      state.abandoned +
        (if before.stage.pendingDeletion &&
            !outcome.execution.any (·.stage.pendingDeletion) &&
            !outcome.events.contains (.accountGone before.run) then 1
        else 0)
    history := outcome.events ++ state.history }

/-- The transaction of a submission whose identity is known. -/
def submit (sid now : Nat) (identity : Option String) (delivery : Delivery) :
    Deletions :=
  { state.setRequest
      ((DeletionRequest.submit identity now state.stored.request).or
        state.stored.request) with
    submissions :=
      if delivery = .again then state.submissions
      else update state.submissions sid none }

def step : System Deletions Label :=
  fun state label =>
    match label with
    | .request sid =>
      if (state.submissions sid).isSome then none
      else
        some
          { state with
            submissions :=
              update state.submissions sid (some {}) }
    | .consider sid source =>
      (state.submissions sid).map fun reads =>
        { state with
          submissions :=
            update state.submissions sid
              (some (reads.read state.stored.account source)) }
    | .submit sid current now delivery =>
      match (state.submissions sid).bind (passengerIdentity · false) with
      | some (.ok identity) =>
        some
          (if current then state.submit sid now identity delivery
          else
            { state with
              submissions :=
                update state.submissions sid none })
      | some (.error _) =>
        some
          { state with
            submissions := update state.submissions sid none }
      | none => none
    | .recover replica recovery now =>
      if (state.executions replica).isSome then none
      else
        (state.stored.request.bind fun data =>
          data.recover recovery now).map fun recovered =>
            state.setRequest (some recovered)
    | .scan replica =>
      if (state.executions replica).isSome then none
      else
        some
          { state with
            executions :=
              update state.executions replica
                (some { run := state.runs })
            runs := state.runs + 1 }
    | .work replica action =>
      (state.executions replica).bind fun execution =>
        (execution.act replica state.stored action).map
          (state.settle replica execution)
    | .crash replica =>
      (state.executions replica).map fun execution =>
        state.settle replica execution
          { stored := state.stored
            execution := none }
    | .lateDeletion =>
      if state.abandoned = 0 then none
      else
        some
          { state.setAccount state.stored.account.withoutUser with
            abandoned := state.abandoned - 1 }
    | .fleetLock held =>
      some
        { state with
          stored :=
            { state.stored with
              fleetLock := if held then some .fleetMutation else none } }

end Deletions

end Eki.Privacy
