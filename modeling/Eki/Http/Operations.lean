import Eki.Library.Transition
import Mathlib.Data.List.Basic

/-!
# Operations behind an HTTP key

A client submits an operation under a key and asks again until it is finished.
Any number of replicas may be asked.  Whoever creates the operation's record
executes it; a record whose executor is gone is abandoned by an administrator.
Callers that ask the same replica for the same operation while an admission is
under way share its answer.
-/

namespace Eki.Http

open Transition
open Function (update)

inductive OperationCollection where
  | routeGeometryPreviews
  | fleetReconciliationJobs
  deriving DecidableEq

structure OperationKey where
  collection : OperationCollection
  id : String
  deriving DecidableEq

structure OperationError where
  code : String
  error : String
  outcomeUnknown : Bool := false
  deriving DecidableEq

structure OperationOutcome (Result : Type) where
  result : Option Result := none
  error : Option OperationError := none

inductive OperationStatus where
  | processing
  | succeeded
  | failed
  deriving DecidableEq

inductive OperationPhase where
  | claimed
  | executing
  | locking
  | authorizing
  | recoveryRequired
  | notStarted
  | completed
  | recovered
  deriving DecidableEq

structure OperationRecord (Hash Result : Type) where
  payloadHash : Hash
  adminUid : Option String
  status : OperationStatus
  phase : OperationPhase
  executorId : Nat
  generation : Nat
  deadlineAt : Nat
  result : Option Result := none
  error : Option OperationError := none
  recoveredBy : Option String := none
  deriving DecidableEq

namespace OperationRecord

variable {Hash Result : Type}

def expired (record : OperationRecord Hash Result) (now : Nat) : Bool :=
  decide (record.deadlineAt ≤ now)

def finished (record : OperationRecord Hash Result) : Bool :=
  record.status != .processing

end OperationRecord

structure OperationRecovery where
  executorId : Nat
  generation : Nat
  deriving DecidableEq

structure OperationSnapshot (Result : Type) where
  operationId : String
  status : OperationStatus
  result : Option Result
  error : Option OperationError
  retryAfterMs : Option Nat
  recovery : Option OperationRecovery
  deriving DecidableEq

variable {Payload Hash Result : Type}

def operationSnapshot (operationId : String)
    (data : OperationRecord Hash Result) (now : Nat) :
    OperationSnapshot Result :=
  let processing := data.status == .processing
  { operationId
    status := data.status
    result := if processing then none else data.result
    error := if data.status == .failed then data.error else none
    retryAfterMs := if processing then some 1000 else none
    recovery :=
      if processing && (data.phase == .recoveryRequired || data.expired now)
      then
        some
          { executorId := data.executorId
            generation := data.generation }
      else none }

theorem operationSnapshot_of_finished
    {data : OperationRecord Hash Result} (operationId : String)
    (finished : data.finished = true) (now other : Nat) :
    operationSnapshot operationId data now =
      operationSnapshot operationId data other := by
  have ended : (data.status == .processing) = false := by
    simpa [OperationRecord.finished, bne] using finished
  simp [operationSnapshot, ended]

/-- All outcome and checkpoint writes conflict with a recovery. -/
def writeOwned (executorId generation : Nat)
    (patch : OperationRecord Hash Result → OperationRecord Hash Result)
    (record : Option (OperationRecord Hash Result)) :
    Option (OperationRecord Hash Result) :=
  (record.filter fun data =>
    data.status == .processing && data.executorId == executorId &&
      data.generation == generation).map patch

structure Submission (Payload : Type) where
  key : OperationKey
  payload : Payload
  budgetMs : Nat
  adminUid : Option String

def Submission.claimedRecord (submission : Submission Payload)
    (payloadHash : Hash) (executorId now : Nat) :
    OperationRecord Hash Result where
  payloadHash := payloadHash
  adminUid := submission.adminUid
  status := .processing
  phase := .claimed
  executorId := executorId
  generation := 1
  deadlineAt := now + submission.budgetMs

def admissionExpired : OperationError where
  code := "OPERATION_ADMISSION_EXPIRED"
  error := "Admission expired before external work started."

def operationFailed : OperationError where
  code := "OPERATION_FAILED"
  error := "Inspect the operation and recovery status before retrying."
  outcomeUnknown := true

def operationAbandoned : OperationError where
  code := "OPERATION_ABANDONED_AFTER_EXECUTOR_STOP"
  error := "Prior execution has an unknown outcome; audit effects before a deliberate new-key submission."
  outcomeUnknown := true

def neverStarted (record : OperationRecord Hash Result) :
    OperationRecord Hash Result :=
  { record with
    status := .failed
    phase := .notStarted
    error := some admissionExpired }

def withPhase (phase : OperationPhase)
    (record : OperationRecord Hash Result) : OperationRecord Hash Result :=
  { record with phase }

def withOutcome (outcome : OperationOutcome Result)
    (record : OperationRecord Hash Result) : OperationRecord Hash Result :=
  { record with
    status := if outcome.error.isSome then .failed else .succeeded
    phase := .completed
    result := outcome.result.or record.result
    error := outcome.error.or record.error }

/-- What an administrator attests about an operation. -/
structure RecoveryRequest where
  key : OperationKey
  expectedExecutorId : Nat
  expectedGeneration : Nat
  adminUid : String

/-- The transaction of `recoverOperation`; `none` when it throws. -/
def recoverOperation (request : RecoveryRequest) (now : Nat)
    (record : Option (OperationRecord Hash Result)) :
    Option (OperationRecord Hash Result) :=
  (record.filter fun data =>
    data.status == .processing && data.expired now &&
      data.executorId == request.expectedExecutorId &&
      data.generation == request.expectedGeneration).map fun data =>
    { data with
      status := .failed
      phase := .recovered
      generation := data.generation + 1
      error := some operationAbandoned
      recoveredBy := some request.adminUid }

/-- The write of a status read that finds the executor overdue. -/
def detectRecovery (now : Nat) (locallyExecuting : Bool)
    (record : Option (OperationRecord Hash Result)) :
    Option (OperationRecord Hash Result) :=
  (record.filter fun data =>
    data.status == .processing && data.expired now &&
      data.phase != .recoveryRequired && !locallyExecuting).map
    (withPhase .recoveryRequired)

/-! ## Admissions -/

inductive AdmissionStage (Hash Result : Type) where
  | reading
  | queued
  | claiming
  /-- The record exists already; its snapshot is on the way. -/
  | answering (snapshot : OperationSnapshot Result)
  | claimed (record : OperationRecord Hash Result)
  | checkpointing
  | executing
  | storing (outcome : OperationOutcome Result)
  | done

namespace AdmissionStage

/-- The admission created the record. -/
def owns : AdmissionStage Hash Result → Bool
  | .claimed _ | .checkpointing | .executing | .storing _ => true
  | _ => false

def mayStart : AdmissionStage Hash Result → Bool
  | .claimed _ | .checkpointing => true
  | _ => false

end AdmissionStage

/-- A caller that waits for an admission, with what was stored of its operation
when it asked, if that had finished. -/
structure Waiter (Payload Hash Result : Type) where
  payload : Payload
  asked : Option (OperationRecord Hash Result)

structure Admission (Payload Hash Result : Type) where
  replica : Nat
  submission : Submission Payload
  /-- What was stored when the admission began, if that had finished. -/
  began : Option (OperationRecord Hash Result)
  waiters : List (Waiter Payload Hash Result)
  stage : AdmissionStage Hash Result

/-- What happened, for statements about whole runs; no step reads it. -/
inductive Event (Payload Hash Result : Type) where
  | executed (key : OperationKey) (payload : Payload)
  | answered (key : OperationKey)
      (began : Option (OperationRecord Hash Result))
      (waiter : Waiter Payload Hash Result)
      (snapshot : OperationSnapshot Result)

/-- The stored operations, and the admissions under way on all replicas. -/
structure Operations (Payload Hash Result : Type) where
  records : OperationKey → Option (OperationRecord Hash Result)
  admissions : Nat → Option (Admission Payload Hash Result)
  fills : Nat × OperationKey × Hash → Option Nat
  localExecutions : Nat × OperationKey → Bool
  history : List (Event Payload Hash Result)

namespace Operations

def empty : Operations Payload Hash Result where
  records := fun _ => none
  admissions := fun _ => none
  fills := fun _ => none
  localExecutions := fun _ => false
  history := []

variable (state : Operations Payload Hash Result)

def finishedRecord (key : OperationKey) :
    Option (OperationRecord Hash Result) :=
  (state.records key).filter OperationRecord.finished

def setRecord (key : OperationKey)
    (record : Option (OperationRecord Hash Result)) :
    Operations Payload Hash Result :=
  match record with
  | none => state
  | some record =>
    { state with
      records := update state.records key (some record) }

def put (pid : Nat) (admission : Admission Payload Hash Result) :
    Operations Payload Hash Result :=
  { state with
    admissions := update state.admissions pid (some admission) }

variable [DecidableEq Hash] (payloadHash : Payload → Hash)

/-- The shared promise of an admission has settled: nobody joins it now. -/
def forget (pid : Nat) (admission : Admission Payload Hash Result) :
    Operations Payload Hash Result :=
  let flight :=
    (admission.replica, admission.submission.key,
      payloadHash admission.submission.payload)
  { state with
    fills :=
      if state.fills flight = some pid then
        update state.fills flight none
      else state.fills }

/-- Answer everybody who waits, and go on. -/
def resolve (pid : Nat) (admission : Admission Payload Hash Result)
    (snapshot : OperationSnapshot Result)
    (stage : AdmissionStage Hash Result) : Operations Payload Hash Result :=
  { (state.forget payloadHash pid admission).put pid
      { admission with
        waiters := []
        stage } with
    history :=
      admission.waiters.map (fun waiter =>
        .answered admission.submission.key admission.began waiter snapshot) ++
        state.history }

/-- Refuse everybody who waits. -/
def reject (pid : Nat) (admission : Admission Payload Hash Result) :
    Operations Payload Hash Result :=
  (state.forget payloadHash pid admission).put pid
    { admission with
      waiters := []
      stage := .done }

def leave (pid : Nat) (admission : Admission Payload Hash Result) :
    Operations Payload Hash Result :=
  { state.reject payloadHash pid admission with
    localExecutions :=
      update state.localExecutions
        (admission.replica, admission.submission.key) false }

end Operations

/-- How the answer to a transaction that committed comes back: at once, never,
or after the transaction was run once more. -/
inductive Delivery where
  | acknowledged
  | lost
  | again
  deriving DecidableEq

inductive Label (Payload Result : Type) where
  | submit (pid replica : Nat) (submission : Submission Payload)
  | read (pid : Nat) (current : Bool) (now : Nat)
  /-- A failure before the claim: no capacity, an expiry, a lost connection. -/
  | fail (pid : Nat)
  | answer (pid : Nat)
  | dispatch (pid : Nat) (current : Bool)
  | claim (pid : Nat) (current : Bool) (now : Nat) (delivery : Delivery)
  | begin (pid : Nat) (current : Bool) (now : Nat)
  | checkpoint (pid : Nat) (active delivered : Bool)
  | progress (pid : Nat) (phase : OperationPhase)
  | finish (pid : Nat) (outcome : OperationOutcome Result)
  | store (pid : Nat) (delivery : Delivery)
  | poll (replica : Nat) (key : OperationKey) (now : Nat)
  | recover (replica : Nat) (request : RecoveryRequest) (now : Nat)
      (current : Bool)
  | crash (replica : Nat)

namespace Operations

variable [DecidableEq Hash] (payloadHash : Payload → Hash)

/-- `submitOperation`: join the admission under way, or begin one. -/
def submit (state : Operations Payload Hash Result) (pid replica : Nat)
    (submission : Submission Payload) :
    Option (Operations Payload Hash Result) :=
  let waiter : Waiter Payload Hash Result :=
    { payload := submission.payload
      asked := state.finishedRecord submission.key }
  let flight := (replica, submission.key, payloadHash submission.payload)
  match state.fills flight with
  | some joined =>
    (state.admissions joined).map fun admission =>
      state.put joined
        { admission with waiters := waiter :: admission.waiters }
  | none =>
    if (state.admissions pid).isSome then none
    else
      some
        ({ state with
            fills := update state.fills flight (some pid) }.put pid
          { replica
            submission
            began := state.finishedRecord submission.key
            waiters := [waiter]
            stage := .reading })

/-- The step of an admission that meets a record: a conflict where the payload
is another one, or its snapshot. -/
def meet (state : Operations Payload Hash Result) (pid : Nat)
    (admission : Admission Payload Hash Result)
    (record : OperationRecord Hash Result) (now : Nat) :
    Operations Payload Hash Result :=
  if record.payloadHash ≠ payloadHash admission.submission.payload then
    state.reject payloadHash pid admission
  else
    state.put pid
      { admission with
        stage :=
          .answering
            (operationSnapshot admission.submission.key.id record now) }

def claim (state : Operations Payload Hash Result) (pid : Nat)
    (admission : Admission Payload Hash Result) (current : Bool) (now : Nat)
    (delivery : Delivery) : Operations Payload Hash Result :=
  let key := admission.submission.key
  match state.records key with
  | some record => state.meet payloadHash pid admission record now
  | none =>
    if !current then state.reject payloadHash pid admission
    else
      let record : OperationRecord Hash Result :=
        admission.submission.claimedRecord
          (payloadHash admission.submission.payload) admission.replica now
      let created := state.setRecord key (some record)
      match delivery with
      | .acknowledged =>
        { created.put pid { admission with stage := .claimed record } with
          localExecutions :=
            update state.localExecutions
              (admission.replica, key) true }
      | .lost => created.reject payloadHash pid admission
      | .again => created

def proceed (state : Operations Payload Hash Result) (pid : Nat)
    (admission : Admission Payload Hash Result) :
    Label Payload Result → Option (Operations Payload Hash Result) :=
  let key := admission.submission.key
  let owned (patch : OperationRecord Hash Result →
      OperationRecord Hash Result) :=
    writeOwned admission.replica 1 patch (state.records key)
  let goOn (stage : AdmissionStage Hash Result) :=
    { admission with stage }
  let failed : OperationOutcome Result := { error := some operationFailed }
  fun label =>
    match label, admission.stage with
    | .begin _ current now, .claimed record =>
      some
        (if current then
          state.resolve payloadHash pid admission
            (operationSnapshot key.id record now) .checkpointing
        -- A late claim acknowledgement cannot launch new side effects.
        else
          (state.setRecord key (owned neverStarted)).leave payloadHash pid
            admission)
    | .checkpoint _ active delivered, .checkpointing =>
      if !active then some (state.put pid (goOn (.storing failed)))
      else
        match owned (withPhase .executing) with
        | none => some (state.put pid (goOn (.storing failed)))
        | some record =>
          let written := state.setRecord key (some record)
          some
            (if delivered then
              { written.put pid (goOn .executing) with
                history :=
                  .executed key admission.submission.payload ::
                    state.history }
            else written.put pid (goOn (.storing failed)))
    | .progress _ phase, .executing =>
      some (state.setRecord key (owned (withPhase phase)))
    | .finish _ outcome, .executing =>
      some (state.put pid (goOn (.storing outcome)))
    | .store _ delivery, .storing outcome =>
      let written := state.setRecord key (owned (withOutcome outcome))
      some
        (if delivery = .again then written
        else written.leave payloadHash pid admission)
    | _, _ => none

def step : System (Operations Payload Hash Result) (Label Payload Result) :=
  fun state label =>
    match label with
    | .submit pid replica submission =>
      state.submit payloadHash pid replica submission
    | .read pid current now =>
      match state.admissions pid with
      | some admission =>
        match admission.stage, state.records admission.submission.key with
        | .reading, some record =>
          some (state.meet payloadHash pid admission record now)
        | .reading, none =>
          some
            (if current then
              state.put pid { admission with stage := .queued }
            else state.reject payloadHash pid admission)
        | _, _ => none
      | none => none
    | .fail pid =>
      match state.admissions pid with
      | some admission =>
        if admission.stage.owns then none
        else some (state.reject payloadHash pid admission)
      | none => none
    | .answer pid =>
      match state.admissions pid with
      | some admission =>
        match admission.stage with
        | .answering snapshot =>
          some
            (state.resolve payloadHash pid admission snapshot .done)
        | _ => none
      | none => none
    | .dispatch pid current =>
      match state.admissions pid with
      | some admission =>
        match admission.stage with
        | .queued =>
          some
            (if current then
              state.put pid { admission with stage := .claiming }
            else state.reject payloadHash pid admission)
        | _ => none
      | none => none
    | .claim pid current now delivery =>
      match state.admissions pid with
      | some admission =>
        match admission.stage with
        | .claiming =>
          some
            (state.claim payloadHash pid admission current now delivery)
        | _ => none
      | none => none
    | .begin pid _ _ | .checkpoint pid _ _ | .progress pid _ | .finish pid _
    | .store pid _ =>
      match state.admissions pid with
      | some admission => state.proceed payloadHash pid admission label
      | none => none
    | .poll replica key now =>
      some
        (state.setRecord key
          (detectRecovery now (state.localExecutions (replica, key))
            (state.records key)))
    | .recover replica request now current =>
      if !current || state.localExecutions (replica, request.key) then none
      else
        some
          (state.setRecord request.key
            (recoverOperation request now (state.records request.key)))
    | .crash replica =>
      some
        { state with
          admissions := fun pid =>
            (state.admissions pid).filter fun admission =>
              admission.replica != replica
          fills := fun flight =>
            if flight.1 = replica then none else state.fills flight
          localExecutions := fun execution =>
            if execution.1 = replica then false
            else state.localExecutions execution }

end Operations

end Eki.Http
