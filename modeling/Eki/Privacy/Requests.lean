import Mathlib.Data.List.Basic

/-!
# Requests to delete an account

A passenger asks for the deletion of the account; one request document stands
for it until the account is gone.  Its generation says whose work is current: a
worker's claim, the resubmission of a failed request and an administrator's
recovery each raise it.
-/

namespace Eki.Privacy

structure CustomClaims where
  role : Option String := none
  admin : Bool := false
  driverId : Option String := none
  assignedBusId : Option String := none
  deriving DecidableEq

/-- An account of the Auth service. -/
structure AuthUser where
  creationTime : String
  disabled : Bool := false
  customClaims : CustomClaims := {}
  deriving DecidableEq

/-- A document of `users`. -/
structure Profile where
  role : Option String
  deriving DecidableEq

inductive DeletionError where
  | accountIneligible
  | fleetBusy
  | dependencyDeadline
  | dependencyFailure
  deriving DecidableEq

/-! ## The account's identity -/

/-- The parts of an account that its identity is read from; `none` is not read
yet. -/
structure IdentityReads where
  user : Option (Option AuthUser) := none
  profile : Option (Option Profile) := none
  drivers : Option Bool := none
  deriving DecidableEq

/-- What excludes an account from deletion. -/
def isOperator (user : Option AuthUser) (profile : Option Profile)
    (drivers : Bool) : Bool :=
  let claims := (user.map AuthUser.customClaims).getD {}
  let profileRole := profile.bind Profile.role
  drivers || profileRole.any (· != "passenger") || claims.admin ||
    claims.driverId.isSome || claims.assignedBusId.isSome ||
    claims.role.any (· != "passenger")

/-- Current Auth plus durable membership; `none` before everything is read. -/
def passengerIdentity (reads : IdentityReads) (allowDeleted : Bool) :
    Option (Except DeletionError (Option String)) :=
  match reads.user, reads.profile, reads.drivers with
  | some user, some profile, some drivers =>
    some
      (if user.isNone && !allowDeleted then .error .dependencyFailure
      else if isOperator user profile drivers then
        .error .accountIneligible
      else .ok (user.map AuthUser.creationTime))
  | _, _, _ => none

theorem identity_eq_ok {reads : IdentityReads} {allowDeleted : Bool}
    {identity : Option String}
    (found : passengerIdentity reads allowDeleted = some (.ok identity)) :
    ∃ user profile drivers,
      reads = ⟨some user, some profile, some drivers⟩ ∧
      isOperator user profile drivers = false ∧
      (user.isSome ∨ allowDeleted = true) ∧
      identity = user.map AuthUser.creationTime := by
  obtain ⟨user, profile, drivers⟩ := reads
  unfold passengerIdentity at found
  split at found
  · rename_i user profile drivers readUser readProfile readDrivers
    cases readUser
    cases readProfile
    cases readDrivers
    split at found
    · cases found
    · rename_i present
      split at found
      · cases found
      · rename_i passenger
        cases found
        refine ⟨user, profile, drivers, rfl, by simpa using passenger, ?_, rfl⟩
        cases user with
        | none => simpa using present
        | some user => simp
  · cases found

/-! ## The stored request -/

inductive DeletionStatus where
  | pending
  | processing
  | failed
  deriving DecidableEq

inductive DeletionPhase where
  | cleaning
  | authDeletionDispatched
  deriving DecidableEq

/-- A document of `_privacy_deletion_requests`. -/
structure DeletionRequest where
  status : DeletionStatus := .pending
  phase : Option DeletionPhase := none
  executorId : Option Nat := none
  generation : Nat := 0
  attempts : Nat := 0
  failures : Nat := 0
  targetCreatedAt : Option String
  nextAttemptAt : Nat
  deadlineAt : Option Nat := none
  resubmissions : Nat := 0
  recoveries : Nat := 0
  recoveredBy : Option String := none
  executorStopped : Bool := false
  lastErrorCode : Option DeletionError := none
  deriving DecidableEq

def failureLimit : Nat := 5

namespace DeletionRequest

/-- The transaction of `requestPrivacyDeletion`; `none` when it throws. -/
def submit (targetCreatedAt : Option String) (now : Nat) :
    Option DeletionRequest → Option DeletionRequest
  | none =>
    some
      { targetCreatedAt
        nextAttemptAt := now }
  | some existing =>
    if existing.targetCreatedAt.isSome &&
        existing.targetCreatedAt != targetCreatedAt then
      none
    else
      let again :=
        { existing with
          targetCreatedAt
          resubmissions := existing.resubmissions + 1 }
      some
        (if existing.status = .failed then
          { again with
            status := .pending
            failures := 0
            generation := existing.generation + 1
            nextAttemptAt := now
            phase := some .cleaning }
        else again)

/-- What an administrator says of the execution to be recovered from. -/
structure Recovery where
  expectedExecutorId : Option Nat
  expectedGeneration : Nat
  executorStopped : Bool
  adminUid : String

/-- The transaction of `recoverPrivacyDeletion`; `none` when it throws. -/
def recover (recovery : Recovery) (now : Nat) (data : DeletionRequest) :
    Option DeletionRequest :=
  let overdue := decide (data.deadlineAt.getD 0 ≤ now)
  if recovery.adminUid = "" || data.executorId != recovery.expectedExecutorId ||
      data.generation != recovery.expectedGeneration ||
      data.status == .pending ||
      (data.status == .processing && !(recovery.executorStopped && overdue))
  then
    none
  else
    some
      { data with
        status := .pending
        generation := recovery.expectedGeneration + 1
        failures := 0
        nextAttemptAt := now
        recoveredBy := some recovery.adminUid
        recoveries := data.recoveries + 1
        executorStopped := recovery.executorStopped }

/-- A worker may claim the request now. -/
def due (now : Nat) (data : DeletionRequest) : Bool :=
  data.status == .pending && decide (data.nextAttemptAt ≤ now)

def claim (executorId deadlineAt : Nat) (data : DeletionRequest) :
    DeletionRequest :=
  { data with
    status := .processing
    phase := some .cleaning
    executorId := some executorId
    generation := data.generation + 1
    attempts := data.attempts + 1
    deadlineAt := some deadlineAt }

def ownedBy (executorId generation : Nat) (data : DeletionRequest) : Bool :=
  data.status == .processing && data.executorId == some executorId &&
    data.generation == generation

/-- The identity found is another one than the request was made for. -/
def identityChanged (identity : Option String) (data : DeletionRequest) :
    Bool :=
  data.targetCreatedAt.isSome && identity.isSome &&
    data.targetCreatedAt != identity

/-- More pages are left: to be continued at once. -/
def requeue (now : Nat) (data : DeletionRequest) : DeletionRequest :=
  { data with
    status := .pending
    failures := 0
    nextAttemptAt := now }

/-- The failure of an execution, and when to try again. -/
def fail (error : DeletionError) (now delay : Nat) (data : DeletionRequest) :
    DeletionRequest :=
  let failures := data.failures + (if error = .fleetBusy then 0 else 1)
  { data with
    status :=
      if error = .accountIneligible ∨ failureLimit ≤ failures then .failed
      else .pending
    failures
    nextAttemptAt := now + delay
    lastErrorCode := some error }

theorem submit_some {targetCreatedAt : Option String} {now : Nat}
    {before after : DeletionRequest}
    (taken : submit targetCreatedAt now (some before) = some after) :
    (before.status = .failed ∧ after.status = .pending ∧
        after.generation = before.generation + 1) ∨
      (before.status ≠ .failed ∧ after.status = before.status ∧
        after.generation = before.generation ∧
        after.executorId = before.executorId) := by
  simp only [submit] at taken
  split at taken
  · cases taken
  · cases taken
    by_cases failed : before.status = .failed
    · left
      simp [failed]
    · right
      simp [failed]

theorem recover_eq_some {recovery : Recovery} {now : Nat}
    {before after : DeletionRequest}
    (taken : before.recover recovery now = some after) :
    before.status ≠ .pending ∧ after.status = .pending ∧
      after.generation = before.generation + 1 ∧
      after.targetCreatedAt = before.targetCreatedAt := by
  simp only [recover] at taken
  split at taken
  · cases taken
  · rename_i eligible
    simp only [Bool.or_eq_true, not_or, decide_eq_true_eq, bne_iff_ne,
      ne_eq, Decidable.not_not, beq_iff_eq] at eligible
    cases taken
    obtain ⟨⟨⟨-, current⟩, idle⟩, -⟩ := eligible
    exact ⟨idle, rfl, by simp [current], rfl⟩

theorem ownedBy_iff {executorId generation : Nat} {data : DeletionRequest} :
    data.ownedBy executorId generation = true ↔
      data.status = .processing ∧ data.executorId = some executorId ∧
        data.generation = generation := by
  simp [ownedBy, and_assoc]

end DeletionRequest

end Eki.Privacy
