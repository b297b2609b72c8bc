import Eki.Library.Transition
import Mathlib.Algebra.Order.Ring.Rat

/-!
# Deadlines of an ingestion

The budget of a request may run out while its live write is on its way.  The
device is told whether the write was dispatched, and what it is told stays
right: nothing is dispatched or proposed after the answer.
-/

namespace Eki

structure ExecutionDeadlineError where
  stage : String
  uncertainCommit : Bool

structure ActiveDependency where
  stage : String
  expiresAt : ℚ
  deriving DecidableEq

structure ExecutionDeadline where
  responseAt : ℚ
  dependencyMs : ℚ
  expired : Option ExecutionDeadlineError := none
  writeDispatched : Bool := false
  activeDependency : Option ActiveDependency := none

namespace ExecutionDeadline

def new (responseMs dependencyMs now : ℚ) : Except String ExecutionDeadline :=
  if 0 < responseMs ∧ 0 < dependencyMs then
    .ok { responseAt := now + responseMs, dependencyMs }
  else .error "Invalid execution deadlines."

def expire (stage : String) (deadline : ExecutionDeadline) :
    ExecutionDeadline :=
  if deadline.expired.isSome then deadline
  else { deadline with expired := some ⟨stage, deadline.writeDispatched⟩ }

/-- It throws what is `expired` then. -/
def assert (now : ℚ) (deadline : ExecutionDeadline) : ExecutionDeadline :=
  let checked :=
    if deadline.responseAt ≤ now then deadline.expire "response" else deadline
  match checked.activeDependency with
  | none => checked
  | some active =>
    if active.expiresAt ≤ now then checked.expire active.stage else checked

def markWriteDispatched (now : ℚ) (deadline : ExecutionDeadline) :
    ExecutionDeadline :=
  let checked := deadline.assert now
  if checked.expired.isSome then checked
  else { checked with writeDispatched := true }

/-- The start of `dependency`, up to its work. -/
def dependency (stage : String) (now : ℚ) (deadline : ExecutionDeadline) :
    ExecutionDeadline :=
  let checked := deadline.assert now
  if checked.expired.isSome then checked
  else { checked with
    activeDependency := some {
      stage
      expiresAt := min checked.responseAt (now + checked.dependencyMs) } }

/-- The end of `dependency`, after work that returned. -/
def returned (current : ActiveDependency)
    (previous : Option ActiveDependency) (now : ℚ)
    (deadline : ExecutionDeadline) : ExecutionDeadline :=
  let late :=
    if current.expiresAt ≤ now then deadline.expire current.stage else deadline
  let checked := late.assert now
  { checked with
    activeDependency :=
      if checked.activeDependency = some current then previous
      else checked.activeDependency }

variable {deadline later : ExecutionDeadline}

/-- It expires at most once, and tells whether the write was dispatched. -/
structure Keeps (deadline later : ExecutionDeadline) : Prop where
  writeDispatched : later.writeDispatched = deadline.writeDispatched
  expired : later.expired = deadline.expired ∨
    deadline.expired = none ∧ ∃ stage, later.expired =
      some ⟨stage, deadline.writeDispatched⟩

theorem Keeps.refl : Keeps deadline deadline := ⟨rfl, .inl rfl⟩

theorem Keeps.trans {last : ExecutionDeadline} (first : Keeps deadline later)
    (second : Keeps later last) : Keeps deadline last := by
  refine ⟨second.writeDispatched.trans first.writeDispatched, ?_⟩
  rcases second.expired with same | ⟨before, stage, told⟩
  · rw [same]
    exact first.expired
  · right
    rw [first.writeDispatched] at told
    rcases first.expired with same | ⟨-, stage, other⟩
    · exact ⟨same.symm.trans before, stage, told⟩
    · rw [before] at other
      cases other

theorem Keeps.isSome (keeps : Keeps deadline later)
    (expired : deadline.expired.isSome = true) :
    later.expired.isSome = true := by
  rcases keeps.expired with same | ⟨before, -⟩
  · rw [same]
    exact expired
  · rw [before] at expired
    cases expired

theorem keeps_expire (stage : String) :
    Keeps deadline (deadline.expire stage) := by
  unfold expire
  split
  · exact .refl
  · rename_i open'
    exact ⟨rfl, .inr ⟨by simpa using open', stage, rfl⟩⟩

theorem keeps_ite (late : Prop) [Decidable late] (stage : String) :
    Keeps deadline (if late then deadline.expire stage else deadline) := by
  split
  · exact keeps_expire stage
  · exact .refl

theorem keeps_assert (now : ℚ) : Keeps deadline (deadline.assert now) := by
  dsimp only [assert]
  split
  · exact keeps_ite _ _
  · exact (keeps_ite _ _).trans (keeps_ite _ _)

theorem keeps_dependency (stage : String) (now : ℚ) :
    Keeps deadline (deadline.dependency stage now) := by
  have checked : Keeps deadline (deadline.assert now) := keeps_assert now
  dsimp only [dependency]
  split
  · exact checked
  · exact ⟨checked.writeDispatched, checked.expired⟩

theorem keeps_returned (current : ActiveDependency)
    (previous : Option ActiveDependency) (now : ℚ) :
    Keeps deadline (deadline.returned current previous now) := by
  have late : Keeps deadline (ExecutionDeadline.assert now
      (if current.expiresAt ≤ now then deadline.expire current.stage
        else deadline)) :=
    (keeps_ite _ _).trans (keeps_assert now)
  exact ⟨late.writeDispatched, late.expired⟩

end ExecutionDeadline

/-- An error that is a `TelemetryExecutionFailure` comes from the deadline of
the request, or from work that it shares with a request that is as early. -/
inductive OperationError where
  | expired
  | shared
  | other

/-- A request of `ingestDeviceTelemetry`. -/
structure Ingestion (Result : Type) where
  deadline : ExecutionDeadline
  operation : Option (Except OperationError Result) := none
  dispatched : Bool := false
  transactionAttempts : Nat := 0

/-- What the operation does until it settles, in any order. -/
inductive IngestAction (Result : Type) where
  | assert (now : ℚ)
  | dependency (stage : String) (now : ℚ)
  | returned (current : ActiveDependency)
    (previous : Option ActiveDependency) (now : ℚ)
  | persist (now : ℚ)
  | evaluate (now : ℚ)
  | settle (outcome : Except OperationError Result)

namespace Ingestion

open ExecutionDeadline Transition

variable {Result : Type}

def mayFail (request : Ingestion Result) : OperationError → Bool
  | .expired => request.deadline.expired.isSome
  | .shared => !request.dispatched
  | .other => true

def act (request : Ingestion Result) :
    IngestAction Result → Option (Ingestion Result)
  | .assert now =>
    some { request with deadline := request.deadline.assert now }
  | .dependency stage now =>
    some { request with deadline := request.deadline.dependency stage now }
  | .returned current previous now =>
    some { request with
      deadline := request.deadline.returned current previous now }
  | .persist now =>
    let deadline := request.deadline.markWriteDispatched now
    some { request with
      deadline
      dispatched := request.dispatched || deadline.expired.isNone }
  | .evaluate now =>
    let deadline := request.deadline.assert now
    some { request with
      deadline
      transactionAttempts := request.transactionAttempts +
        if deadline.expired.isNone then 1 else 0 }
  | .settle (.ok result) =>
    some { request with operation := some (.ok result) }
  | .settle (.error error) =>
    if request.mayFail error then
      some { request with operation := some (.error error) }
    else none

/-- The timers run beside the operation. -/
def step : System (Ingestion Result) (String ⊕ IngestAction Result) :=
  fun request label =>
    match label with
    | .inl stage =>
      some { request with deadline := request.deadline.expire stage }
    | .inr action =>
      if request.operation.isSome then none else request.act action

/-- `uncertainCommit` of the failure that `waitForResponse`, or the `catch`
around it, throws at a time when the expiry, or else the operation, wins. -/
def failure (request : Ingestion Result) (now : ℚ) : Bool → Option Bool
  | true => request.deadline.expired.map (·.uncertainCommit)
  | false =>
    match request.operation with
    | none => none
    | some (.ok _) =>
      (request.deadline.assert now).expired.map (·.uncertainCommit)
    | some (.error .expired) =>
      request.deadline.expired.map (·.uncertainCommit)
    | some (.error .shared) => some false
    | some (.error .other) => some request.deadline.writeDispatched

/-- What a device is told of the commit when its request fails. -/
def commitState (uncertainCommit : Bool) : String :=
  if uncertainCommit then "unknown" else "not_dispatched"

structure Sound (request : Ingestion Result) : Prop where
  dispatched : request.deadline.writeDispatched = request.dispatched
  expired : ∀ error, request.deadline.expired = some error →
    error.uncertainCommit = request.dispatched
  shared : request.operation = some (.error .shared) →
    request.dispatched = false

/-- No write is dispatched any more. -/
def Over (request : Ingestion Result) : Prop :=
  request.deadline.expired.isSome = true ∨ request.operation.isSome = true

variable {request next : Ingestion Result} {deadline : ExecutionDeadline}
  {label : String ⊕ IngestAction Result} {action : IngestAction Result}
  {uncertainCommit : Bool} {now : ℚ}

/-- All that a step can do. -/
inductive Acts (request : Ingestion Result) : Ingestion Result → Prop where
  | keeps {next : Ingestion Result}
    (deadline : Keeps request.deadline next.deadline)
    (dispatched : next.dispatched = request.dispatched)
    (operation : next.operation = request.operation)
    (attempts : request.Over →
      next.transactionAttempts = request.transactionAttempts) :
    Acts request next
  | marks {deadline : ExecutionDeadline} (goes : ¬ request.Over)
    (unexpired : deadline.expired = none)
    (marked : deadline.writeDispatched = true) :
    Acts request { request with deadline, dispatched := true }
  | settles {outcome : Except OperationError Result}
    (may : ∀ error, outcome = .error error → request.mayFail error = true) :
    Acts request { request with operation := some outcome }

theorem acts_of_step (taken : step request label = some next) :
    Acts request next := by
  unfold step at taken
  split at taken
  · cases taken
    exact .keeps (keeps_expire _) rfl rfl fun _ => rfl
  split at taken
  · cases taken
  rename_i running
  have expired (past : request.Over) := past.resolve_right running
  unfold act at taken
  split at taken
  · cases taken
    exact .keeps (keeps_assert _) rfl rfl fun _ => rfl
  · cases taken
    exact .keeps (keeps_dependency _ _) rfl rfl fun _ => rfl
  · cases taken
    exact .keeps (keeps_returned _ _ _) rfl rfl fun _ => rfl
  · rename_i now
    have checked : Keeps request.deadline _ := keeps_assert now
    cases taken
    dsimp only [markWriteDispatched]
    split
    · rename_i thrown
      refine .keeps checked ?_ rfl fun _ => rfl
      simp [Option.isNone_eq_false_iff.mpr thrown]
    · rename_i unexpired
      have none := Option.not_isSome_iff_eq_none.mp unexpired
      simp only [none, Option.isNone_none, Bool.or_true]
      exact .marks (fun past => unexpired (checked.isSome (expired past))) rfl
        rfl
  · rename_i now
    cases taken
    refine .keeps (keeps_assert now) rfl rfl fun past => ?_
    have still := (keeps_assert now).isSome (expired past)
    simp [Option.isNone_eq_false_iff.mpr still]
  · cases taken
    exact .settles (by simp)
  · split at taken
    · rename_i may
      cases taken
      exact .settles (by rintro _ ⟨⟩; exact may)
    · cases taken

theorem Sound.expires (sound : Sound request)
    (keeps : Keeps request.deadline deadline) {error : ExecutionDeadlineError}
    (thrown : deadline.expired = some error) :
    error.uncertainCommit = request.dispatched := by
  rcases keeps.expired with same | ⟨-, stage, told⟩
  · exact sound.expired error (same ▸ thrown)
  · rw [told] at thrown
    cases thrown
    exact sound.dispatched

theorem sound_step (sound : Sound request)
    (taken : step request label = some next) : Sound next := by
  cases acts_of_step taken with
  | keeps deadline dispatched operation =>
    refine ⟨?_, ?_, ?_⟩
    · rw [deadline.writeDispatched, dispatched]
      exact sound.dispatched
    · intro error thrown
      rw [dispatched]
      exact sound.expires deadline thrown
    · rw [operation, dispatched]
      exact sound.shared
  | marks goes unexpired marked =>
    refine ⟨marked, by simp [unexpired], ?_⟩
    intro failed
    exact absurd (.inr (by rw [failed]; rfl)) goes
  | settles may =>
    refine ⟨sound.dispatched, sound.expired, ?_⟩
    rintro ⟨⟩
    exact (Bool.not_eq_true' _).mp (may _ rfl)

theorem over_step (past : request.Over)
    (taken : step request label = some next) :
    next.Over ∧ next.dispatched = request.dispatched ∧
      next.transactionAttempts = request.transactionAttempts := by
  cases acts_of_step taken with
  | keeps deadline dispatched operation attempts =>
    refine ⟨?_, dispatched, attempts past⟩
    unfold Over
    rw [operation]
    exact past.imp_left deadline.isSome
  | marks goes => exact absurd past goes
  | settles => exact ⟨.inr rfl, rfl, rfl⟩

theorem Sound.failure {byExpiry : Bool} (sound : Sound request)
    (fails : request.failure now byExpiry = some uncertainCommit) :
    uncertainCommit = request.dispatched ∧ request.Over := by
  have told {error : Option ExecutionDeadlineError}
      (named : ∀ thrown, error = some thrown →
        thrown.uncertainCommit = request.dispatched)
      (fails : error.map (·.uncertainCommit) = some uncertainCommit) :
      uncertainCommit = request.dispatched ∧ error.isSome = true := by
    obtain ⟨thrown, expired, rfl⟩ := Option.map_eq_some_iff.mp fails
    exact ⟨named thrown expired, by rw [expired]; rfl⟩
  unfold Ingestion.failure at fails
  split at fails
  · exact (told sound.expired fails).imp_right .inl
  · split at fails
    · cases fails
    · rename_i settled
      have said := told (fun _ => sound.expires (keeps_assert now)) fails
      exact ⟨said.1, .inr (by rw [settled]; rfl)⟩
    · exact (told sound.expired fails).imp_right .inl
    · rename_i settled
      cases fails
      exact ⟨(sound.shared settled).symm, .inr (by rw [settled]; rfl)⟩
    · rename_i settled
      cases fails
      exact ⟨sound.dispatched, .inr (by rw [settled]; rfl)⟩

/-- What the device is told of the commit when its request fails is so, and
stays so: no write is dispatched and no transaction evaluated after that. -/
theorem commit_state_is_final {responseMs dependencyMs start : ℚ}
    {byExpiry : Bool} {later : Ingestion Result}
    (began : ExecutionDeadline.new responseMs dependencyMs start =
      .ok deadline)
    (steps : System.Steps step (fun _ _ => True) { deadline } request)
    (fails : request.failure now byExpiry = some uncertainCommit)
    (after : System.Steps step (fun _ _ => True) request later) :
    (commitState uncertainCommit = "not_dispatched" ↔
        later.dispatched = false) ∧
      later.transactionAttempts = request.transactionAttempts := by
  have fresh : Sound ({ deadline } : Ingestion Result) := by
    unfold ExecutionDeadline.new at began
    split at began
    · cases began
      refine ⟨rfl, ?_, ?_⟩ <;> simp
    · cases began
  have sound : Sound request := by
    apply steps.invariant fresh
    intro before label next sound _ taken
    exact sound_step sound taken
  obtain ⟨said, past⟩ := sound.failure fails
  obtain ⟨-, dispatched, attempts⟩ : later.Over ∧
      later.dispatched = request.dispatched ∧
      later.transactionAttempts = request.transactionAttempts := by
    apply after.invariant ⟨past, rfl, rfl⟩
    rintro before label next ⟨past, dispatched, attempts⟩ - taken
    obtain ⟨past, dispatchedNow, attemptsNow⟩ := over_step past taken
    exact ⟨past, dispatchedNow.trans dispatched, attemptsNow.trans attempts⟩
  refine ⟨?_, attempts⟩
  rw [dispatched, ← said]
  cases uncertainCommit <;> simp [commitState]

def demoDeadline : ExecutionDeadline where
  responseAt := 8000
  dependencyMs := 5000

/-- The budget is over while the write of the request is on its way. -/
def unconfirmed : Ingestion Unit where
  deadline :=
    { demoDeadline with
      expired := some ⟨"response", true⟩
      writeDispatched := true }
  dispatched := true
  transactionAttempts := 1

/-- The budget is over before there is a write. -/
def unwritten : Ingestion Unit where
  deadline := { demoDeadline with expired := some ⟨"response", false⟩ }

/-- A write and a transaction that come after the answer. -/
def lateActions : List (String ⊕ IngestAction Unit) :=
  [.inr (.persist 9000), .inr (.evaluate 9000)]

theorem commit_state_is_final_late :
    ∃ late other : Ingestion Unit,
      System.run step (fun _ _ => true) unconfirmed lateActions = some late ∧
      (commitState true = "not_dispatched" ↔ late.dispatched = false) ∧
      late.transactionAttempts = 1 ∧
      System.run step (fun _ _ => true) unwritten lateActions = some other ∧
      (commitState false = "not_dispatched" ↔ other.dispatched = false) ∧
      other.transactionAttempts = 0 := by
  have began : ExecutionDeadline.new 8000 5000 0 = .ok demoDeadline := by
    rw [ExecutionDeadline.new, if_pos (by decide), zero_add]
    rfl
  have wrote : System.run step (fun _ _ => true)
      ({ deadline := demoDeadline } : Ingestion Unit)
      [.inr (.persist 1), .inr (.evaluate 2), .inl "response"] =
        some unconfirmed := rfl
  have waited : System.run step (fun _ _ => true)
      ({ deadline := demoDeadline } : Ingestion Unit)
      [.inr (.assert 1), .inl "response"] = some unwritten := rfl
  have refused : System.run step (fun _ _ => true) unconfirmed lateActions =
      some unconfirmed := rfl
  have thrown : System.run step (fun _ _ => true) unwritten lateActions =
      some unwritten := rfl
  obtain ⟨unknown, once⟩ := commit_state_is_final began
    (System.steps_of_run wrote fun _ _ _ => trivial)
    (by exact (rfl : unconfirmed.failure 8000 true = some true))
    (System.steps_of_run refused fun _ _ _ => trivial)
  obtain ⟨undispatched, never⟩ := commit_state_is_final began
    (System.steps_of_run waited fun _ _ _ => trivial)
    (by exact (rfl : unwritten.failure 8000 true = some false))
    (System.steps_of_run thrown fun _ _ _ => trivial)
  exact ⟨_, _, refused, unknown, once, thrown, undispatched, never⟩

end Ingestion

end Eki
