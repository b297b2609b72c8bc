import Eki.Ride.Steps

/-!
# Ended sessions

A session that has ended keeps its status through every transaction that reads
it.  Two writes do not read it: the plain projection of a start without a key
and the failure of a created session.  Both can reach a session that ended after
the start had read it.
-/

namespace Eki

open Transition

variable {R : Type} [JsNumber R]

variable {before after : Firestore R} {sessionId written : String}
  {session : Option RideSession}

section

omit [JsNumber R]

variable
  (sessions : after.sessions = Function.update before.sessions written session)

include sessions

theorem statusOf_of_sessions (other : sessionId ≠ written) :
    after.statusOf sessionId = before.statusOf sessionId := by
  simp [Firestore.statusOf, sessions, other]

theorem statusOf_of_open (running : before.hasEnded written = false)
    (ended : before.hasEnded sessionId = true) :
    after.statusOf sessionId = before.statusOf sessionId := by
  apply statusOf_of_sessions sessions
  rintro rfl
  rw [running] at ended
  cases ended

theorem statusOf_of_same
    (same : session.map RideSession.status = before.statusOf written) :
    after.statusOf sessionId = before.statusOf sessionId := by
  by_cases other : sessionId = written
  · subst other
    simpa [Firestore.statusOf, sessions] using same
  · exact statusOf_of_sessions sessions other

end

def Process.projects : Process R → Option String
  | .start { step := .mergeSession projection _, .. } =>
    some projection.sessionId
  | .start { step := .commitBatch projection, .. } =>
    some projection.sessionId
  | _ => none

def Process.fails : Process R → Option String
  | .start { step := .failCreation sessionId, .. } => some sessionId
  | _ => none

variable {config : RideConfig R} {store : Store R}

omit [JsNumber R] in
private theorem sessions_of_claim {request : StartRequest}
    {pinned : Option String} {current : Option (LiveBus R)}
    {route : RouteDocument} {direction : Option RideDirection}
    {proposed : String} {next : Store R} {claim : LockClaim}
    (done : claimLock config request pinned current route direction proposed
      store = some (next, claim)) :
    ∃ session, next.sessions =
        Function.update store.sessions claim.sessionId session ∧
      store.hasEnded claim.sessionId = false := by
  rcases claimLock_eq_some done with ⟨held, session, reused⟩ | created
  · refine ⟨_, reused.sessions, ?_⟩
    rw [Firestore.hasEnded_of_stored reused.stored, reused.isOpen]
  · refine ⟨_, by rw [created.next], ?_⟩
    simp [Firestore.hasEnded, created.fresh]

theorem statusOf_of_writes {ambient : Ambient} {process : Process R}
    {next : Firestore R}
    (writes : Process.Writes config ambient store process next)
    (ended : store.hasEnded sessionId = true) :
    next.statusOf sessionId = store.statusOf sessionId ∨
      process.projects = some sessionId ∨
      (process.fails = some sessionId ∧
        next.statusOf sessionId = some .failed) := by
  cases writes with
  | nothing | mergeRide => exact .inl rfl
  | claimLock done =>
    obtain ⟨session, sessions, running⟩ := sessions_of_claim done
    exact .inl (statusOf_of_open sessions running ended)
  | resumeLock done =>
    obtain ⟨-, -, -, same⟩ := resumeLock_eq_some done
    rw [same]
    exact .inl rfl
  | @mergeSession request projection | @commitBatch request projection =>
    by_cases own : projection.sessionId = sessionId
    · exact .inr (.inl (by simp [Process.projects, own]))
    · exact .inl (statusOf_of_sessions rfl (Ne.symm own))
  | @failCreation request failed =>
    by_cases own : failed = sessionId
    · subst own
      refine .inr (.inr ⟨rfl, ?_⟩)
      obtain ⟨session, stored, -⟩ := Firestore.hasEnded_iff.mp ended
      simp [failCreation, Firestore.statusOf, stored]
    · exact .inl (statusOf_of_sessions rfl (Ne.symm own))
  | commitProjections done =>
    obtain ⟨stored, live, known, -, running, -, -, -, -, same⟩ :=
      commitCreationProjections_eq_some done
    refine .inl (statusOf_of_open (by rw [same]) ?_ ended)
    rw [Firestore.hasEnded_of_stored known, running]
  | stop done =>
    obtain ⟨current, stored, -, notCompleted, notFailed, same⟩ :=
      stopSession_eq_some done
    left
    cases status : current.status with
    | completed => exact absurd status notCompleted
    | failed => exact absurd status notFailed
    | interrupted =>
      refine statusOf_of_same (by rw [same]) ?_
      simp [Firestore.statusOf, stored, status]
    | pending | armed | active =>
      refine statusOf_of_open (by rw [same]) ?_ ended
      rw [Firestore.hasEnded_of_stored stored, status]
      rfl
  | persistDelay =>
    left
    rw [persistDelay_frame]
    rfl
  | @reconcile reconciled busId routeId =>
    left
    rcases reconcileSession_cases reconciled busId routeId ambient.observed
      store with same | ⟨session, stored, running, same⟩
    · rw [same]
    · refine statusOf_of_open (by rw [same]) ?_ ended
      rw [Firestore.hasEnded_of_stored stored, running]
  | @persist update =>
    left
    rcases persistActiveRideLifecycle_cases update store with
      same | ⟨carried, driverId, -, -, -, same⟩
    · rw [same]
    · rw [same]
      cases stored : store.sessions carried with
      | none => rfl
      | some session =>
        simp only
        split
        · rename_i activates
          simp only [Bool.and_eq_true, Bool.not_eq_true'] at activates
          refine statusOf_of_open rfl ?_ ended
          rw [Firestore.hasEnded_of_stored stored, activates.1]
        · rfl
  | @complete update next completion done =>
    left
    rcases completeSession_eq_some done with
      ⟨absent, rfl⟩ | ⟨completed, carried, ⟨-, -, rfl⟩ | ⟨running, -, -, rfl⟩⟩
    · simp [recordCompletion, absent, Firestore.statusOf]
    · rfl
    · have sessions := congrArg (fun store => store.sessions)
        (recordCompletion_session carried completion store)
      refine statusOf_of_open sessions ?_ ended
      obtain ⟨session, stored, open'⟩ := Firestore.isOpen_iff.mp running
      rw [Firestore.hasEnded_of_stored stored, open']
  | createReturn done =>
    obtain ⟨journey, completed, created⟩ := create_eq_some done
    refine .inl (statusOf_of_open created.sessions ?_ ended)
    simp [Firestore.hasEnded, created.fresh]

omit [JsNumber R] in
theorem statusOf_of_operation {operation : Operation} {next : Firestore R}
    (writes : Operation.Writes store operation next) (sessionId : String) :
    next.statusOf sessionId = store.statusOf sessionId := by
  cases writes with
  | nothing => rfl
  | firmware =>
    rw [firmwareMaintenance_frame]
    rfl
  | rearm =>
    rw [rearmAfterEarlyEnd_frame]
    rfl
  | @persistDirection request =>
    rcases persistResolvedSessionDirection_cases request store with
      same | ⟨session, lock, stored, -, -, same⟩
    · rw [same]
    · refine statusOf_of_same (by rw [same]) ?_
      simp [Firestore.statusOf, stored]

/-- No plain projection and no failure is written over an ended session. -/
def World.writesOpenSessions (world : World R) (label : Label R) : Bool :=
  (world.running label).all fun process =>
    (process.projects.all fun sessionId =>
        !world.store.hasEnded sessionId) &&
      process.fails.all fun sessionId => !world.store.hasEnded sessionId

variable {world : World R}

theorem statusOf_of_took {next : World R} {label : Label R}
    (took : World.Took config world label next)
    (ended : world.store.hasEnded sessionId = true) :
    next.store.statusOf sessionId = world.store.statusOf sessionId ∨
      ∃ process, world.running label = some process ∧
        (process.projects = some sessionId ∨
          (process.fails = some sessionId ∧
            next.store.statusOf sessionId = some .failed)) := by
  cases took with
  | accept | crash => exact .inl rfl
  | run inFlight =>
    rcases statusOf_of_writes (Process.writes_advance config _ _ _) ended with
      same | written
    · exact .inl same
    · exact .inr ⟨_, inFlight, written⟩
  | perform =>
    exact .inl (statusOf_of_operation (Operation.writes_perform _ _) _)

omit [JsNumber R] in
theorem hasEnded_of_statusOf
    (same : after.statusOf sessionId = before.statusOf sessionId)
    (ended : before.hasEnded sessionId = true) :
    after.hasEnded sessionId = true := by
  obtain ⟨session, stored, terminal⟩ := Firestore.hasEnded_iff.mp ended
  simp only [Firestore.statusOf, stored, Option.map_some,
    Option.map_eq_some_iff] at same
  obtain ⟨later, stillStored, status⟩ := same
  exact Firestore.hasEnded_iff.mpr ⟨later, stillStored, by rwa [status]⟩

theorem statusOf_of_openStep {next : World R} {label : Label R}
    (took : World.Took config world label next)
    (openOnly : world.writesOpenSessions label = true)
    (ended : world.store.hasEnded sessionId = true) :
    next.store.statusOf sessionId = world.store.statusOf sessionId := by
  rcases statusOf_of_took took ended with kept | ⟨process, running, written⟩
  · exact kept
  · simp only [World.writesOpenSessions, running, Option.all_some,
      Bool.and_eq_true] at openOnly
    rcases written with projected | ⟨failed, -⟩
    · simp [projected, ended] at openOnly
    · simp [failed, ended] at openOnly

/-- **An ended session keeps its status** in every run that writes plain
projections and failures to open sessions only. -/
theorem ended_status_is_final (config : RideConfig R) {first last : World R}
    (steps : System.Steps (World.step config)
      (fun world label => world.writesOpenSessions label = true) first last)
    {sessionId : String} (ended : first.store.hasEnded sessionId = true) :
    last.store.statusOf sessionId = first.store.statusOf sessionId := by
  have final : last.store.hasEnded sessionId = true ∧
      last.store.statusOf sessionId = first.store.statusOf sessionId := by
    induction steps with
    | refl => exact ⟨ended, rfl⟩
    | step before openOnly taken induction =>
      obtain ⟨stillEnded, same⟩ := induction
      have kept := statusOf_of_openStep (World.took_of_step taken)
        openOnly stillEnded
      exact ⟨hasEnded_of_statusOf kept stillEnded, kept.trans same⟩
  exact final.2

/-- A small fleet: one driver, two buses whose ids and routes give one key. -/
def demoRegistry (driverBusId : String) : Registry :=
  { drivers := [{ id := "driver", assignedBusId := some driverBusId }]
    buses := fun busId =>
      if busId = "a" then some { assignedRoutes := ["r", "b_c"] }
      else if busId = "a_b" then some { assignedRoutes := ["c"] }
      else none
    devices := fun _ => none
    routes := fun _ =>
      some
        { version := 1
          endpointSnapshotVersion := some "v" } }

def demoConfig : RideConfig ℚ :=
  { createHash := id
    automaticTurnaroundDwellMs := 30000
    terminalArrivalConfirmationMs := 2000 }

def demoAssignment : ServiceAssignment :=
  { driverId := "driver"
    busId := "a"
    routeId := "r" }

def firstSession : String := "sessionsession000001"

def demoStart (idempotencyKey : Option String) : Request ℚ :=
  .start
    { assignment := demoAssignment
      origin := .manual "operator" idempotencyKey }

def demoStop (sessionId : String) : Request ℚ :=
  .stop
    { driverId := none
      busId := "a"
      routeId := "r"
      sessionId }

/-- Run `count` steps of a request. -/
def runSteps (pid count : Nat) (ambient : Ambient) : List (Label ℚ) :=
  List.replicate count (.run pid ambient)

def firstRide : Ambient :=
  { autoId := firstSession
    direction := some .forward }

def demoFleet : List (Label ℚ) :=
  [.perform (.configure (demoRegistry "a")),
    .perform (.telemetry
      { busId := "a"
        routeId := "r"
        assignmentRevision := 0 })]

def stoppedRide : List (Label ℚ) :=
  demoFleet ++ [.accept 0 (demoStart none)] ++ runSteps 0 8 firstRide ++
    [.accept 1 (demoStop firstSession)] ++ runSteps 1 3 firstRide

def afterStoppedRide : List (Label ℚ) :=
  [.accept 1 (demoStop firstSession)] ++ runSteps 1 3 firstRide ++
    [.accept 0 (demoStart none)] ++
    runSteps 0 8 { firstRide with autoId := "sessionsession000002" }

/-- A start, a second one that stands before its plain merges, and a stop. -/
def resumeBeforeStop : List (Label ℚ) :=
  demoFleet ++ [.accept 0 (demoStart none)] ++ runSteps 0 8 firstRide ++
    [.accept 1 (demoStart none)] ++ runSteps 1 4 firstRide ++
    [.accept 2 (demoStop firstSession)] ++ runSteps 2 3 firstRide

/-- The unconditional statement: no later step changes an ended status. -/
def EndedStatusIsFinal (config : RideConfig R) : Prop :=
  ∀ (middle last : World R) (sessionId : String),
    System.Steps (World.step config) (fun _ _ => True) .empty middle →
    System.Steps (World.step config) (fun _ _ => True) middle last →
    middle.store.hasEnded sessionId = true →
    last.store.statusOf sessionId = middle.store.statusOf sessionId

def firstStatus (check : World ℚ → Label ℚ → Bool)
    (labels : List (Label ℚ)) : Option SessionStatus :=
  (System.run (World.step demoConfig) check .empty labels).bind fun world =>
    world.store.statusOf firstSession

omit [JsNumber R] in
theorem hasEnded_of_firstStatus {status : SessionStatus}
    (stored : world.store.statusOf firstSession = some status)
    (terminal : status.terminal = true) :
    world.store.hasEnded firstSession = true := by
  obtain ⟨session, found, same⟩ := Option.map_eq_some_iff.mp stored
  exact Firestore.hasEnded_iff.mpr ⟨session, found, by rwa [same]⟩

theorem ended_status_is_final_stopped :
    ∃ first last : World ℚ,
      System.Steps (World.step demoConfig)
        (fun world label => world.writesOpenSessions label = true)
        first last ∧
      first.store.hasEnded firstSession = true ∧
      last.store.statusOf firstSession =
        first.store.statusOf firstSession := by
  have stopped : firstStatus World.writesOpenSessions stoppedRide =
      some .interrupted := by
    decide +kernel
  have later : firstStatus World.writesOpenSessions
      (stoppedRide ++ afterStoppedRide) = some .interrupted := by
    decide +kernel
  obtain ⟨first, ran, status⟩ := Option.bind_eq_some_iff.mp stopped
  rw [firstStatus, System.run_append, ran] at later
  obtain ⟨last, ranOn, -⟩ := Option.bind_eq_some_iff.mp later
  have steps : System.Steps (World.step demoConfig)
      (fun world label => world.writesOpenSessions label = true)
      first last :=
    System.steps_of_run ranOn fun _ _ => id
  have ended := hasEnded_of_firstStatus status rfl
  exact ⟨first, last, steps, ended,
    ended_status_is_final demoConfig steps ended⟩

/-- The plain merges of a delayed resume reactivate an interrupted session. -/
theorem ended_status_resumes : ¬ EndedStatusIsFinal demoConfig := by
  intro final
  have interrupted :
      firstStatus (fun _ _ => true) resumeBeforeStop = some .interrupted := by
    decide +kernel
  have resumed :
      firstStatus (fun _ _ => true)
        (resumeBeforeStop ++ runSteps 1 2 firstRide) = some .active := by
    decide +kernel
  obtain ⟨middle, ran, status⟩ := Option.bind_eq_some_iff.mp interrupted
  rw [firstStatus, System.run_append, ran] at resumed
  obtain ⟨last, ranOn, later⟩ := Option.bind_eq_some_iff.mp resumed
  have kept := final middle last firstSession
    (System.steps_of_run ran fun _ _ _ => trivial)
    (System.steps_of_run ranOn fun _ _ _ => trivial)
    (hasEnded_of_firstStatus status rfl)
  rw [status, later] at kept
  cases kept

end Eki
