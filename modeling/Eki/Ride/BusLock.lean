import Eki.Ride.Ledger
import Eki.Ride.TerminalStatus

/-!
# Bus locks

Every bus lock that names a session names the one open session of its bus, and
every open session has the lock of its bus.  A start with a key reads the
session that it writes, and so moves the ledger as a transaction may; only a
resume can lock a bus for a session that is stored under another one.
-/

namespace Eki

open Transition Ownership

variable {R : Type} [JsNumber R]

structure Projection.KnowsBus (store : Firestore R)
    (projection : Projection) : Prop where
  opens : projection.status.terminal = false
  bus : projection.resumed = true →
    store.busOf projection.sessionId = some projection.assignment.busId

/-- A start with a key only takes steps that read the session they write, and
knows the bus of a session it may fail or project over. -/
def StartStep.KnowsBus (store : Firestore R) (busId : String) :
    StartStep R → Prop
  | .mergeSession _ _ | .mergeRide _ _ | .commitBatch _ => False
  | .readRecovery _ claim | .claimLive _ claim _ =>
    claim.created = true → store.busOf claim.sessionId = some busId
  | .failCreation sessionId => store.busOf sessionId = some busId
  | .readProjectionLive projection | .commitProjections projection _ _ =>
    projection.KnowsBus store
  | _ => True

def ReconcileStep.KnowsBus (store : Firestore R) (sessionId : String) :
    ReconcileStep → Prop
  | .read => True
  | .retireLive busId _ | .commit busId _ =>
    store.busOf sessionId = some busId

def Process.KnowsBus (store : Firestore R) : Process R → Prop
  | .start process =>
    process.request.idempotencyKey.isSome = true ∧
      process.step.KnowsBus store process.request.assignment.busId
  | .reconcile process => process.step.KnowsBus store process.sessionId
  | _ => True

def Request.keyed : Request R → Bool
  | .start request => request.idempotencyKey.isSome
  | _ => true

def Label.keyedStarts : Label R → Bool
  | .accept _ request => request.keyed
  | _ => true

/-- A resume that would lock a free bus for an open session finds that session
stored under its own bus. -/
def Process.resumesOwnBus (store : Store R) : Process R → Bool
  | .start { request, step := .resumeLock _ sessionId } =>
    (store.locks request.assignment.busId).isSome ||
      (store.sessions sessionId).all fun session =>
        session.status.terminal || session.busId == request.assignment.busId
  | _ => true

def World.resumesOwnBus (world : World R) (label : Label R) : Bool :=
  (world.running label).all fun process =>
    process.resumesOwnBus world.store

variable {config : RideConfig R} {request : StartRequest}
  {store next : Store R}

omit [JsNumber R] in
private theorem moves_of_claimLock {pinned : Option String}
    {current : Option (LiveBus R)} {route : RouteDocument}
    {direction : Option RideDirection} {proposed : String} {claim : LockClaim}
    (done : claimLock config request pinned current route direction proposed
      store = some (next, claim)) : store.Moves next.toFirestore := by
  rcases claimLock_eq_some done with ⟨held, session, reused⟩ | created
  · obtain ⟨resolved, locks⟩ := reused.locks
    apply Firestore.Moves.rewrite reused.sessions reused.stored rfl rfl
    apply lock_of_same locks
    rw [reused.locked]
    rfl
  · have sessions := congrArg (fun store => store.sessions) created.next
    have locks := congrArg (fun store => store.locks) created.next
    exact .create sessions locks created.fresh created.free rfl rfl

variable {sessionId : String}

omit [JsNumber R] in
private theorem moves_of_resumeLock {current : LiveBus R}
    (agrees : store.ledger.Agrees)
    (keyed : request.idempotencyKey.isSome = true)
    (own : Process.resumesOwnBus store
      (.start
        { request
          step := .resumeLock current sessionId }) = true)
    (done : resumeLock config request current sessionId store = some next) :
    store.Moves next.toFirestore ∧
      store.busOf sessionId = some request.assignment.busId := by
  obtain ⟨running, known, lock, same⟩ := resumeLock_eq_some done
  have named : store.ledger.held sessionId =
      some request.assignment.busId := by
    rcases lock with free | held
    · have keyBound : (request.keyRef config).isSome = true := by
        simpa [StartRequest.keyRef] using keyed
      obtain ⟨session, stored⟩ :=
        Option.isSome_iff_exists.mp (known keyBound)
      rw [Firestore.hasEnded_of_stored stored] at running
      simp only [Process.resumesOwnBus, free, Option.isSome_none,
        Bool.false_or, stored, Option.all_some, running,
        beq_iff_eq] at own
      exact held_eq_some.mpr ⟨session, stored, running, own⟩
    · exact (agrees _ _).mp held
  refine ⟨Firestore.Moves.same (by rw [same]) ?_, bus_of_held named⟩
  have locks : next.locks =
      Function.update store.locks request.assignment.busId
        (some
          (.ride
            { toServiceAssignment := request.assignment
              sessionId
              direction := current.direction })) := by
    rw [same]
  exact lock_of_same locks ((agrees _ _).mpr named).symm

omit [JsNumber R] in
private theorem moves_of_commitProjections {projection : Projection}
    {nodeKey : String} {node : Option (LiveBus R)}
    (knows : projection.KnowsBus store.toFirestore)
    (done : commitCreationProjections request projection nodeKey node store =
      some next) : store.Moves next.toFirestore := by
  obtain ⟨stored, live, known, -, running, -, -, -, -, same⟩ :=
    commitCreationProjections_eq_some done
  have sessions := congrArg (fun store => store.sessions) same
  have locks := congrArg (fun store => store.locks) same
  refine .rewrite sessions known ?_ ?_ ?_
  · by_cases resumed : projection.resumed = true
    · have bus := knows.bus resumed
      rw [busOf_of_stored known] at bus
      simp [Projection.overSession, resumed, Option.some.inj bus]
    · simp [Projection.overSession, resumed]
  · rw [running]
    simp only [Projection.overSession]
    split
    · rfl
    · split
      · rfl
      · exact knows.opens
  · simp [Firestore.ledger, locks]

variable {busId : String}

section

omit [JsNumber R]

private theorem finish_of_stored {before after : Firestore R}
    {session written : RideSession} (sessions : after.sessions =
      Function.update before.sessions sessionId (some written))
    (locks : after.locks =
      if lockSession (before.locks busId) == some sessionId then
        Function.update before.locks busId none
      else before.locks) (stored : before.sessions sessionId = some session)
    (bus : written.busId = session.busId)
    (ended : written.status.terminal = true)
    (own : ∀ other, before.ledger.held sessionId = some other →
      other = busId) : before.Moves after := by
  refine .finish sessions locks ?_ ?_ own
  · simp [RideSession.openBus, ended]
  · simp [Firestore.busOf, stored, bus]

private theorem moves_of_stop {request : StopRequest} {pauses : Bool}
    (done : stopSession request store = some (next, pauses)) :
    store.Moves next.toFirestore := by
  obtain ⟨current, stored, names, -, -, same⟩ := stopSession_eq_some done
  have sessions := congrArg (fun store => store.sessions) same
  have locks := congrArg (fun store => store.locks) same
  simp only [StopRequest.names, Bool.and_eq_true, beq_iff_eq] at names
  have known : store.busOf request.sessionId = some request.busId := by
    rw [busOf_of_stored stored, names.1.1]
  exact finish_of_stored sessions locks stored rfl rfl
    (held_bus_unique known)

private theorem moves_of_reconcile {routeId : String} {inactive : Bool}
    (known : store.busOf sessionId = some busId) :
    store.Moves
      (reconcileSession sessionId busId routeId inactive
        store).toFirestore := by
  rcases reconcileSession_cases sessionId busId routeId inactive store with
    same | ⟨session, stored, -, same⟩
  · rw [same]
    exact .same rfl rfl
  · rw [same]
    exact finish_of_stored rfl rfl stored rfl rfl (held_bus_unique known)

private theorem moves_of_failCreation
    (known : store.busOf sessionId = some request.assignment.busId) :
    store.Moves (failCreation request sessionId store).toFirestore := by
  obtain ⟨session, stored, -⟩ := Option.map_eq_some_iff.mp known
  have sessions : (failCreation request sessionId store).sessions =
      Function.update store.sessions sessionId
        (some { session with status := .failed }) := by
    simp [failCreation, stored]
  exact finish_of_stored sessions rfl stored rfl rfl (held_bus_unique known)

end

private theorem moves_of_persist (update : EngineUpdate R)
    (store : Store R) :
    store.Moves
      (persistActiveRideLifecycle update store).1.toFirestore := by
  rcases persistActiveRideLifecycle_cases update store with
    same | ⟨carried, driverId, -, -, -, same⟩
  · rw [same]
    exact .same rfl rfl
  · rw [same]
    cases stored : store.sessions carried with
    | none => exact .same rfl rfl
    | some session =>
      simp only
      split
      · rename_i activates
        simp only [Bool.and_eq_true, Bool.not_eq_true'] at activates
        exact .rewrite rfl stored rfl activates.1.symm rfl
      · exact .same rfl rfl

omit [JsNumber R] in
private theorem moves_of_complete {update : EngineUpdate R} {now : Nat}
    {completion : Completion} (agrees : store.ledger.Agrees)
    (done : completeSession config update now store =
      some (next, completion)) : store.Moves next.toFirestore := by
  rcases completeSession_eq_some done with
    ⟨absent, rfl⟩ | ⟨completed, carried, ⟨-, -, rfl⟩ | ⟨-, locked, -, rfl⟩⟩
  · refine .same ?_ ?_
    · simp [recordCompletion, absent]
    · simp [Firestore.ledger, recordCompletion, absent]
  · exact .same rfl rfl
  · have held := (agrees update.data.busId completed).mp locked
    obtain ⟨session, stored, -⟩ := held_eq_some.mp held
    have sessions : (recordCompletion update completion store).sessions =
        Function.update store.sessions completed
          (some
            { session with
              status := .completed
              terminalArrivalConfirmedAt :=
                some completion.completedAtMs }) := by
      simp [recordCompletion, carried, stored]
    have locks : (recordCompletion update completion store).locks =
        if lockSession (store.locks update.data.busId) == some completed then
          Function.update store.locks update.data.busId none
        else store.locks := by
      simp [recordCompletion, carried]
    exact finish_of_stored sessions locks stored rfl rfl
      (held_bus_unique (bus_of_held held))

variable {ambient : Ambient} {process : Process R}

theorem moves_of_writes {next : Firestore R}
    (writes : Process.Writes config ambient store process next)
    (agrees : store.ledger.Agrees) (knows : process.KnowsBus store.toFirestore)
    (own : process.resumesOwnBus store = true) : store.Moves next := by
  cases writes with
  | nothing => exact .same rfl rfl
  | claimLock done => exact moves_of_claimLock done
  | resumeLock done => exact (moves_of_resumeLock agrees knows.1 own done).1
  | mergeSession | mergeRide | commitBatch => exact knows.2.elim
  | failCreation => exact moves_of_failCreation knows.2
  | commitProjections done => exact moves_of_commitProjections knows.2 done
  | stop done => exact moves_of_stop done
  | persistDelay =>
    rw [persistDelay_frame]
    exact .same rfl rfl
  | reconcile => exact moves_of_reconcile knows
  | @persist update => exact moves_of_persist update store
  | complete done => exact moves_of_complete agrees done
  | createReturn done =>
    obtain ⟨journey, completed, created⟩ := create_eq_some done
    exact .create created.sessions created.locks created.fresh
      created.free rfl rfl

section

omit [JsNumber R]

theorem moves_of_operation {operation : Operation} {next : Firestore R}
    (writes : Operation.Writes store operation next) : store.Moves next := by
  cases writes with
  | nothing => exact .same rfl rfl
  | @firmware request =>
    rcases firmwareMaintenance_cases request store with
      same | ⟨-, ⟨routeId, held⟩, same⟩ | ⟨-, free, same⟩ <;> rw [same]
    · exact .same rfl rfl
    · exact .same rfl (lock_of_same rfl (by rw [held]; rfl))
    · exact .same rfl (lock_of_same rfl (by rw [free]; rfl))
  | rearm =>
    rw [rearmAfterEarlyEnd_frame]
    exact .same rfl rfl
  | @persistDirection request =>
    rcases persistResolvedSessionDirection_cases request store with
      same | ⟨session, lock, stored, locked, -, same⟩
    · rw [same]
      exact .same rfl rfl
    · rw [same]
      refine .rewrite rfl stored rfl rfl (lock_of_same rfl ?_)
      rw [locked]
      rfl

theorem Process.KnowsBus.stable {before after : Firestore R}
    (knows : process.KnowsBus before)
    (kept : ∀ sessionId busId, before.busOf sessionId = some busId →
      after.busOf sessionId = some busId) : process.KnowsBus after := by
  cases process with
  | start process =>
    obtain ⟨request, step⟩ := process
    refine ⟨knows.1, ?_⟩
    have knows := knows.2
    cases step with
    | mergeSession | mergeRide | commitBatch => exact knows
    | readRecovery current claim => exact fun made => kept _ _ (knows made)
    | claimLive current claim lifecycle =>
      exact fun made => kept _ _ (knows made)
    | failCreation sessionId => exact kept _ _ knows
    | readProjectionLive | commitProjections =>
      exact ⟨knows.opens, fun resumed => kept _ _ (knows.bus resumed)⟩
    | _ => trivial
  | reconcile process =>
    obtain ⟨sessionId, step⟩ := process
    cases step with
    | read => trivial
    | retireLive | commit => exact kept _ _ knows
  | _ => trivial

theorem Request.begin_knowsBus {request : Request R} {store : Firestore R}
    (keyed : request.keyed = true) : request.begin.KnowsBus store := by
  cases request with
  | start request => exact ⟨keyed, trivial⟩
  | _ => trivial

private theorem resumeProjection_opens (request : StartRequest)
    (current : LiveBus R) (sessionId : String) :
    (resumeProjection request current sessionId).status.terminal = false := by
  unfold resumeProjection
  simp only
  split
  · rfl
  · split <;> rfl

end

private theorem claimProjection_opens (request : StartRequest)
    (claim : LockClaim) (lifecycle : ClaimedLifecycle) :
    (claimProjection request claim lifecycle).status.terminal = false := by
  unfold claimProjection
  simp only
  split
  · rfl
  · split <;> rfl

section

omit [JsNumber R]

private theorem knowsBus_of_claim {pinned : Option String}
    {current : Option (LiveBus R)} {route : RouteDocument}
    {direction : Option RideDirection} {proposed : String} {claim : LockClaim}
    (done : claimLock config request pinned current route direction proposed
      store = some (next, claim)) (created : claim.created = true) :
    next.busOf claim.sessionId = some request.assignment.busId := by
  rcases claimLock_eq_some done with ⟨held, session, reused⟩ | made
  · rw [reused.notCreated] at created
    cases created
  · rw [made.next]
    simp [Firestore.busOf]

theorem StartProcess.knowsBus_advance {process : StartProcess R}
    (agrees : store.ledger.Agrees)
    (knows : (Process.start process).KnowsBus store.toFirestore)
    (own : (Process.start process).resumesOwnBus store = true) :
    (process.advance config ambient store).GoesOn fun store rest =>
      (Process.start rest).KnowsBus store.toFirestore := by
  obtain ⟨request, step⟩ := process
  obtain ⟨keyed, knows⟩ := knows
  have keyBound : (request.keyRef config).isSome = true := by
    simpa [StartRequest.keyRef] using keyed
  cases step with
  | authorize | readPinned =>
    simp only [advance]
    split
    · simp [Process.KnowsBus, StartStep.KnowsBus, keyed]
    · simp
  | lookupKey =>
    simp only [advance]
    split
    · simp [Process.KnowsBus, StartStep.KnowsBus, keyed]
    · split
      · simp
      · simp [Process.KnowsBus, StartStep.KnowsBus, keyed]
  | readLive pinned =>
    simp only [advance]
    split
    · simp
    · rename_i step found
      refine (goesOn_goOn _ _ _ _).mpr ⟨keyed, ?_⟩
      rcases afterLiveRead_eq_some found with ⟨_, _, -, -, -, rfl⟩ | rfl
      · trivial
      · trivial
  | resumeLock current sessionId =>
    simp only [advance]
    split
    · simp
    · rename_i done
      rw [if_pos keyBound]
      obtain ⟨moves, bus⟩ := moves_of_resumeLock agrees keyed own done
      refine (goesOn_goOn _ _ _ _).mpr ⟨keyed, ?_, ?_⟩
      · exact resumeProjection_opens request current sessionId
      · exact fun _ => moves.busOf _ _ bus
  | mergeSession | mergeRide | commitBatch => exact knows.elim
  | readRoute pinned current =>
    simp only [advance]
    split
    · simp
    · split
      · simp
      · simp [Process.KnowsBus, StartStep.KnowsBus, keyed]
  | claimLock pinned current route direction =>
    simp only [advance]
    split
    · simp
    · rename_i next claim done
      rintro rest ⟨⟩
      exact ⟨keyed, knowsBus_of_claim done⟩
  | readRecovery | readProjectionLive =>
    simp only [advance]
    split
    · simp
    · exact (goesOn_goOn _ _ _ _).mpr ⟨keyed, knows⟩
  | claimLive current claim lifecycle =>
    simp only [advance]
    split
    · rw [if_pos keyBound]
      refine (goesOn_goOn _ _ _ _).mpr ⟨keyed, ?_, ?_⟩
      · exact claimProjection_opens request claim lifecycle
      · intro resumed
        cases resumed
    · split
      · rename_i lost
        simp only [Bool.and_eq_true] at lost
        exact (goesOn_goOn _ _ _ _).mpr ⟨keyed, knows lost.2⟩
      · simp
  | failCreation | completeSetup => simp [advance]
  | commitProjections projection nodeKey live =>
    simp only [advance]
    split
    · simp
    · simp [Process.KnowsBus, StartStep.KnowsBus, keyed]

theorem ReconcileProcess.knowsBus_advance {process : ReconcileProcess}
    (knows : (Process.reconcile (R := R) process).KnowsBus store.toFirestore) :
    (process.advance ambient store).GoesOn fun store rest =>
      (Process.reconcile (R := R) rest).KnowsBus store.toFirestore := by
  obtain ⟨sessionId, step⟩ := process
  cases step with
  | read =>
    simp only [advance]
    split
    · simp
    · rename_i session stored
      split
      · simp
      · exact (Outcome.goesOn_some _ _ _ _).mpr (busOf_of_stored stored)
  | retireLive busId routeId =>
    simp only [advance]
    split
    · simp
    · rintro rest ⟨⟩
      split <;> exact knows
  | commit busId routeId => simp [advance]

end

theorem Process.knowsBus_advance (agrees : store.ledger.Agrees)
    (knows : process.KnowsBus store.toFirestore)
    (own : process.resumesOwnBus store = true) :
    (process.advance config ambient store).GoesOn fun store rest =>
      rest.KnowsBus store.toFirestore := by
  cases process with
  | start process =>
    exact Outcome.goesOn_map
      (StartProcess.knowsBus_advance agrees knows own)
  | reconcile process =>
    exact Outcome.goesOn_map (ReconcileProcess.knowsBus_advance knows)
  | _ =>
    apply Outcome.goesOn_map
    intro rest _
    trivial

/-- The invariant of a run of starts with keys. -/
structure World.Locked (world : World R) : Prop where
  agrees : world.store.ledger.Agrees
  knows : ∀ pid process, world.processes pid = some process →
    process.KnowsBus world.store.toFirestore

omit [JsNumber R] in
theorem World.Locked.empty : (World.empty : World R).Locked :=
  { agrees := by
      intro busId sessionId
      simp [World.empty, Store.empty, Firestore.ledger]
    knows := by
      intro pid process inFlight
      cases inFlight }

def World.locksOwnBus (world : World R) (label : Label R) : Bool :=
  label.keyedStarts && world.resumesOwnBus label

variable {world : World R}

theorem World.Locked.moves {next : World R} {label : Label R}
    (locked : world.Locked) (own : world.resumesOwnBus label = true)
    (took : World.Took config world label next) :
    world.store.Moves next.store.toFirestore := by
  cases took with
  | accept | crash => exact .same rfl rfl
  | @run pid ambient process inFlight =>
    simp only [World.resumesOwnBus, World.running, inFlight,
      Option.all_some] at own
    exact moves_of_writes (process.writes_advance config ambient world.store)
      locked.agrees (locked.knows pid process inFlight) own
  | perform => exact moves_of_operation (Operation.writes_perform _ _)

theorem World.Locked.step {config : RideConfig R} {world next : World R}
    {label : Label R} (locked : world.Locked)
    (allowed : world.locksOwnBus label = true)
    (taken : World.step config world label = some next) : next.Locked := by
  simp only [World.locksOwnBus, Bool.and_eq_true] at allowed
  have took := World.took_of_step taken
  have moves := locked.moves allowed.2 took
  refine ⟨locked.agrees.move moves.ledger, ?_⟩
  apply World.inFlight_of_took
    (fun world process => process.KnowsBus world.store.toFirestore)
    took locked.knows
  · intro process knows
    exact knows.stable moves.busOf
  · rintro pid request rfl
    exact Request.begin_knowsBus allowed.1
  · rintro pid ambient process rfl inFlight
    have own := allowed.2
    simp only [World.resumesOwnBus, World.running, inFlight,
      Option.all_some] at own
    cases took with
    | run found =>
      rw [inFlight] at found
      cases found
      exact Process.knowsBus_advance locked.agrees
        (locked.knows pid process inFlight) own

inductive LockOwner where
  | session (sessionId : String)
  | device (deviceId : String)
  deriving DecidableEq

def BusLock.owner : BusLock → LockOwner
  | .ride lock => .session lock.sessionId
  | .firmware deviceId _ => .device deviceId

def Process.releases : Process R → Option (String × LockOwner)
  | .start { request, step := .failCreation sessionId } =>
    some (request.assignment.busId, .session sessionId)
  | .stop { request, step := .commit } =>
    some (request.busId, .session request.sessionId)
  | .reconcile { sessionId, step := .commit busId _ } =>
    some (busId, .session sessionId)
  | .engine (.complete update) =>
    update.data.sessionId.map fun sessionId =>
      (update.data.busId, .session sessionId)
  | _ => none

/-- A ride frees the bus of its own session; a release frees the reservation of
its own device. -/
def World.releases (world : World R) : Label R → Option (String × LockOwner)
  | .perform (.firmware { action := .release, deviceId, busId, .. }) =>
    some (busId, .device deviceId)
  | label => (world.running label).bind Process.releases

/-- Every lock keeps its owner, except the one that the step may free. -/
def Firestore.FreesOnly (before after : Firestore R)
    (released : Option (String × LockOwner)) : Prop :=
  ∀ busId lock, before.locks busId = some lock →
    (∃ kept, after.locks busId = some kept ∧ kept.owner = lock.owner) ∨
      (after.locks busId = none ∧ released = some (busId, lock.owner))

section Frees

variable {before after : Firestore R}
  {released : Option (String × LockOwner)}

omit [JsNumber R]

theorem freesOnly_of_same (locks : after.locks = before.locks) :
    before.FreesOnly after released := by
  intro busId lock held
  exact .inl ⟨lock, by rw [locks, held], rfl⟩

theorem freesOnly_of_locks {written : BusLock}
    (locks : after.locks = Function.update before.locks busId (some written))
    (kept : ∀ lock, before.locks busId = some lock →
      written.owner = lock.owner) : before.FreesOnly after released := by
  intro other lock held
  by_cases same : other = busId
  · subst same
    exact .inl ⟨written, by simp [locks], kept lock held⟩
  · exact .inl ⟨lock, by simp [locks, same, held], rfl⟩

theorem freesOnly_of_release (locks : after.locks =
      if lockSession (before.locks busId) == some sessionId then
        Function.update before.locks busId none
      else before.locks) :
    before.FreesOnly after (some (busId, .session sessionId)) := by
  split at locks
  · rename_i own
    intro other lock held
    by_cases same : other = busId
    · subst same
      obtain ⟨ride, stored, names⟩ := ride_of_lockSession (beq_iff_eq.mp own)
      rw [held] at stored
      cases stored
      exact .inr ⟨by simp [locks], by simp [BusLock.owner, names]⟩
    · exact .inl ⟨lock, by simp [locks, same, held], rfl⟩
  · exact freesOnly_of_same locks

end Frees

theorem freesOnly_of_writes {next : Firestore R}
    (writes : Process.Writes config ambient store process next) :
    store.FreesOnly next process.releases := by
  cases writes with
  | nothing | mergeSession | mergeRide | commitBatch =>
    exact freesOnly_of_same rfl
  | claimLock done =>
    rcases claimLock_eq_some done with ⟨held, session, reused⟩ | created
    · obtain ⟨resolved, locks⟩ := reused.locks
      apply freesOnly_of_locks locks
      intro lock stored
      rw [reused.locked] at stored
      cases stored
      rfl
    · apply freesOnly_of_locks
        (congrArg (fun store => store.locks) created.next)
      intro lock stored
      rw [created.free] at stored
      cases stored
  | resumeLock done =>
    obtain ⟨-, -, held, same⟩ := resumeLock_eq_some done
    apply freesOnly_of_locks (congrArg (fun store => store.locks) same)
    intro lock stored
    rcases held with free | held
    · rw [free] at stored
      cases stored
    · obtain ⟨ride, found, names⟩ := ride_of_lockSession held
      rw [found] at stored
      cases stored
      simp [BusLock.owner, names]
  | failCreation => exact freesOnly_of_release rfl
  | commitProjections done =>
    obtain ⟨_, _, -, -, -, -, -, -, -, same⟩ :=
      commitCreationProjections_eq_some done
    exact freesOnly_of_same (congrArg (fun store => store.locks) same)
  | stop done =>
    obtain ⟨_, -, -, -, -, same⟩ := stopSession_eq_some done
    exact freesOnly_of_release (congrArg (fun store => store.locks) same)
  | persistDelay =>
    rw [persistDelay_frame]
    exact freesOnly_of_same rfl
  | @reconcile sessionId busId routeId =>
    rcases reconcileSession_cases sessionId busId routeId ambient.observed
      store with same | ⟨_, -, -, same⟩
    · exact freesOnly_of_same (congrArg (fun store => store.locks) same)
    · exact freesOnly_of_release (congrArg (fun store => store.locks) same)
  | @persist update =>
    rcases persistActiveRideLifecycle_cases update store with
      same | ⟨_, _, -, -, -, same⟩ <;> rw [same] <;>
    exact freesOnly_of_same rfl
  | complete done =>
    rcases completeSession_eq_some done with
      ⟨absent, rfl⟩ | ⟨_, carried, ⟨-, -, rfl⟩ | ⟨-, -, -, rfl⟩⟩
    · exact freesOnly_of_same (by simp [recordCompletion, absent])
    · exact freesOnly_of_same rfl
    · simp only [Process.releases, carried, Option.map_some]
      exact freesOnly_of_release (by simp [recordCompletion, carried])
  | createReturn done =>
    obtain ⟨journey, completed, created⟩ := create_eq_some done
    apply freesOnly_of_locks created.locks
    intro lock stored
    rw [created.free] at stored
    cases stored

omit [JsNumber R] in
theorem freesOnly_of_operation {operation : Operation} {next : Firestore R}
    (writes : Operation.Writes world.store operation next) :
    world.store.FreesOnly next (world.releases (.perform operation)) := by
  cases writes with
  | nothing => exact freesOnly_of_same rfl
  | @firmware request =>
    rcases firmwareMaintenance_cases request world.store with
      same | ⟨action, ⟨routeId, held⟩, same⟩ | ⟨action, free, same⟩
    · rw [same]
      exact freesOnly_of_same rfl
    · rw [same]
      intro busId lock stored
      by_cases own : busId = request.busId
      · subst own
        rw [held] at stored
        cases stored
        obtain ⟨_, deviceId, busId, _⟩ := request
        cases action
        exact .inr ⟨by simp, rfl⟩
      · exact .inl ⟨lock, by simp [own, stored], rfl⟩
    · rw [same]
      apply freesOnly_of_locks rfl
      intro lock stored
      rw [free] at stored
      cases stored
  | rearm =>
    rw [rearmAfterEarlyEnd_frame]
    exact freesOnly_of_same rfl
  | @persistDirection request =>
    rcases persistResolvedSessionDirection_cases request world.store with
      same | ⟨session, lock, -, locked, -, same⟩
    · exact freesOnly_of_same (congrArg (fun store => store.locks) same)
    · apply freesOnly_of_locks (congrArg (fun store => store.locks) same)
      intro held stored
      rw [locked] at stored
      cases stored
      rfl

theorem World.freesOnly_of_took {next : World R} {label : Label R}
    (took : World.Took config world label next) :
    world.store.FreesOnly next.store.toFirestore (world.releases label) := by
  cases took with
  | accept | crash => exact freesOnly_of_same rfl
  | run inFlight =>
    simp only [World.releases, World.running, inFlight, Option.bind_some]
    exact freesOnly_of_writes (Process.writes_advance config _ _ _)
  | @perform operation =>
    exact freesOnly_of_operation (Operation.writes_perform _ _)

def Firestore.OpenOn (firestore : Firestore R) (sessionId busId : String) :
    Prop :=
  ∃ session, firestore.sessions sessionId = some session ∧
    session.status.terminal = false ∧ session.busId = busId

structure Firestore.LocksMatchSessions (firestore : Firestore R) : Prop where
  locked_iff_open : ∀ busId,
    (lockSession (firestore.locks busId)).isSome = true ↔
      ∃ sessionId, firestore.OpenOn sessionId busId
  unique : ∀ busId sessionId other, firestore.OpenOn sessionId busId →
    firestore.OpenOn other busId → sessionId = other
  named : ∀ busId sessionId, firestore.OpenOn sessionId busId →
    lockSession (firestore.locks busId) = some sessionId
  apart : ∀ busId deviceId routeId,
    firestore.locks busId = some (.firmware deviceId routeId) →
    ∀ sessionId, ¬ firestore.OpenOn sessionId busId

omit [JsNumber R] in
theorem locksMatchSessions_of_agrees {firestore : Firestore R}
    (agrees : firestore.ledger.Agrees) : firestore.LocksMatchSessions := by
  have openOn : ∀ sessionId busId, firestore.OpenOn sessionId busId ↔
      firestore.ledger.held sessionId = some busId :=
    fun sessionId busId => held_eq_some.symm
  constructor
  · intro busId
    simp only [openOn]
    exact agrees.locked_iff busId
  · intro busId sessionId other holds otherHolds
    rw [openOn] at holds otherHolds
    exact agrees.held_unique holds otherHolds
  · intro busId sessionId holds
    rw [openOn] at holds
    exact (agrees busId sessionId).mpr holds
  · intro busId deviceId routeId reserved sessionId holds
    rw [openOn] at holds
    have free : firestore.ledger.lock busId = none := by
      simp [Firestore.ledger, reserved]
    exact agrees.idle_of_free free sessionId holds

def World.KeepsLocks (config : RideConfig R) (world : World R) : Prop :=
  world.store.LocksMatchSessions ∧
    ∀ label next, World.step config world label = some next →
      world.store.FreesOnly next.store.toFirestore (world.releases label)

/-- **Locks match sessions** in every state that a run of starts with keys
reaches, when every resume locks the bus its session is stored for. -/
theorem locks_match_sessions (config : RideConfig R) {world : World R}
    (steps : System.Steps (World.step config)
      (fun world label => world.locksOwnBus label = true) .empty world) :
    world.KeepsLocks config := by
  have locked : world.Locked := by
    apply steps.invariant World.Locked.empty
    intro world label next locked allowed taken
    exact locked.step allowed taken
  refine ⟨locksMatchSessions_of_agrees locked.agrees, ?_⟩
  intro label next taken
  exact World.freesOnly_of_took (World.took_of_step taken)

def keyedRide : List (Label ℚ) :=
  demoFleet ++ [.accept 0 (demoStart (some "key"))] ++ runSteps 0 10 firstRide

theorem locks_match_sessions_keyed :
    ∃ world : World ℚ,
      System.Steps (World.step demoConfig)
        (fun world label => world.locksOwnBus label = true) .empty world ∧
      world.KeepsLocks demoConfig := by
  have runs : (System.run (World.step demoConfig) World.locksOwnBus .empty
      keyedRide).isSome = true := by
    decide +kernel
  obtain ⟨world, ran⟩ := Option.isSome_iff_exists.mp runs
  have steps : System.Steps (World.step demoConfig)
      (fun world label => world.locksOwnBus label = true) .empty world :=
    System.steps_of_run ran fun _ _ => id
  exact ⟨world, steps, locks_match_sessions demoConfig steps⟩

/-- A start waits after its authorization.  Its driver moves to another bus,
whose id and route give the same key, and starts a ride there.  Then the first
start goes on and resumes that ride. -/
def collidingResume : List (Label ℚ) :=
  [.perform (.configure (demoRegistry "a_b")),
    .accept 0 (.start
      { assignment :=
          { driverId := "driver"
            busId := "a_b"
            routeId := "c" }
        origin := .manual "operator" (some "first") })] ++
    runSteps 0 1 firstRide ++
    [.perform (.configure (demoRegistry "a")),
      .perform (.telemetry
        { busId := "a"
          routeId := "b_c"
          assignmentRevision := 0 }),
      .accept 1 (.start
        { assignment :=
            { driverId := "driver"
              busId := "a"
              routeId := "b_c" }
          origin := .manual "operator" (some "second") })] ++
    runSteps 1 10 firstRide ++ runSteps 0 3 firstRide

def LocksMatchSessions (config : RideConfig R) : Prop :=
  ∀ world : World R,
    System.Steps (World.step config)
      (fun _ label => label.keyedStarts = true) .empty world →
    world.KeepsLocks config

/-- The resume of a colliding key locks a second bus for one session. -/
theorem locks_outnumber_sessions : ¬ LocksMatchSessions demoConfig := by
  intro claimed
  have observed :
      (System.run (World.step demoConfig) (fun _ label => label.keyedStarts)
          .empty collidingResume).map (fun world =>
        (world.store.ledger.lock "a_b",
          world.store.ledger.held firstSession)) =
        some (some firstSession, some "a") := by
    decide +kernel
  obtain ⟨world, ran, facts⟩ := Option.map_eq_some_iff.mp observed
  simp only [Prod.mk.injEq] at facts
  obtain ⟨locked, held⟩ := facts
  have sound := (claimed world (System.steps_of_run ran fun _ _ => id)).1
  obtain ⟨sessionId, holds⟩ := (sound.locked_iff_open "a_b").mp
    (Option.isSome_iff_exists.mpr ⟨firstSession, locked⟩)
  have named := sound.named "a_b" sessionId holds
  rw [show lockSession (world.store.locks "a_b") = some firstSession
    from locked] at named
  cases named
  have other := held_eq_some.mpr holds
  rw [held] at other
  exact absurd other (by decide)

end Eki
