import Eki.Ride.CompletedOnce

/-!
# Checkpoints and returns

A completed session leaves one checkpoint, and the creation of its return
consumes it: the return session names the completed one, and the checkpoint
names the return.  Every transaction keeps the two one to one, as long as ended
sessions stay ended.
-/

namespace Eki

variable {R : Type} [JsNumber R]

namespace Firestore

variable (firestore : Firestore R)

/-- The completed session that a stored session returns from. -/
def previousOf (sessionId : String) : Option String :=
  (firestore.sessions sessionId).bind RideSession.previousSessionId

def journeyOf (busId : String) : Option TerminalJourney :=
  (firestore.busLocations busId).terminalJourney

end Firestore

structure Firestore.Returns (firestore : Firestore R) : Prop where
  ended : ∀ busId journey, firestore.journeyOf busId = some journey →
    firestore.hasEnded journey.sessionId = true
  single : ∀ busId other journey otherJourney,
    firestore.journeyOf busId = some journey →
    firestore.journeyOf other = some otherJourney →
    journey.sessionId = otherJourney.sessionId → busId = other
  follows : ∀ sessionId previous,
    firestore.previousOf sessionId = some previous →
    firestore.hasEnded previous = true
  consumed : ∀ sessionId previous busId journey,
    firestore.previousOf sessionId = some previous →
    firestore.journeyOf busId = some journey →
    journey.sessionId = previous → journey.consumedBy = some sessionId
  marked : ∀ busId journey sessionId,
    firestore.journeyOf busId = some journey →
    journey.consumedBy = some sessionId →
    firestore.previousOf sessionId = some journey.sessionId
  unique : ∀ sessionId other previous,
    firestore.previousOf sessionId = some previous →
    firestore.previousOf other = some previous → sessionId = other

variable {before after : Firestore R}

variable {written : String}

omit [JsNumber R] in
theorem previousOf_of_sessions {session : Option RideSession}
    (sessions : after.sessions =
      Function.update before.sessions written session)
    (kept : session.bind RideSession.previousSessionId =
      before.previousOf written) : after.previousOf = before.previousOf := by
  funext sessionId
  by_cases same : sessionId = written
  · subst same
    simpa [Firestore.previousOf, sessions] using kept
  · simp [Firestore.previousOf, sessions, same]

omit [JsNumber R] in
theorem previousOf_of_stored {session rewritten : RideSession}
    (sessions : after.sessions =
      Function.update before.sessions written (some rewritten))
    (stored : before.sessions written = some session)
    (kept : rewritten.previousSessionId = session.previousSessionId) :
    after.previousOf = before.previousOf := by
  apply previousOf_of_sessions sessions
  simp [Firestore.previousOf, stored, kept]

/-- Return sessions stay, checkpoints stay or go, and ended sessions stay
ended. -/
structure Firestore.KeepsReturns (before after : Firestore R) : Prop where
  previousOf : after.previousOf = before.previousOf
  journeyOf : ∀ busId, after.journeyOf busId = before.journeyOf busId ∨
    after.journeyOf busId = none

omit [JsNumber R] in
theorem Firestore.Returns.kept {before after : Firestore R}
    (returns : before.Returns) (kept : before.KeepsReturns after)
    (ended : ∀ sessionId, before.hasEnded sessionId = true →
      after.hasEnded sessionId = true) : after.Returns := by
  have earlier : ∀ busId journey, after.journeyOf busId = some journey →
      before.journeyOf busId = some journey := by
    intro busId journey found
    rcases kept.journeyOf busId with same | gone
    · rw [← same, found]
    · rw [gone] at found
      cases found
  constructor
  · intro busId journey found
    exact ended _ (returns.ended busId journey (earlier busId journey found))
  · intro busId other journey otherJourney found otherFound
    exact returns.single busId other journey otherJourney
      (earlier busId journey found) (earlier other otherJourney otherFound)
  · intro sessionId previous follows
    rw [kept.previousOf] at follows
    exact ended _ (returns.follows sessionId previous follows)
  · intro sessionId previous busId journey follows found
    rw [kept.previousOf] at follows
    exact returns.consumed sessionId previous busId journey follows
      (earlier busId journey found)
  · intro busId journey sessionId found marked
    rw [kept.previousOf]
    exact returns.marked busId journey sessionId
      (earlier busId journey found) marked
  · intro sessionId other previous follows otherFollows
    rw [kept.previousOf] at follows otherFollows
    exact returns.unique sessionId other previous follows otherFollows

variable {sessionId : String}

omit [JsNumber R] in
theorem hasEnded_eq_false_of_isOpen {firestore : Firestore R}
    (running : firestore.isOpen sessionId = true) :
    firestore.hasEnded sessionId = false := by
  obtain ⟨session, stored, open'⟩ := Firestore.isOpen_iff.mp running
  rw [Firestore.hasEnded_of_stored stored, open']

structure Firestore.LeavesCheckpoint (before after : Firestore R) (busId : String)
    (journey : TerminalJourney) : Prop where
  previousOf : after.previousOf = before.previousOf
  here : after.journeyOf busId = some journey
  elsewhere : ∀ other, other ≠ busId →
    after.journeyOf other = before.journeyOf other
  running : before.isOpen journey.sessionId = true
  fresh : journey.consumedBy = none
  ended : after.hasEnded journey.sessionId = true

variable {busId : String} {journey : TerminalJourney}

omit [JsNumber R] in
theorem Firestore.Returns.recorded (returns : before.Returns)
    (leaves : before.LeavesCheckpoint after busId journey)
    (ended : ∀ sessionId, before.hasEnded sessionId = true →
      after.hasEnded sessionId = true) : after.Returns := by
  obtain ⟨previousOf, here, elsewhere, running, fresh, endedNow⟩ := leaves
  have notEnded := hasEnded_eq_false_of_isOpen running
  -- No earlier checkpoint and no earlier return belongs to the open session.
  have noJourney : ∀ other otherJourney, other ≠ busId →
      after.journeyOf other = some otherJourney →
      otherJourney.sessionId ≠ journey.sessionId := by
    intro other otherJourney different found same
    rw [elsewhere other different] at found
    have already := returns.ended other otherJourney found
    rw [same, notEnded] at already
    cases already
  have noReturn : ∀ sessionId,
      after.previousOf sessionId ≠ some journey.sessionId := by
    intro sessionId follows
    rw [previousOf] at follows
    have already := returns.follows sessionId _ follows
    rw [notEnded] at already
    cases already
  constructor
  · intro other otherJourney found
    by_cases same : other = busId
    · subst same
      rw [here] at found
      cases found
      exact endedNow
    · rw [elsewhere other same] at found
      exact ended _ (returns.ended other otherJourney found)
  · intro first second firstJourney secondJourney firstFound secondFound same
    by_cases atFirst : first = busId
    · by_cases atSecond : second = busId
      · rw [atFirst, atSecond]
      · subst atFirst
        rw [here] at firstFound
        cases firstFound
        exact absurd same.symm (noJourney second _ atSecond secondFound)
    · by_cases atSecond : second = busId
      · subst atSecond
        rw [here] at secondFound
        cases secondFound
        exact absurd same (noJourney first _ atFirst firstFound)
      · rw [elsewhere first atFirst] at firstFound
        rw [elsewhere second atSecond] at secondFound
        exact returns.single first second _ _ firstFound secondFound same
  · intro sessionId previous follows
    rw [previousOf] at follows
    exact ended _ (returns.follows sessionId previous follows)
  · intro sessionId previous other otherJourney follows found own
    by_cases same : other = busId
    · subst same
      rw [here] at found
      cases found
      rw [← own] at follows
      exact absurd follows (noReturn sessionId)
    · rw [elsewhere other same] at found
      rw [previousOf] at follows
      exact returns.consumed sessionId previous other otherJourney follows
        found own
  · intro other otherJourney sessionId found marker
    by_cases same : other = busId
    · subst same
      rw [here] at found
      cases found
      rw [fresh] at marker
      cases marker
    · rw [elsewhere other same] at found
      rw [previousOf]
      exact returns.marked other otherJourney sessionId found marker
  · intro sessionId other previous follows otherFollows
    rw [previousOf] at follows otherFollows
    exact returns.unique sessionId other previous follows otherFollows

structure Firestore.Consumes (before after : Firestore R)
    (sessionRef busId : String) (journey : TerminalJourney) : Prop where
  recorded : before.journeyOf busId = some journey
  unconsumed : journey.consumedBy = none
  unreturned : before.previousOf sessionRef = none
  previousOf : after.previousOf =
    Function.update before.previousOf sessionRef (some journey.sessionId)
  here : after.journeyOf busId =
    some { journey with consumedBy := some sessionRef }
  elsewhere : ∀ other, other ≠ busId →
    after.journeyOf other = before.journeyOf other
  ended : ∀ sessionId, before.hasEnded sessionId = true →
    after.hasEnded sessionId = true

namespace Firestore.Returns

variable {before after : Firestore R} {sessionRef busId : String}
  {journey : TerminalJourney}

omit [JsNumber R]

theorem not_returned (returns : before.Returns)
    (consumes : before.Consumes after sessionRef busId journey)
    (sessionId : String) :
    before.previousOf sessionId ≠ some journey.sessionId := by
  intro follows
  have marker := returns.consumed sessionId _ busId journey follows
    consumes.recorded rfl
  rw [consumes.unconsumed] at marker
  cases marker

private theorem previous_cases
    (consumes : before.Consumes after sessionRef busId journey)
    {previous : String}
    (follows : after.previousOf sessionId = some previous) :
    (sessionId = sessionRef ∧ previous = journey.sessionId) ∨
      before.previousOf sessionId = some previous := by
  rw [consumes.previousOf] at follows
  by_cases same : sessionId = sessionRef
  · subst same
    rw [Function.update_self] at follows
    exact .inl ⟨rfl, (Option.some.inj follows).symm⟩
  · rw [Function.update_of_ne same] at follows
    exact .inr follows

private theorem journey_cases
    (consumes : before.Consumes after sessionRef busId journey)
    {other : String} {found : TerminalJourney}
    (recorded : after.journeyOf other = some found) :
    (other = busId ∧ found = { journey with consumedBy := some sessionRef }) ∨
      (other ≠ busId ∧ before.journeyOf other = some found) := by
  by_cases same : other = busId
  · subst same
    rw [consumes.here] at recorded
    exact .inl ⟨rfl, (Option.some.inj recorded).symm⟩
  · rw [consumes.elsewhere other same] at recorded
    exact .inr ⟨same, recorded⟩

theorem created (returns : before.Returns)
    (consumes : before.Consumes after sessionRef busId journey) :
    after.Returns := by
  have own := returns.ended busId journey consumes.recorded
  constructor
  · intro other found recorded
    rcases journey_cases consumes recorded with ⟨-, rfl⟩ | ⟨-, earlier⟩
    · exact consumes.ended _ own
    · exact consumes.ended _ (returns.ended other found earlier)
  · intro first second firstJourney secondJourney firstFound secondFound same
    rcases journey_cases consumes firstFound with
      ⟨rfl, rfl⟩ | ⟨-, firstEarlier⟩
    · rcases journey_cases consumes secondFound with
        ⟨rfl, rfl⟩ | ⟨-, secondEarlier⟩
      · rfl
      · exact returns.single _ second journey secondJourney
          consumes.recorded secondEarlier same
    · rcases journey_cases consumes secondFound with
        ⟨rfl, rfl⟩ | ⟨-, secondEarlier⟩
      · exact returns.single first _ firstJourney journey firstEarlier
          consumes.recorded same
      · exact returns.single first second firstJourney secondJourney
          firstEarlier secondEarlier same
  · intro sessionId previous follows
    rcases previous_cases consumes follows with ⟨-, rfl⟩ | earlier
    · exact consumes.ended _ own
    · exact consumes.ended _ (returns.follows sessionId previous earlier)
  · intro sessionId previous other found follows recorded same
    rcases previous_cases consumes follows with ⟨rfl, rfl⟩ | earlier
    · rcases journey_cases consumes recorded with
        ⟨-, rfl⟩ | ⟨different, recordedBefore⟩
      · rfl
      · exact absurd (returns.single other busId found journey
          recordedBefore consumes.recorded same) different
    · rcases journey_cases consumes recorded with
        ⟨-, rfl⟩ | ⟨-, recordedBefore⟩
      · rw [← same] at earlier
        exact absurd earlier (returns.not_returned consumes sessionId)
      · exact returns.consumed sessionId previous other found earlier
          recordedBefore same
  · intro other found sessionId recorded marker
    rcases journey_cases consumes recorded with
      ⟨-, rfl⟩ | ⟨-, recordedBefore⟩
    · cases marker
      rw [consumes.previousOf, Function.update_self]
    · have follows := returns.marked other found sessionId recordedBefore
        marker
      have different : sessionId ≠ sessionRef := by
        rintro rfl
        rw [consumes.unreturned] at follows
        cases follows
      rw [consumes.previousOf, Function.update_of_ne different, follows]
  · intro sessionId other previous follows otherFollows
    rcases previous_cases consumes follows with ⟨rfl, rfl⟩ | earlier
    · rcases previous_cases consumes otherFollows with
        ⟨rfl, -⟩ | otherEarlier
      · rfl
      · exact absurd otherEarlier (returns.not_returned consumes other)
    · rcases previous_cases consumes otherFollows with
        ⟨rfl, rfl⟩ | otherEarlier
      · exact absurd earlier (returns.not_returned consumes sessionId)
      · exact returns.unique sessionId other previous earlier otherEarlier

end Firestore.Returns

variable {store : Store R}

variable {next : Store R}

omit [JsNumber R] in
theorem consumes_of_create {turnaround : Turnaround} {completed : RideSession}
    (created : CreatedReturn turnaround store next journey completed) :
    store.Consumes next.toFirestore turnaround.sessionRef
        turnaround.assignment.busId journey ∧
      journey.sessionId = turnaround.previousSessionId := by
  have unconsumed := created.unconsumed
  simp only [Turnaround.mayConsume, Bool.and_eq_true, beq_iff_eq,
    Option.isNone_iff_eq_none] at unconsumed
  obtain ⟨⟨⟨own, -⟩, fresh⟩, -⟩ := unconsumed
  refine ⟨⟨created.recorded, fresh, ?_, ?_, ?_, ?_, ?_⟩, own⟩
  · simp [Firestore.previousOf, created.fresh]
  · funext sessionId
    by_cases same : sessionId = turnaround.sessionRef
    · subst same
      simp [Firestore.previousOf, created.sessions, own]
    · simp [Firestore.previousOf, created.sessions, same]
  · simp [Firestore.journeyOf, created.busLocations]
  · intro other different
    simp [Firestore.journeyOf, created.busLocations, different]
  · intro sessionId ended
    have different : sessionId ≠ turnaround.sessionRef := by
      rintro rfl
      simp [Firestore.hasEnded, created.fresh] at ended
    simpa [Firestore.hasEnded, created.sessions, different] using ended

section Keeps

variable {before after : Firestore R}

omit [JsNumber R]

theorem Firestore.KeepsReturns.same
    (previousOf : after.previousOf = before.previousOf)
    (locations : after.busLocations = before.busLocations) :
    before.KeepsReturns after :=
  { previousOf
    journeyOf := fun busId => .inl (by simp [Firestore.journeyOf, locations]) }

theorem Firestore.KeepsReturns.location {location : BusLocation}
    (previousOf : after.previousOf = before.previousOf)
    (locations : after.busLocations =
      Function.update before.busLocations busId location)
    (journey : location.terminalJourney = before.journeyOf busId ∨
      location.terminalJourney = none) : before.KeepsReturns after := by
  refine ⟨previousOf, ?_⟩
  intro other
  by_cases same : other = busId
  · subst same
    simpa [Firestore.journeyOf, locations] using journey
  · exact .inl (by simp [Firestore.journeyOf, locations, same])

theorem previousOf_of_mergeSession (projection : Projection)
    (sessions : after.sessions =
      Function.update store.sessions projection.sessionId
        (projection.mergeSession (store.sessions projection.sessionId))) :
    after.previousOf = store.previousOf := by
  apply previousOf_of_sessions sessions
  cases stored : store.sessions projection.sessionId with
  | none =>
    simp only [Firestore.previousOf, stored, Projection.mergeSession,
      Option.bind_none]
    split <;> rfl
  | some session =>
    simp [Firestore.previousOf, stored, Projection.mergeSession]

end Keeps

variable {config : RideConfig R}

omit [JsNumber R] in
private theorem keepsReturns_of_claimLock {request : StartRequest}
    {pinned : Option String} {current : Option (LiveBus R)}
    {route : RouteDocument} {direction : Option RideDirection}
    {proposed : String} {claim : LockClaim}
    (done : claimLock config request pinned current route direction proposed
      store = some (next, claim)) : store.KeepsReturns next.toFirestore := by
  rcases claimLock_eq_some done with ⟨held, session, reused⟩ | created
  · have same :=
      previousOf_of_stored reused.sessions reused.stored rfl
    refine .location same reused.busLocations (.inl ?_)
    unfold StartRequest.resumeAutomaticService
    split <;> rfl
  · have sessions := congrArg (fun store => store.sessions) created.next
    have locations := congrArg (fun store => store.busLocations) created.next
    refine .location (previousOf_of_sessions sessions ?_) locations
      (.inr rfl)
    simp [Firestore.previousOf, created.fresh]

def Event.returned : Event → Option (String × String)
  | .created sessionId _ (.turnaround previousSessionId) =>
    some (sessionId, previousSessionId)
  | _ => none

inductive Firestore.ReturnStep (before after : Firestore R) :
    List (String × String) → Prop where
  | kept (kept : before.KeepsReturns after) : ReturnStep before after []
  | recorded {busId : String} {journey : TerminalJourney}
      (leaves : before.LeavesCheckpoint after busId journey) :
      ReturnStep before after []
  | created {sessionRef busId : String} {journey : TerminalJourney}
      (consumes : before.Consumes after sessionRef busId journey) :
      ReturnStep before after [(sessionRef, journey.sessionId)]

namespace Firestore.ReturnStep

variable {before after : Firestore R} {returned : List (String × String)}

omit [JsNumber R]

theorem returns (step : before.ReturnStep after returned)
    (returns : before.Returns)
    (ended : ∀ sessionId, before.hasEnded sessionId = true →
      after.hasEnded sessionId = true) : after.Returns := by
  cases step with
  | kept kept => exact returns.kept kept ended
  | recorded leaves => exact returns.recorded leaves ended
  | created consumes => exact returns.created consumes

theorem previousOf_iff (step : before.ReturnStep after returned)
    (sessionId previous : String) :
    after.previousOf sessionId = some previous ↔
      (sessionId, previous) ∈ returned ∨
        before.previousOf sessionId = some previous := by
  cases step with
  | kept kept => simp [kept.previousOf]
  | recorded leaves => simp [leaves.previousOf]
  | @created sessionRef busId journey consumes =>
    rw [consumes.previousOf, List.mem_singleton, Prod.mk.injEq]
    by_cases same : sessionId = sessionRef
    · subst same
      simp [consumes.unreturned, eq_comm]
    · simp [same]

theorem not_returned (step : before.ReturnStep after returned)
    (returns : before.Returns) :
    (returned.map Prod.snd).Nodup ∧
      ∀ created ∈ returned, ∀ sessionId,
        before.previousOf sessionId ≠ some created.2 := by
  cases step with
  | kept | recorded => simp
  | created consumes => simp [returns.not_returned consumes]

end Firestore.ReturnStep

omit [JsNumber R] in
private theorem returnStep_of_recordCompletion {update : EngineUpdate R}
    (carried : update.data.sessionId = some sessionId)
    (running : store.isOpen sessionId = true) (completion : Completion) :
    store.ReturnStep
      (recordCompletion update completion store).toFirestore [] := by
  obtain ⟨session, stored, -⟩ := Firestore.isOpen_iff.mp running
  have recorded := recordCompletion_session carried completion store
  have previousOf :
      (recordCompletion update completion store).previousOf =
        store.previousOf := by
    apply previousOf_of_sessions
      (congrArg (fun store => store.sessions) recorded)
    simp [Firestore.previousOf, stored]
  cases driven : update.data.driverId with
  | none =>
    refine .kept (.same previousOf ?_)
    rw [recorded]
    simp [driven]
  | some driverId =>
    have locations :
        (recordCompletion update completion store).busLocations =
          Function.update store.busLocations update.data.busId
            { store.busLocations update.data.busId with
              terminalJourney :=
                some (update.terminalJourney completion driverId
                  sessionId) } := by
      rw [recorded]
      simp only [driven]
    have leaves : store.LeavesCheckpoint
        (recordCompletion update completion store).toFirestore
        update.data.busId
        (update.terminalJourney completion driverId sessionId) := by
      refine ⟨previousOf, ?_, ?_, running, rfl, ?_⟩
      · simp [Firestore.journeyOf, locations]
      · intro other different
        simp [Firestore.journeyOf, locations, different]
      · rw [recorded]
        simp [Firestore.hasEnded, EngineUpdate.terminalJourney, stored,
          SessionStatus.terminal]
    exact .recorded leaves

theorem returnStep_of_writes {ambient : Ambient} {process : Process R}
    {next : Firestore R}
    (writes : Process.Writes config ambient store process next)
    (quiet : ∀ turnaround, process ≠ .turnaround (.create turnaround)) :
    store.ReturnStep next [] := by
  cases writes with
  | nothing | mergeRide => exact .kept (.same rfl rfl)
  | claimLock done => exact .kept (keepsReturns_of_claimLock done)
  | resumeLock done =>
    obtain ⟨-, -, -, same⟩ := resumeLock_eq_some done
    rw [same]
    exact .kept (.same rfl rfl)
  | @mergeSession request projection | @commitBatch request projection =>
    exact .kept (.same (previousOf_of_mergeSession projection rfl) rfl)
  | failCreation =>
    refine .kept (.same (previousOf_of_sessions rfl ?_) rfl)
    simp [Firestore.previousOf, Option.bind_map]
  | commitProjections done =>
    obtain ⟨stored, _, known, -, -, -, -, -, -, same⟩ :=
      commitCreationProjections_eq_some done
    rw [same]
    exact .kept (.same (previousOf_of_stored rfl known rfl) rfl)
  | @stop request next pauses done =>
    obtain ⟨current, stored, -, -, -, same⟩ := stopSession_eq_some done
    have sessions := congrArg (fun store => store.sessions) same
    have kept := previousOf_of_stored sessions stored rfl
    rw [same] at kept ⊢
    cases pauses with
    | false => exact .kept (.same kept rfl)
    | true => exact .kept (.location kept rfl (.inl rfl))
  | persistDelay =>
    rw [persistDelay_frame]
    exact .kept (.same rfl rfl)
  | @reconcile sessionId busId routeId =>
    rcases reconcileSession_cases sessionId busId routeId ambient.observed
      store with same | ⟨session, stored, -, same⟩ <;> rw [same]
    · exact .kept (.same rfl rfl)
    · exact .kept (.same (previousOf_of_stored rfl stored rfl) rfl)
  | @persist update =>
    rcases persistActiveRideLifecycle_cases update store with
      same | ⟨carried, driverId, -, -, -, same⟩
    · rw [same]
      exact .kept (.same rfl rfl)
    · rw [same]
      refine .kept (.same ?_ rfl)
      cases stored : store.sessions carried with
      | none => rfl
      | some session =>
        simp only
        split
        · exact previousOf_of_stored rfl stored rfl
        · rfl
  | complete done =>
    rcases completeSession_eq_some done with
      ⟨absent, rfl⟩ | ⟨completed, carried, ⟨-, -, rfl⟩ | ⟨running, -, -, rfl⟩⟩
    · rw [recordCompletion_sessionless absent]
      exact .kept (.same rfl rfl)
    · exact .kept (.same rfl rfl)
    · exact returnStep_of_recordCompletion carried running _
  | createReturn => exact absurd rfl (quiet _)

omit [JsNumber R] in
theorem returnStep_of_operation {operation : Operation} {next : Firestore R}
    (writes : Operation.Writes store operation next) :
    store.ReturnStep next [] := by
  cases writes with
  | nothing => exact .kept (.same rfl rfl)
  | firmware =>
    rw [firmwareMaintenance_frame]
    exact .kept (.same rfl rfl)
  | @rearm request =>
    by_cases answer : (rearmAfterEarlyEnd request store).2 = .rearmed
    · obtain ⟨-, -, journey, kept, same⟩ :=
        rearmAfterEarlyEnd_rearmed answer
      rw [same]
      refine .kept (.location rfl rfl ?_)
      rcases kept with gone | kept
      · exact .inr gone
      · exact .inl kept
    · rw [rearmAfterEarlyEnd_otherwise answer]
      exact .kept (.same rfl rfl)
  | @persistDirection request =>
    rcases persistResolvedSessionDirection_cases request store with
      same | ⟨session, _, stored, -, -, same⟩ <;> rw [same]
    · exact .kept (.same rfl rfl)
    · exact .kept (.same (previousOf_of_stored rfl stored rfl) rfl)

omit [JsNumber R] in
theorem returned_creationOrigin (request : StartRequest)
    (sessionId busId : String) :
    (Event.created sessionId busId request.creationOrigin).returned =
      none := by
  unfold StartRequest.creationOrigin
  cases request.origin <;> rfl

theorem returnStep_of_advance (config : RideConfig R) (ambient : Ambient)
    (store : Store R) (process : Process R) :
    store.ReturnStep
      (process.advance config ambient store).store.toFirestore
      ((process.advance config ambient store).events.filterMap
        Event.returned) := by
  by_cases creates : ∃ turnaround, process = .turnaround (.create turnaround)
  · obtain ⟨turnaround, rfl⟩ := creates
    simp only [Process.advance, TurnaroundStep.advance, Outcome.map]
    split
    · exact .kept (.same rfl rfl)
    · rename_i next done
      obtain ⟨journey, completed, created⟩ := create_eq_some done
      obtain ⟨consumes, own⟩ := consumes_of_create created
      have step := Firestore.ReturnStep.created consumes
      rw [own] at step
      exact step
  · have quiet : ∀ turnaround,
        process ≠ .turnaround (.create turnaround) := by
      rintro turnaround rfl
      exact creates ⟨turnaround, rfl⟩
    have nothing : (process.advance config ambient store).events.filterMap
        Event.returned = [] := by
      rw [List.filterMap_eq_nil_iff]
      intro event recorded
      cases Process.announces_advance recorded with
      | created => exact returned_creationOrigin _ _ _
      | createdReturn => exact absurd rfl (quiet _)
      | serviceResumed | stopped | delayAnnounced | completionPublished =>
        rfl
    rw [nothing]
    exact returnStep_of_writes (process.writes_advance config ambient store)
      quiet

/-- The return sessions created so far, each with the session it returns
from. -/
def World.returned (world : World R) : List (String × String) :=
  world.history.filterMap Event.returned

theorem returnStep_of_took {world next : World R} {label : Label R}
    (took : World.Took config world label next) :
    ∃ returned,
      world.store.ReturnStep next.store.toFirestore returned ∧
        next.returned = returned ++ world.returned := by
  cases took with
  | accept | crash => exact ⟨[], .kept (.same rfl rfl), rfl⟩
  | run =>
    exact ⟨_, returnStep_of_advance config _ _ _, List.filterMap_append⟩
  | @perform operation =>
    refine ⟨[], returnStep_of_operation (Operation.writes_perform _ _), ?_⟩
    have nothing : (operation.perform world.store).2.filterMap
        Event.returned = [] := by
      rw [List.filterMap_eq_nil_iff]
      intro event recorded
      obtain ⟨_, -, -, rfl⟩ := Operation.rearmed_of_mem recorded
      rfl
    simp [World.returned, nothing]

end Eki
