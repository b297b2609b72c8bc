import Eki.Ride.TerminalStatus

/-!
# Completions

A ride completes in a Firestore transaction and is then published on its live
node; either half may be lost and replayed.  The record of the completed trip is
written once, every publication shows what it holds, and the steps of a
completion leave every other session alone.
-/

namespace Eki

open Transition

variable {R : Type} [JsNumber R]

/-- The key of a live node is never an id that the database generates. -/
theorem isAutoId_activeRideId (busId routeId : String) :
    isAutoId (activeRideId busId routeId) = false := by
  have separator : '_' ∈ (activeRideId busId routeId).toList := by
    simp [activeRideId]
  simp only [isAutoId, Bool.and_eq_false_iff]
  left
  rw [List.all_eq_false]
  exact ⟨'_', separator, by decide⟩

def Store.NodeKeys (store : Store R) : Prop :=
  ∀ nodeKey, (store.live nodeKey).isSome = true → isAutoId nodeKey = false

variable {config : RideConfig R} {ambient : Ambient} {store : Store R}
  {process : Process R} {nodeKey : String}

omit [JsNumber R] in
private theorem nodeKey_of_liveWrite {after : Option (LiveBus R)}
    (write : Process.LiveWrite config ambient store process nodeKey after)
    (keys : store.NodeKeys) (present : after.isSome = true) :
    isAutoId nodeKey = false := by
  cases write with
  | claimLive | restore | announce => exact isAutoId_activeRideId _ _
  | reconcile => cases present
  | claimReturn found => exact keys _ (by simp [found])
  | completeSetup =>
    exact keys _ (by simpa [completeAutomaticSetup] using present)
  | retire => exact keys _ (by simpa [retireLive] using present)
  | publish => exact keys _ (by simpa [publishProgress] using present)
  | publishCompletion =>
    exact keys _ (by simpa [publishCompletion] using present)
  | retireCompleted => exact keys _ (by simpa [retireCompleted] using present)
  | activate => exact keys _ (by simpa [Turnaround.activate] using present)
  | release => exact keys _ (by simpa [Turnaround.release] using present)

omit [JsNumber R] in
private theorem nodeKey_of_operation {operation : Operation}
    {after : Option (LiveBus R)}
    (write : Operation.LiveWrite store operation nodeKey after)
    (keys : store.NodeKeys) (present : after.isSome = true) :
    isAutoId nodeKey = false := by
  cases write with
  | telemetry => exact isAutoId_activeRideId _ _
  | sweepStale =>
    obtain ⟨live, swept⟩ := Option.isSome_iff_exists.mp present
    obtain ⟨before, found, -⟩ := Option.bind_eq_some_iff.mp swept
    exact keys nodeKey (by simp [found])
  | retireAssignment =>
    exact keys _ (by simpa [retireAssignment] using present)
  | resolveDirection =>
    exact keys _ (by simpa [resolvePendingDirection] using present)
  | resetDirection =>
    exact keys _ (by simpa [resetRefusedDirection] using present)

variable {world next : World R} {label : Label R}

theorem nodeKeys_of_took (took : World.Took config world label next)
    (keys : world.store.NodeKeys) : next.store.NodeKeys := by
  intro nodeKey present
  obtain ⟨live, found⟩ := Option.isSome_iff_exists.mp present
  apply World.nodes_of_took (fun key _ => isAutoId key = false) took
    ?_ ?_ ?_ nodeKey live found
  · intro key before held
    exact keys key (by simp [held])
  · intro pid ambient process key after _ _ write
    exact nodeKey_of_liveWrite write keys rfl
  · intro operation key after _ write
    exact nodeKey_of_operation write keys rfl

def Firestore.Records (firestore : Firestore R) (sessionId : String)
    (completion : Completion) : Prop :=
  ∃ trip, firestore.completedTrips sessionId = some trip ∧
    trip.completedAt = completion.completedAtMs ∧
    trip.automaticTurnaroundEligibleAt = some completion.eligibleAt

/-- A completion in flight comes from a live node, and after its transaction
it holds what is on record. -/
def Process.Completes (store : Firestore R) (sessionId : String) :
    Process R → Prop
  | .engine (.complete update) => isAutoId update.event.nodeKey = false
  | .engine (.publishCompletion update completion) =>
    update.data.sessionId = some sessionId → store.Records sessionId completion
  | _ => True

/-- The session whose completion the step carries out. -/
def Process.completes : Process R → Option String
  | .engine (.complete update) => update.data.sessionId
  | .engine (.publishCompletion update _) => update.data.sessionId
  | .engine (.retire _ sessionId) => sessionId
  | _ => none

/-- No plain projection is written over the ended session. -/
def World.projectsOpen (sessionId : String) (world : World R)
    (label : Label R) : Bool :=
  (world.running label).all fun process =>
    process.projects != some sessionId || !world.store.hasEnded sessionId

variable {sessionId : String}

section

variable (took : World.Took config world label next)
  (openOnly : world.projectsOpen sessionId label = true)
  (ended : world.store.hasEnded sessionId = true)

include took openOnly ended

theorem hasEnded_of_took :
    next.store.statusOf sessionId = world.store.statusOf sessionId ∨
      next.store.statusOf sessionId = some .failed := by
  rcases statusOf_of_took took ended with
    kept | ⟨process, running, projected | ⟨-, failed⟩⟩
  · exact .inl kept
  · simp [World.projectsOpen, running, projected, ended] at openOnly
  · exact .inr failed

theorem ended_of_took : next.store.hasEnded sessionId = true := by
  rcases hasEnded_of_took took openOnly ended with kept | failed
  · exact hasEnded_of_statusOf kept ended
  · obtain ⟨session, stored, status⟩ := Option.map_eq_some_iff.mp failed
    exact Firestore.hasEnded_iff.mpr ⟨session, stored, by rw [status]; rfl⟩

end

theorem trip_of_writes {next : Firestore R}
    (autoId : isAutoId sessionId = true)
    (completes : process.Completes store.toFirestore sessionId)
    (writes : Process.Writes config ambient store process next) :
    next.completedTrips sessionId = store.completedTrips sessionId ∨
      ∃ update completion,
        next = (recordCompletion update completion store).toFirestore ∧
        update.data.sessionId = some sessionId ∧
        store.isOpen sessionId = true := by
  cases writes with
  | claimLock done =>
    left
    rcases claimLock_eq_some done with ⟨held, session, reused⟩ | created
    · rw [reused.completedTrips]
    · rw [created.next]
  | resumeLock done =>
    obtain ⟨-, -, -, same⟩ := resumeLock_eq_some done
    exact .inl (by rw [same])
  | commitProjections done =>
    obtain ⟨_, _, -, -, -, -, -, -, -, same⟩ :=
      commitCreationProjections_eq_some done
    exact .inl (by rw [same])
  | stop done =>
    obtain ⟨_, -, -, -, -, same⟩ := stopSession_eq_some done
    exact .inl (by rw [same])
  | persistDelay => exact .inl (by rw [persistDelay_frame])
  | @reconcile reconciled busId routeId =>
    rcases reconcileSession_cases reconciled busId routeId ambient.observed
      store with same | ⟨_, -, -, same⟩ <;> exact .inl (by rw [same])
  | @persist update =>
    rcases persistActiveRideLifecycle_cases update store with
      same | ⟨_, _, -, -, -, same⟩ <;> exact .inl (by rw [same])
  | @complete update next completion done =>
    rcases completeSession_eq_some done with
      ⟨absent, rfl⟩ | ⟨completed, carried, ⟨-, -, rfl⟩ | ⟨running, -, -, rfl⟩⟩
    · left
      have other : sessionId ≠ update.event.nodeKey := by
        rintro rfl
        rw [completes] at autoId
        cases autoId
      rw [recordCompletion_sessionless absent]
      simp [other]
    · exact .inl rfl
    · by_cases own : sessionId = completed
      · subst own
        exact .inr ⟨update, completion, rfl, carried, running⟩
      · left
        rw [recordCompletion_session carried]
        simp [own]
  | createReturn done =>
    obtain ⟨journey, completed, created⟩ := create_eq_some done
    exact .inl (by rw [created.completedTrips])
  | nothing | mergeSession | mergeRide | failCreation | commitBatch =>
    exact .inl rfl

/-- What holds of one session over a run. -/
structure World.CompletesOnce (world : World R) (sessionId : String) :
    Prop where
  keys : world.store.NodeKeys
  recorded : ∀ trip, world.store.completedTrips sessionId = some trip →
    world.store.hasEnded sessionId = true ∧
      trip.automaticTurnaroundEligibleAt.isSome = true
  inFlight : ∀ pid process, world.processes pid = some process →
    process.Completes world.store.toFirestore sessionId
  published : ∀ completedAtMs eligibleAt,
    .completionPublished sessionId completedAtMs eligibleAt ∈ world.history →
    world.store.Records sessionId { completedAtMs, eligibleAt }

omit [JsNumber R] in
theorem World.CompletesOnce.empty (sessionId : String) :
    (World.empty : World R).CompletesOnce sessionId := by
  constructor
  · intro nodeKey present
    cases present
  · intro trip recorded
    cases recorded
  · intro pid process inFlight
    cases inFlight
  · intro completedAtMs eligibleAt published
    cases published

namespace World.CompletesOnce

variable {config : RideConfig R} {world next : World R} {label : Label R}
  {sessionId : String}

section

variable (once : world.CompletesOnce sessionId)
  (autoId : isAutoId sessionId = true)
  (took : World.Took config world label next)

include once autoId took

theorem trip :
    next.store.completedTrips sessionId =
        world.store.completedTrips sessionId ∨
      ∃ update completion,
        next.store.toFirestore =
          (recordCompletion update completion world.store).toFirestore ∧
        update.data.sessionId = some sessionId ∧
        world.store.isOpen sessionId = true := by
  cases took with
  | accept | crash => exact .inl rfl
  | @run pid ambient process inFlight =>
    exact trip_of_writes autoId (once.inFlight pid process inFlight)
      (process.writes_advance config ambient world.store)
  | @perform operation =>
    left
    exact congrFun
      (records_of_operation (operation.writes_perform world.store)).2
      sessionId

theorem keeps {trip : CompletedTrip}
    (recorded : world.store.completedTrips sessionId = some trip) :
    next.store.completedTrips sessionId = some trip := by
  rcases once.trip autoId took with same | ⟨_, _, -, -, running⟩
  · rw [same, recorded]
  · obtain ⟨session, stored, open'⟩ := Firestore.isOpen_iff.mp running
    have ended := (once.recorded trip recorded).1
    rw [Firestore.hasEnded_of_stored stored, open'] at ended
    cases ended

theorem keepsRecords {completion : Completion}
    (records : world.store.Records sessionId completion) :
    next.store.Records sessionId completion := by
  obtain ⟨trip, recorded, completedAt, eligibleAt⟩ := records
  exact ⟨trip, once.keeps autoId took recorded, completedAt, eligibleAt⟩

end

variable {update : EngineUpdate R}

omit [JsNumber R] in
private theorem records_of_recordCompletion
    (carried : update.data.sessionId = some sessionId)
    (completion : Completion) (store : Store R) :
    (recordCompletion update completion store).Records sessionId
      completion := by
  refine ⟨update.completedTrip completion, ?_, rfl, rfl⟩
  rw [recordCompletion_session carried]
  simp

omit [JsNumber R] in
private theorem ended_of_recordCompletion
    (carried : update.data.sessionId = some sessionId)
    (running : store.isOpen sessionId = true) (completion : Completion) :
    (recordCompletion update completion store).hasEnded sessionId = true := by
  obtain ⟨session, stored, -⟩ := Firestore.isOpen_iff.mp running
  rw [recordCompletion_session carried]
  simp [Firestore.hasEnded, stored, SessionStatus.terminal]

private theorem recorded_step (once : world.CompletesOnce sessionId)
    (autoId : isAutoId sessionId = true)
    (openOnly : world.projectsOpen sessionId label = true)
    (took : World.Took config world label next) {trip : CompletedTrip}
    (recorded : next.store.completedTrips sessionId = some trip) :
    next.store.hasEnded sessionId = true ∧
      trip.automaticTurnaroundEligibleAt.isSome = true := by
  rcases once.trip autoId took with
    same | ⟨update, completion, same, carried, running⟩
  · rw [same] at recorded
    obtain ⟨ended, eligible⟩ := once.recorded trip recorded
    exact ⟨ended_of_took took openOnly ended, eligible⟩
  · have ended := ended_of_recordCompletion carried running completion
    rw [same, recordCompletion_session carried] at recorded
    simp only [Function.update_self, Option.some.injEq] at recorded
    rw [same]
    exact ⟨ended, by rw [← recorded]; rfl⟩

omit [JsNumber R] in
private theorem completes_of_complete {now : Nat} {next : Store R}
    {completion : Completion}
    (recorded : ∀ trip, store.completedTrips sessionId = some trip →
      trip.automaticTurnaroundEligibleAt.isSome = true)
    (done : completeSession config update now store = some (next, completion))
    (carried : update.data.sessionId = some sessionId) :
    next.Records sessionId completion := by
  rcases completeSession_eq_some done with
    ⟨absent, -⟩ | ⟨completed, named, outcome⟩
  · rw [absent] at carried
    cases carried
  · rw [carried] at named
    cases named
    rcases outcome with ⟨-, recovered, rfl⟩ | ⟨-, -, -, rfl⟩
    · obtain ⟨trip, found, completedAt, eligibleAt⟩ :=
        recoverCompletion_eq_some recovered
      obtain ⟨eligible, stored⟩ :=
        Option.isSome_iff_exists.mp (recorded trip found)
      refine ⟨trip, found, completedAt.symm, ?_⟩
      rw [eligibleAt, stored]
      rfl
    · exact records_of_recordCompletion carried completion store

private theorem completes_of_engine {step : EngineStep R}
    (keys : store.NodeKeys)
    (recorded : ∀ trip, store.completedTrips sessionId = some trip →
      trip.automaticTurnaroundEligibleAt.isSome = true) :
    (step.advance config ambient store).GoesOn fun store rest =>
      (Process.engine rest).Completes store.toFirestore sessionId := by
  apply EngineStep.goesOn_advance
  · intro event data update _ present reduced
    refine ⟨fun _ => ?_, trivial⟩
    show isAutoId update.event.nodeKey = false
    rw [(processLiveSnapshot_eq_some reduced).sameEvent]
    exact keys event.nodeKey (by simp [present])
  · intro update after completion _ done
    exact completes_of_complete recorded done
  all_goals
    intros
    trivial

omit [JsNumber R] in
private theorem completes_stable {before after : Firestore R}
    (kept : ∀ completion, before.Records sessionId completion →
      after.Records sessionId completion)
    (completes : process.Completes before sessionId) :
    process.Completes after sessionId := by
  cases process with
  | engine step =>
    cases step with
    | complete update => exact completes
    | publishCompletion update completion =>
      exact fun carried => kept completion (completes carried)
    | _ => trivial
  | _ => trivial

theorem step (once : world.CompletesOnce sessionId)
    (autoId : isAutoId sessionId = true)
    (openOnly : world.projectsOpen sessionId label = true)
    (took : World.Took config world label next) :
    next.CompletesOnce sessionId := by
  have kept : ∀ completion, world.store.Records sessionId completion →
      next.store.Records sessionId completion :=
    fun _ => once.keepsRecords autoId took
  refine ⟨nodeKeys_of_took took once.keys,
    fun trip => once.recorded_step autoId openOnly took, ?_, ?_⟩
  · apply World.inFlight_of_took (fun world process =>
      process.Completes world.store.toFirestore sessionId) took once.inFlight
    · exact fun _ completes => completes_stable kept completes
    · intro pid request _
      cases request <;> trivial
    · rintro pid ambient process rfl inFlight
      cases took with
      | run found =>
        rw [inFlight] at found
        cases found
        cases process with
        | engine step =>
          exact Outcome.goesOn_map (completes_of_engine once.keys
            fun trip recorded => (once.recorded trip recorded).2)
        | _ =>
          apply Outcome.goesOn_map
          intro rest _
          trivial
  · intro completedAtMs eligibleAt published
    cases took with
    | accept | crash => exact once.published completedAtMs eligibleAt published
    | @run pid ambient process inFlight =>
      rcases List.mem_append.mp published with now | earlier
      · cases Process.announces_advance now with
        | completionPublished carried _ _ =>
          exact kept _ (once.inFlight pid _ inFlight carried)
      · exact kept _ (once.published completedAtMs eligibleAt earlier)
    | @perform operation =>
      rcases List.mem_append.mp published with now | earlier
      · obtain ⟨_, -, -, impossible⟩ := Operation.rearmed_of_mem now
        cases impossible
      · exact kept _ (once.published completedAtMs eligibleAt earlier)

end World.CompletesOnce

/-- The lock, the active ride, the live node and the documents of every other
session are left alone. -/
structure Store.KeepsOthers (sessionId : String) (before after : Store R) :
    Prop where
  locks : ∀ busId lock, before.locks busId = some lock →
    lock.sessionId ≠ some sessionId → after.locks busId = some lock
  activeRides : ∀ rideKey ride, before.activeRides rideKey = some ride →
    ride.sessionId ≠ sessionId → after.activeRides rideKey = some ride
  live : ∀ nodeKey live, before.live nodeKey = some live →
    live.sessionId ≠ some sessionId → after.live nodeKey = some live
  sessions : ∀ other, other ≠ sessionId →
    after.sessions other = before.sessions other

section

omit [JsNumber R]

theorem Store.KeepsOthers.refl (sessionId : String) (store : Store R) :
    store.KeepsOthers sessionId store :=
  { locks := fun _ _ held _ => held
    activeRides := fun _ _ found _ => found
    live := fun _ _ found _ => found
    sessions := fun _ _ => rfl }

private theorem keepsOthers_of_recordCompletion {update : EngineUpdate R}
    (carried : update.data.sessionId = some sessionId)
    (completion : Completion) (store : Store R) :
    store.KeepsOthers sessionId
      (recordCompletion update completion store) := by
  rw [recordCompletion_session carried]
  constructor
  · intro busId lock held other
    simp only
    split
    · rename_i own
      by_cases here : busId = update.data.busId
      · subst here
        rw [held] at own
        exact absurd (beq_iff_eq.mp own) other
      · rw [Function.update_of_ne here, held]
    · exact held
  · intro rideKey ride found other
    simp only
    split
    · rename_i own
      by_cases here : rideKey = update.rideKey
      · subst here
        rw [found] at own
        exact absurd (Option.some.inj (beq_iff_eq.mp own)) other
      · rw [Function.update_of_ne here, found]
    · exact found
  · exact fun _ _ found _ => found
  · intro other different
    exact Function.update_of_ne different _ _

private theorem keepsOthers_of_updateLive {update : LiveBus R → LiveBus R}
    (store : Store R)
    (keeps : ∀ live, live.sessionId ≠ some sessionId → update live = live) :
    store.KeepsOthers sessionId
      (store.updateLive nodeKey (Option.map update)) := by
  refine ⟨fun _ _ held _ => held, fun _ _ found _ => found, ?_, fun _ _ => rfl⟩
  intro key live found other
  by_cases here : key = nodeKey
  · subst here
    simp [found, keeps live other]
  · simp [here, found]

end

theorem keepsOthers_of_completes (config : RideConfig R) (ambient : Ambient)
    (store : Store R) (completes : process.completes = some sessionId) :
    store.KeepsOthers sessionId
      (process.advance config ambient store).store := by
  cases process with
  | engine step =>
    cases step with
    | complete update =>
      simp only [Process.advance, EngineStep.advance, Outcome.map]
      split
      · exact .refl sessionId store
      · rename_i next completion done
        rcases completeSession_eq_some done with
          ⟨absent, -⟩ | ⟨completed, named, outcome⟩
        · rw [show update.data.sessionId = some sessionId
            from completes] at absent
          cases absent
        · rcases outcome with ⟨-, -, rfl⟩ | ⟨-, -, -, rfl⟩
          · exact .refl sessionId _
          · exact keepsOthers_of_recordCompletion completes completion
              store
    | publishCompletion update completion =>
      apply keepsOthers_of_updateLive store
      intro live other
      rw [show update.data.sessionId = some sessionId from completes]
      exact if_pos (by simpa using other)
    | retire nodeKey retired =>
      cases completes
      apply keepsOthers_of_updateLive store
      intro live other
      exact if_neg (by simp [other])
    | _ => cases completes
  | _ => cases completes

theorem replay_writes_nothing (config : RideConfig R) (ambient : Ambient)
    (store : Store R) (completes : process.completes = some sessionId)
    (completed : store.statusOf sessionId = some .completed) :
    (process.advance config ambient store).store.toFirestore =
      store.toFirestore := by
  cases process with
  | engine step =>
    cases step with
    | complete update =>
      have carried : update.data.sessionId = some sessionId := completes
      simp only [Process.advance, EngineStep.advance, Outcome.map,
        completeSession, carried, completed]
      cases recoverCompletion config update sessionId store <;> rfl
    | publishCompletion | retire => rfl
    | _ => cases completes
  | _ => cases completes

/-- What holds of a session's completion between two states of a run. -/
structure CompletedOnce (config : RideConfig R) (sessionId : String)
    (first last : World R) : Prop where
  recordedOnce : ∀ trip, first.store.completedTrips sessionId = some trip →
    last.store.completedTrips sessionId = some trip
  published : ∀ completedAtMs eligibleAt,
    .completionPublished sessionId completedAtMs eligibleAt ∈ last.history →
    last.store.Records sessionId { completedAtMs, eligibleAt }
  agree : ∀ completedAtMs eligibleAt otherCompletedAtMs otherEligibleAt,
    .completionPublished sessionId completedAtMs eligibleAt ∈ last.history →
    .completionPublished sessionId otherCompletedAtMs otherEligibleAt ∈
      last.history →
    completedAtMs = otherCompletedAtMs ∧ eligibleAt = otherEligibleAt
  refused : first.store.statusOf sessionId = some .interrupted ∨
      first.store.statusOf sessionId = some .failed →
    last.store.statusOf sessionId ≠ some .completed ∧
      last.store.completedTrips sessionId =
        first.store.completedTrips sessionId
  keepsOthers : ∀ (ambient : Ambient) (process : Process R),
    process.completes = some sessionId →
    last.store.KeepsOthers sessionId
      (process.advance config ambient last.store).store
  replays : ∀ (ambient : Ambient) (process : Process R),
    process.completes = some sessionId →
    last.store.statusOf sessionId = some .completed →
    (process.advance config ambient last.store).store.toFirestore =
      last.store.toFirestore

omit [JsNumber R] in
/-- Only the id of a new document is put on record as created. -/
theorem autoId_of_announces {busId : String} {origin : CreationOrigin}
    (announces : Process.Announces config ambient store process
      (.created sessionId busId origin)) : isAutoId sessionId = true := by
  cases announces with
  | created done made =>
    rcases claimLock_eq_some done with ⟨held, session, reused⟩ | created
    · rw [reused.notCreated] at made
      cases made
    · exact created.autoId
  | createdReturn done =>
    obtain ⟨journey, completed, created⟩ := create_eq_some done
    exact created.autoId

theorem autoId_of_created {allowed : World R → Label R → Prop}
    (steps : System.Steps (World.step config) allowed .empty world)
    {busId : String} {origin : CreationOrigin}
    (created : .created sessionId busId origin ∈ world.history) :
    isAutoId sessionId = true := by
  induction steps with
  | refl => cases created
  | step before meets taken induction =>
    cases World.took_of_step taken with
    | accept | crash => exact induction created
    | run inFlight =>
      rcases List.mem_append.mp created with now | earlier
      · exact autoId_of_announces (Process.announces_advance now)
      · exact induction earlier
    | perform =>
      rcases List.mem_append.mp created with now | earlier
      · obtain ⟨_, -, -, impossible⟩ := Operation.rearmed_of_mem now
        cases impossible
      · exact induction earlier

def SessionStatus.cutShort : SessionStatus → Bool
  | .interrupted | .failed => true
  | _ => false

private theorem keeps_step (once : world.CompletesOnce sessionId)
    (autoId : isAutoId sessionId = true)
    (openOnly : world.projectsOpen sessionId label = true)
    (took : World.Took config world label next)
    (cutShort : (world.store.statusOf sessionId).any
      SessionStatus.cutShort = true) :
    (next.store.statusOf sessionId).any SessionStatus.cutShort = true ∧
      next.store.completedTrips sessionId =
        world.store.completedTrips sessionId := by
  have ended : world.store.hasEnded sessionId = true := by
    obtain ⟨status, stored, short⟩ := (Option.any_eq_true _ _).mp cutShort
    obtain ⟨session, found, rfl⟩ := Option.map_eq_some_iff.mp stored
    rw [Firestore.hasEnded_of_stored found]
    cases status : session.status <;>
      simp_all [SessionStatus.cutShort, SessionStatus.terminal]
  refine ⟨?_, ?_⟩
  · rcases hasEnded_of_took took openOnly ended with kept | failed
    · rw [kept]
      exact cutShort
    · rw [failed]
      rfl
  · rcases once.trip autoId took with same | ⟨_, _, -, -, running⟩
    · exact same
    · obtain ⟨session, stored, open'⟩ := Firestore.isOpen_iff.mp running
      rw [Firestore.hasEnded_of_stored stored, open'] at ended
      cases ended

private theorem keeps_run {first last : World R}
    (autoId : isAutoId sessionId = true)
    (steps : System.Steps (World.step config)
      (fun world label => world.projectsOpen sessionId label = true)
      first last) (once : first.CompletesOnce sessionId) :
    last.CompletesOnce sessionId ∧
      (∀ trip, first.store.completedTrips sessionId = some trip →
        last.store.completedTrips sessionId = some trip) ∧
      ((first.store.statusOf sessionId).any SessionStatus.cutShort = true →
        (last.store.statusOf sessionId).any SessionStatus.cutShort = true ∧
          last.store.completedTrips sessionId =
            first.store.completedTrips sessionId) := by
  induction steps with
  | refl => exact ⟨once, fun _ => id, fun short => ⟨short, rfl⟩⟩
  | step before openOnly taken induction =>
    obtain ⟨middle, recorded, refused⟩ := induction
    have took := World.took_of_step taken
    refine ⟨middle.step autoId openOnly took, ?_, ?_⟩
    · intro trip found
      exact middle.keeps autoId took (recorded trip found)
    · intro short
      obtain ⟨stillShort, sameTrip⟩ := refused short
      obtain ⟨nextShort, nextTrip⟩ :=
        keeps_step middle autoId openOnly took stillShort
      exact ⟨nextShort, nextTrip.trans sameTrip⟩

/-- The unconditional statement: a session completes exactly once. -/
def CompletionIsExactlyOnce (config : RideConfig R) : Prop :=
  ∀ (first last : World R) (sessionId busId : String)
    (origin : CreationOrigin),
    System.Steps (World.step config) (fun _ _ => True) .empty first →
    System.Steps (World.step config) (fun _ _ => True) first last →
    .created sessionId busId origin ∈ last.history →
    CompletedOnce config sessionId first last

/-- **A session completes exactly once**, through any number of replays and
losses, while no plain projection of it is written after it ended. -/
theorem completion_is_exactly_once (config : RideConfig R)
    {first last : World R} {sessionId busId : String}
    {origin : CreationOrigin}
    (reached : System.Steps (World.step config)
      (fun world label => world.projectsOpen sessionId label = true)
      .empty first)
    (steps : System.Steps (World.step config)
      (fun world label => world.projectsOpen sessionId label = true)
      first last)
    (created : .created sessionId busId origin ∈ last.history) :
    CompletedOnce config sessionId first last := by
  have autoId := autoId_of_created (reached.trans steps) created
  obtain ⟨once, -⟩ := keeps_run autoId reached (.empty sessionId)
  obtain ⟨lastOnce, recorded, refused⟩ := keeps_run autoId steps once
  refine ⟨recorded, lastOnce.published, ?_, ?_,
    fun ambient _ => keepsOthers_of_completes config ambient last.store,
    fun ambient _ => replay_writes_nothing config ambient last.store⟩
  · intro completedAtMs eligibleAt otherCompletedAtMs otherEligibleAt
      published otherPublished
    obtain ⟨trip, found, completedAt, eligible⟩ :=
      lastOnce.published completedAtMs eligibleAt published
    obtain ⟨other, otherFound, otherCompletedAt, otherEligible⟩ :=
      lastOnce.published otherCompletedAtMs otherEligibleAt otherPublished
    rw [found] at otherFound
    cases otherFound
    rw [eligible] at otherEligible
    exact ⟨completedAt.symm.trans otherCompletedAt,
      Option.some.inj otherEligible⟩
  · intro ended
    have short : (first.store.statusOf sessionId).any
        SessionStatus.cutShort = true := by
      rcases ended with status | status <;> rw [status] <;> rfl
    obtain ⟨stillShort, sameTrip⟩ := refused short
    refine ⟨?_, sameTrip⟩
    intro completed
    rw [completed] at stillShort
    cases stillShort

/-- The demo route, and a fix of a bus that stands at its terminal. -/
def demoStops : List (TripRouteStop ℚ) :=
  [{ lat := 0, lng := 0 }, { lat := 0, lng := 1 / 100 }]

def demoFixAt (stops : List (TripRouteStop ℚ)) (lng : ℚ)
    (motionState : MotionState) (timestamp : ℚ) : Request ℚ :=
  .engine
    { nodeKey := "a_r"
      sample :=
        { lat := 0
          lng
          previousPosition := none
          motionState
          timestamp := some timestamp
          now := none
          gpsHdop := some 1
          speed := some 0
          heading := none
          assumedGapSince := none }
      stops
      endpointVersion := some "v" }

def demoFix (stops : List (TripRouteStop ℚ)) (timestamp : ℚ) : Request ℚ :=
  demoFixAt stops (1 / 100) .stopped timestamp

def terminalArrivalRide : List (Label ℚ) :=
  demoFleet ++ [.accept 0 (demoStart none)] ++ runSteps 0 8 firstRide ++
    [.accept 1 (demoFix demoStops 1000)] ++ runSteps 1 3 firstRide ++
    [.accept 1 (demoFix demoStops 4000)] ++ runSteps 1 3 firstRide ++
    [.accept 1 (demoFix demoStops 8000)] ++
    runSteps 1 2 { firstRide with now := 8000 }

/-- The completion is lost before its publication, and replayed. -/
def replayedCompletion : List (Label ℚ) :=
  [.crash 1, .accept 1 (demoFix demoStops 8000)] ++
    runSteps 1 4 { firstRide with now := 9000 }

theorem completion_is_exactly_once_replayed :
    ∃ first last : World ℚ,
      .completionPublished firstSession 8000 38000 ∈ last.history ∧
      CompletedOnce demoConfig firstSession first last := by
  have completed :
      (System.run (World.step demoConfig) (World.projectsOpen firstSession)
          .empty terminalArrivalRide).isSome = true := by
    decide +kernel
  have replayed :
      (System.run (World.step demoConfig) (World.projectsOpen firstSession)
          .empty (terminalArrivalRide ++ replayedCompletion)).map
        World.history =
      some [.completionPublished firstSession 8000 38000,
        .created firstSession "a" .manual, .serviceResumed "a"] := by
    decide +kernel
  obtain ⟨first, ran⟩ := Option.isSome_iff_exists.mp completed
  rw [System.run_append, ran] at replayed
  obtain ⟨last, ranOn, history⟩ := Option.map_eq_some_iff.mp replayed
  have created : .created firstSession "a" .manual ∈ last.history := by
    rw [history]
    decide
  refine ⟨first, last, ?_, completion_is_exactly_once demoConfig
    (System.steps_of_run ran fun _ _ => id)
    (System.steps_of_run ranOn fun _ _ => id) created⟩
  rw [history]
  decide

/-- Three fixes on the way to a terminal, the last of which completes the
ride there. -/
def demoArrival (pid now : Nat) (first second third : Request ℚ) :
    List (Label ℚ) :=
  [.accept pid first] ++ runSteps pid 3 firstRide ++
    [.accept pid second] ++ runSteps pid 3 firstRide ++
    [.accept pid third] ++ runSteps pid 4 { firstRide with now }

/-- The demo bus arrives at the far terminal at the given time. -/
def outwardArrival (pid now : Nat) : List (Label ℚ) :=
  demoArrival pid now (demoFix demoStops (now - 8000))
    (demoFix demoStops (now - 4000)) (demoFix demoStops now)

/-- Two starts of the first ride stand before and after their lock
transaction while the ride is completed. -/
def completedBeforeResume : List (Label ℚ) :=
  demoFleet ++ [.accept 0 (demoStart none)] ++ runSteps 0 8 firstRide ++
    [.accept 1 (demoStart none)] ++ runSteps 1 4 firstRide ++
    [.accept 2 (demoStart none)] ++ runSteps 2 3 firstRide ++
    outwardArrival 3 8000

/-- The delayed merges reopen the completed ride, which is taken up and
completed once more. -/
def secondCompletion : List (Label ℚ) :=
  runSteps 1 2 firstRide ++ runSteps 2 3 firstRide ++
    [.accept 6 (demoStart none)] ++ runSteps 6 8 firstRide ++
    outwardArrival 3 58000

/-- The two completions of a reopened ride are published at their own times. -/
theorem completion_happens_twice : ¬ CompletionIsExactlyOnce demoConfig := by
  intro once
  have twice :
      (System.run (World.step demoConfig) (fun _ _ => true) .empty
          (completedBeforeResume ++ secondCompletion)).any
        (fun world =>
          decide (.created firstSession "a" .manual ∈ world.history) &&
          decide (.completionPublished firstSession 8000 38000 ∈
            world.history) &&
          decide (.completionPublished firstSession 58000 88000 ∈
            world.history)) = true := by
    decide +kernel
  obtain ⟨world, ran, holds⟩ := System.exists_of_run twice
  simp only [Bool.and_eq_true, decide_eq_true_eq] at holds
  obtain ⟨⟨created, earlier⟩, later⟩ := holds
  have agrees := (once .empty world firstSession "a" .manual (.refl _)
    (ran.mono fun _ _ _ => trivial) created).agree _ _ _ _ earlier later
  exact absurd agrees.1 (by decide)

end Eki
