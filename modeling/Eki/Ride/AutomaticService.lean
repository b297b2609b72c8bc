import Eki.Library.Journal
import Eki.Ride.TerminalStatus

/-!
# Automatic service

Whether the automatic service of a bus is paused, which epoch it is in and which
admissions have created a session: a machine over what was put on record.  The
stores refine it, and every recorded admission and rearm was permitted by it.
-/

namespace Eki

open Transition Journal
open Function (update)

variable {R : Type} [JsNumber R]

structure AutomaticService where
  paused : String → Bool
  epoch : String → Nat
  admitted : String → Nat → Nat → Bool

namespace AutomaticService

variable (service : AutomaticService)

def pause (busId : String) : AutomaticService :=
  { service with paused := update service.paused busId true }

/-- A deliberate manual start. -/
def resume (busId : String) : AutomaticService :=
  { service with
    paused := update service.paused busId false
    epoch := update service.epoch busId (service.epoch busId + 1) }

def rearm (busId : String) (generation : Nat) : AutomaticService :=
  { service with
    epoch := update service.epoch busId (generation + 1) }

def grant (deviceId : String) (assignmentRevision generation : Nat) :
    AutomaticService :=
  { service with
    admitted := fun device revision epoch =>
      (device == deviceId && revision == assignmentRevision &&
          epoch == generation) ||
        service.admitted device revision epoch }

end AutomaticService

def Event.serve : Event → AutomaticService → AutomaticService
  | .stopped _ busId _ true, service => service.pause busId
  | .serviceResumed busId, service => service.resume busId
  | .rearmed busId generation, service => service.rearm busId generation
  | .created _ _ (.automatic deviceId assignmentRevision generation),
      service =>
      service.grant deviceId assignmentRevision generation
  | _, service => service

/-- Only a running service in the generation's epoch is rearmed or admits, and
it admits a device's assignment once for each epoch. -/
def Event.served : Event → AutomaticService → Prop
  | .rearmed busId generation, service =>
    service.paused busId = false ∧ service.epoch busId = generation
  | .created _ busId (.automatic deviceId assignmentRevision generation),
      service =>
      service.paused busId = false ∧ service.epoch busId = generation ∧
        service.admitted deviceId assignmentRevision generation = false
  | _, _ => True

def automaticService : Machine AutomaticService Event :=
  { first :=
      { paused := fun _ => false
        epoch := fun _ => 0
        admitted := fun _ _ _ => false }
    apply := Event.serve
    permits := Event.served }

def admissionKey (config : RideConfig R) (deviceId : String)
    (assignmentRevision generation : Nat) : String :=
  config.createHash
    ("device:" ++ deviceId ++ ":" ++ toString assignmentRevision ++ ":" ++
      toString generation ++ "\x00" ++ "automatic-service-v1")

/-- The documents agree with the service, and the key of every admission that
created a session is bound. -/
structure Firestore.Serves (config : RideConfig R) (firestore : Firestore R)
    (service : AutomaticService) : Prop where
  paused : ∀ busId, service.paused busId =
    (firestore.busLocations busId).automaticServicePaused
  epoch : ∀ busId, service.epoch busId =
    (firestore.busLocations busId).automaticServiceEpoch
  bound : ∀ deviceId assignmentRevision generation,
    service.admitted deviceId assignmentRevision generation = true →
    (firestore.creationKeys
      (admissionKey config deviceId assignmentRevision
        generation)).isSome = true

structure Firestore.KeepsService (before after : Firestore R) : Prop where
  paused : ∀ busId,
    (after.busLocations busId).automaticServicePaused =
      (before.busLocations busId).automaticServicePaused
  epoch : ∀ busId,
    (after.busLocations busId).automaticServiceEpoch =
      (before.busLocations busId).automaticServiceEpoch
  keys : ∀ key, (before.creationKeys key).isSome = true →
    (after.creationKeys key).isSome = true

section

omit [JsNumber R]

variable {before after : Firestore R}

theorem Firestore.KeepsService.same
    (locations : after.busLocations = before.busLocations)
    (keys : after.creationKeys = before.creationKeys) :
    before.KeepsService after := by
  constructor <;> simp [locations, keys]

theorem Firestore.KeepsService.location {busId : String}
    {journey : Option TerminalJourney} (locations : after.busLocations =
      update before.busLocations busId
        { before.busLocations busId with terminalJourney := journey })
    (keys : after.creationKeys = before.creationKeys) :
    before.KeepsService after := by
  constructor
  · intro other
    by_cases same : other = busId
    · subst same
      simp [locations]
    · simp [locations, same]
  · intro other
    by_cases same : other = busId
    · subst same
      simp [locations]
    · simp [locations, same]
  · simp [keys]

theorem Firestore.Serves.kept {config : RideConfig R}
    {before after : Firestore R} {service : AutomaticService}
    (serves : before.Serves config service)
    (kept : before.KeepsService after) : after.Serves config service :=
  { paused := fun busId => (serves.paused busId).trans (kept.paused busId).symm
    epoch := fun busId => (serves.epoch busId).trans (kept.epoch busId).symm
    bound := fun _ _ _ admitted => kept.keys _ (serves.bound _ _ _ admitted) }

end

variable {config : RideConfig R} {request : StartRequest} {sessionId : String}

variable {key : String} {keys : String → Option CreationBinding}

omit [JsNumber R] in
theorem bindKey_isSome (bound : (keys key).isSome = true) :
    (request.bindKey config sessionId keys key).isSome = true := by
  cases own : request.keyRef config with
  | none => simpa [StartRequest.bindKey, own] using bound
  | some ref =>
    simp only [StartRequest.bindKey, own]
    split
    · exact bound
    · by_cases same : key = ref
      · simp [same]
      · simpa [same] using bound

omit [JsNumber R] in
theorem bindKey_own (own : request.keyRef config = some key) :
    (request.bindKey config sessionId keys key).isSome = true := by
  simp only [StartRequest.bindKey, own]
  split
  · assumption
  · simp

def Process.quiet : Process R → Bool
  | .start { step := .claimLock .., .. } => false
  | .stop { step := .commit, .. } => false
  | _ => true

omit [JsNumber R] in
theorem keepsService_of_recordCompletion (update : EngineUpdate R)
    (completion : Completion) (store : Store R) :
    store.KeepsService
      (recordCompletion update completion store).toFirestore := by
  cases carried : update.data.sessionId with
  | none =>
    rw [recordCompletion_sessionless carried]
    exact .same rfl rfl
  | some sessionId =>
    rw [recordCompletion_session carried]
    cases update.data.driverId with
    | none => exact .same rfl rfl
    | some driverId => exact .location rfl rfl

variable {ambient : Ambient} {store : Store R}

variable {process : Process R} {next : Firestore R}

theorem keepsService_of_writes
    (writes : Process.Writes config ambient store process next)
    (quiet : process.quiet = true) : store.KeepsService next := by
  cases writes with
  | nothing | mergeSession | mergeRide | failCreation | commitBatch =>
    exact .same rfl rfl
  | claimLock | stop => cases quiet
  | resumeLock done =>
    obtain ⟨-, -, -, same⟩ := resumeLock_eq_some done
    rw [same]
    exact
      { paused := fun _ => rfl
        epoch := fun _ => rfl
        keys := fun _ => bindKey_isSome }
  | commitProjections done =>
    obtain ⟨_, _, -, -, -, -, -, -, -, same⟩ :=
      commitCreationProjections_eq_some done
    rw [same]
    exact .same rfl rfl
  | persistDelay =>
    rw [persistDelay_frame]
    exact .same rfl rfl
  | @reconcile sessionId busId routeId =>
    rcases reconcileSession_cases sessionId busId routeId ambient.observed
      store with same | ⟨_, -, -, same⟩ <;> rw [same] <;>
    exact .same rfl rfl
  | @persist update =>
    rcases persistActiveRideLifecycle_cases update store with
      same | ⟨_, _, -, -, -, same⟩ <;> rw [same] <;> exact .same rfl rfl
  | @complete update next completion done =>
    rcases completeSession_eq_some done with
      ⟨-, rfl⟩ | ⟨_, -, ⟨-, -, rfl⟩ | ⟨-, -, -, rfl⟩⟩
    · exact keepsService_of_recordCompletion update completion store
    · exact .same rfl rfl
    · exact keepsService_of_recordCompletion update completion store
  | createReturn done =>
    obtain ⟨journey, completed, created⟩ := create_eq_some done
    exact .location created.busLocations created.creationKeys

omit [JsNumber R] in
theorem quiet_of_announces {event : Event}
    (announces : Process.Announces config ambient store process event)
    (quiet : process.quiet = true) : automaticService.Quiet event := by
  cases announces with
  | created | serviceResumed | stopped => cases quiet
  | createdReturn | delayAnnounced | completionPublished =>
    exact
      { apply := fun _ => rfl
        permits := fun _ => trivial }

/-- The stores refine the machine, whose every event was permitted. -/
structure World.Serves (config : RideConfig R) (world : World R) : Prop where
  lawful : automaticService.Lawful world.history
  serves : world.store.Serves config (automaticService.after world.history)

omit [JsNumber R] in
theorem World.Serves.empty (config : RideConfig R) :
    (World.empty : World R).Serves config := by
  refine ⟨trivial, fun _ => rfl, fun _ => rfl, ?_⟩
  intro deviceId assignmentRevision generation admitted
  cases admitted

variable {service : AutomaticService}

omit [JsNumber R] in
private theorem serves_of_stop {request : StopRequest} {next : Store R}
    {pauses : Bool} (serves : store.Serves config service)
    (done : stopSession request store = some (next, pauses)) :
    next.Serves config
      ((Event.stopped request.sessionId request.busId request.routeId
        pauses).serve service) := by
  obtain ⟨_, -, -, -, -, same⟩ := stopSession_eq_some done
  rw [same]
  cases pauses with
  | false => exact serves.kept (.same rfl rfl)
  | true =>
    refine ⟨?_, ?_, serves.bound⟩
    · intro busId
      by_cases own : busId = request.busId
      · subst own
        simp [Event.serve, AutomaticService.pause]
      · simpa [Event.serve, AutomaticService.pause, own] using
          serves.paused busId
    · intro busId
      by_cases own : busId = request.busId
      · subst own
        simpa [Event.serve, AutomaticService.pause] using
          serves.epoch request.busId
      · simpa [Event.serve, AutomaticService.pause, own] using
          serves.epoch busId

section Claim

variable {config : RideConfig R} {request : StartRequest}
  {pinned : Option String} {current : Option (LiveBus R)}
  {route : RouteDocument} {direction : Option RideDirection}
  {proposed : String} {store next : Store R} {claim : LockClaim}

omit [JsNumber R]

private theorem location_of_claim
    (done : claimLock config request pinned current route direction proposed
      store = some (next, claim)) :
    next.creationKeys =
        request.bindKey config claim.sessionId store.creationKeys ∧
      ∃ journey, next.busLocations =
        update store.busLocations request.assignment.busId
          { request.resumeAutomaticService
              (store.busLocations request.assignment.busId) with
            terminalJourney := journey } := by
  rcases claimLock_eq_some done with ⟨held, session, reused⟩ | created
  · exact ⟨reused.creationKeys, _, reused.busLocations⟩
  · rw [created.next]
    exact ⟨rfl, _, rfl⟩

private theorem serves_of_manual (serves : store.Serves config service)
    (manual : request.automatic = false)
    (done : claimLock config request pinned current route direction proposed
      store = some (next, claim)) :
    next.Serves config (service.resume request.assignment.busId) := by
  obtain ⟨keys, journey, locations⟩ := location_of_claim done
  refine ⟨?_, ?_, ?_⟩
  · intro busId
    by_cases own : busId = request.assignment.busId
    · subst own
      simp [AutomaticService.resume, locations,
        StartRequest.resumeAutomaticService, manual]
    · simpa [AutomaticService.resume, locations, own] using
        serves.paused busId
  · intro busId
    by_cases own : busId = request.assignment.busId
    · subst own
      simp [AutomaticService.resume, locations,
        StartRequest.resumeAutomaticService, manual, serves.epoch]
    · simpa [AutomaticService.resume, locations, own] using
        serves.epoch busId
  · intro deviceId assignmentRevision generation admitted
    rw [keys]
    exact bindKey_isSome
      (serves.bound deviceId assignmentRevision generation admitted)

private theorem keepsService_of_automatic
    (automatic : request.automatic = true)
    (done : claimLock config request pinned current route direction proposed
      store = some (next, claim)) :
    store.KeepsService next.toFirestore := by
  obtain ⟨keys, journey, locations⟩ := location_of_claim done
  simp only [StartRequest.resumeAutomaticService, automatic, ↓reduceIte]
    at locations
  refine ⟨?_, ?_, ?_⟩
  · intro busId
    by_cases own : busId = request.assignment.busId
    · subst own
      simp [locations]
    · simp [locations, own]
  · intro busId
    by_cases own : busId = request.assignment.busId
    · subst own
      simp [locations]
    · simp [locations, own]
  · intro key bound
    rw [keys]
    exact bindKey_isSome bound

private theorem serves_of_admission {admission : Admission}
    (serves : store.Serves config service)
    (origin : request.origin = .automatic admission)
    (created : claim.created = true)
    (done : claimLock config request pinned current route direction proposed
      store = some (next, claim)) :
    (Event.created claim.sessionId request.assignment.busId
        request.creationOrigin).served service ∧
      next.Serves config
        ((Event.created claim.sessionId request.assignment.busId
          request.creationOrigin).serve service) := by
  have automatic : request.automatic = true := by
    simp [StartRequest.automatic, origin]
  have key : request.keyRef config =
      some (admissionKey config admission.deviceId
        admission.assignmentRevision admission.generation) := by
    simp [StartRequest.keyRef, StartRequest.idempotencyKey,
      StartRequest.principalScope, origin, admissionKey]
  have kept := serves.kept (keepsService_of_automatic automatic done)
  obtain ⟨keys, -⟩ := location_of_claim done
  rcases claimLock_eq_some done with ⟨held, session, reused⟩ | made
  · rw [reused.notCreated] at created
    cases created
  · have verified := made.verified
    simp only [StartRequest.verify, origin, Admission.verify,
      Bool.and_eq_true, Bool.not_eq_true', decide_eq_true_eq] at verified
    obtain ⟨⟨⟨-, running⟩, epoch⟩, -⟩ := verified
    have unbound := made.unbound
    simp only [key, Option.bind_some] at unbound
    simp only [StartRequest.creationOrigin, origin]
    refine ⟨⟨?_, ?_, ?_⟩, kept.paused, kept.epoch, ?_⟩
    · rw [serves.paused, running]
    · rw [serves.epoch, epoch]
    · rw [← Bool.not_eq_true]
      intro admitted
      have bound := serves.bound _ _ _ admitted
      rw [unbound] at bound
      cases bound
    · intro deviceId assignmentRevision generation admitted
      simp only [Event.serve, AutomaticService.grant, Bool.or_eq_true,
        Bool.and_eq_true, beq_iff_eq] at admitted
      rcases admitted with ⟨⟨rfl, rfl⟩, rfl⟩ | earlier
      · rw [keys]
        exact bindKey_own key
      · exact kept.bound _ _ _ earlier

end Claim

variable {history : List Event}

omit [JsNumber R] in
/-- A start whose lock transaction committed records a creation, a deliberate
manual start, or neither. -/
private theorem serves_of_claimLock {pinned : Option String}
    {current : Option (LiveBus R)} {route : RouteDocument}
    {direction : Option RideDirection}
    (lawful : automaticService.Lawful history)
    (serves : store.Serves config (automaticService.after history)) :
    automaticService.Lawful
        ((StartProcess.advance config
          { request, step := .claimLock pinned current route direction }
          ambient store).events ++ history) ∧
      (StartProcess.advance config
          { request, step := .claimLock pinned current route direction }
          ambient store).store.Serves config
        (automaticService.after
          ((StartProcess.advance config
            { request, step := .claimLock pinned current route direction }
            ambient store).events ++ history)) := by
  simp only [StartProcess.advance]
  split
  · exact ⟨lawful, serves⟩
  · rename_i next claim done
    cases origin : request.origin with
    | manual uid key =>
      have manual : request.automatic = false := by
        simp [StartRequest.automatic, origin]
      have resumed := serves_of_manual serves manual done
      simp only [manual, Bool.false_eq_true, ↓reduceIte]
      split
      · simp only [StartRequest.creationOrigin, origin]
        exact ⟨⟨trivial, trivial, lawful⟩, resumed⟩
      · exact ⟨⟨trivial, lawful⟩, resumed⟩
    | automatic admission =>
      have automatic : request.automatic = true := by
        simp [StartRequest.automatic, origin]
      simp only [automatic, ↓reduceIte, List.append_nil]
      split
      · rename_i created
        obtain ⟨permitted, admitted⟩ :=
          serves_of_admission serves origin created done
        exact ⟨⟨permitted, lawful⟩, admitted⟩
      · exact ⟨lawful, serves.kept (keepsService_of_automatic automatic done)⟩

theorem serves_of_advance (process : Process R)
    (lawful : automaticService.Lawful history)
    (serves : store.Serves config (automaticService.after history)) :
    automaticService.Lawful
        ((process.advance config ambient store).events ++ history) ∧
      (process.advance config ambient store).store.Serves config
        (automaticService.after
          ((process.advance config ambient store).events ++ history)) := by
  by_cases quiet : process.quiet = true
  · have unchanged : ∀ event ∈ (process.advance config ambient store).events,
        automaticService.Quiet event := fun event recorded =>
      quiet_of_announces (Process.announces_advance recorded) quiet
    refine ⟨Machine.lawful_of_quiet unchanged lawful, ?_⟩
    rw [Machine.after_of_quiet unchanged]
    exact serves.kept (keepsService_of_writes
      (process.writes_advance config ambient store) quiet)
  · cases process with
    | start process =>
      obtain ⟨request, step⟩ := process
      cases step with
      | claimLock pinned current route direction =>
        exact serves_of_claimLock lawful serves
      | _ => exact absurd rfl quiet
    | stop process =>
      obtain ⟨request, step⟩ := process
      cases step with
      | commit =>
        simp only [Process.advance, StopProcess.advance, Outcome.map]
        split
        · exact ⟨lawful, serves⟩
        · rename_i done
          exact ⟨⟨trivial, lawful⟩, serves_of_stop serves done⟩
      | _ => exact absurd rfl quiet
    | _ => exact absurd rfl quiet

section

omit [JsNumber R]

theorem keepsService_of_operation {operation : Operation}
    (writes : Operation.Writes store operation next)
    (notRearm : ∀ request, operation ≠ .rearm request) :
    store.KeepsService next := by
  cases writes with
  | nothing => exact .same rfl rfl
  | firmware =>
    rw [firmwareMaintenance_frame]
    exact .same rfl rfl
  | rearm => exact absurd rfl (notRearm _)
  | @persistDirection request =>
    rcases persistResolvedSessionDirection_cases request store with
      same | ⟨_, _, -, -, -, same⟩ <;> rw [same] <;> exact .same rfl rfl

private theorem serves_of_rearm {request : RearmRequest}
    (serves : store.Serves config service)
    (answer : (rearmAfterEarlyEnd request store).2 = .rearmed) :
    (Event.rearmed request.busId request.generation).served service ∧
      (rearmAfterEarlyEnd request store).1.Serves config
        ((Event.rearmed request.busId request.generation).serve service) := by
  obtain ⟨running, epoch, journey, -, same⟩ := rearmAfterEarlyEnd_rearmed answer
  rw [same]
  refine ⟨⟨?_, ?_⟩, ?_, ?_, serves.bound⟩
  · rw [serves.paused, running]
  · rw [serves.epoch, epoch]
  · intro busId
    by_cases own : busId = request.busId
    · subst own
      simp [Event.serve, AutomaticService.rearm, serves.paused, running]
    · simpa [Event.serve, AutomaticService.rearm, own] using
        serves.paused busId
  · intro busId
    by_cases own : busId = request.busId
    · subst own
      simp [Event.serve, AutomaticService.rearm]
    · simpa [Event.serve, AutomaticService.rearm, own] using
        serves.epoch busId

theorem serves_of_operation (operation : Operation)
    (lawful : automaticService.Lawful history)
    (serves : store.Serves config (automaticService.after history)) :
    automaticService.Lawful ((operation.perform store).2 ++ history) ∧
      (operation.perform store).1.Serves config
        (automaticService.after ((operation.perform store).2 ++ history)) := by
  cases operation with
  | rearm request =>
    simp only [Operation.perform]
    split
    · rename_i answer
      obtain ⟨permitted, rearmed⟩ := serves_of_rearm serves answer
      exact ⟨⟨permitted, lawful⟩, rearmed⟩
    · rename_i answer
      rw [rearmAfterEarlyEnd_otherwise answer]
      exact ⟨lawful, serves⟩
  | _ =>
    refine ⟨lawful, serves.kept (keepsService_of_operation
      (Operation.writes_perform store _) ?_)⟩
    intro request other
    cases other

end

theorem World.Serves.step {config : RideConfig R} {world next : World R}
    {label : Label R} (serves : world.Serves config)
    (took : World.Took config world label next) : next.Serves config := by
  cases took with
  | accept | crash => exact ⟨serves.lawful, serves.serves⟩
  | @run pid ambient process inFlight =>
    obtain ⟨lawful, refines⟩ :=
      serves_of_advance process serves.lawful serves.serves
    exact ⟨lawful, refines⟩
  | @perform operation =>
    obtain ⟨lawful, refines⟩ :=
      serves_of_operation operation serves.lawful serves.serves
    exact ⟨lawful, refines⟩

namespace Event

/-- A session was created for the admission. -/
def admits (deviceId : String) (assignmentRevision generation : Nat) :
    Event → Bool
  | .created _ _ (.automatic device revision epoch) =>
    device == deviceId && revision == assignmentRevision &&
      epoch == generation
  | _ => false

/-- A session was created for some admission to the bus. -/
def admitsOn (busId : String) : Event → Bool
  | .created _ bus (.automatic _ _ _) => bus == busId
  | _ => false

def advancesEpoch (busId : String) : Event → Bool
  | .rearmed bus _ | .serviceResumed bus => bus == busId
  | _ => false

end Event

variable {log : List Event}

theorem admitted_once (lawful : automaticService.Lawful log)
    (deviceId : String) (assignmentRevision generation : Nat) :
    log.countP (Event.admits deviceId assignmentRevision generation) ≤ 1 := by
  apply lawful.countP_le_one fun service =>
    service.admitted deviceId assignmentRevision generation = true
  · intro event service admits
    cases event with
    | created sessionId busId origin =>
      cases origin with
      | automatic device revision epoch =>
        simp only [Event.admits, Bool.and_eq_true, beq_iff_eq] at admits
        obtain ⟨⟨rfl, rfl⟩, rfl⟩ := admits
        simp [automaticService, Event.serve, AutomaticService.grant]
      | _ => cases admits
    | _ => cases admits
  · intro event service _ admitted
    cases event with
    | created sessionId busId origin =>
      cases origin with
      | automatic device revision epoch =>
        simp [automaticService, Event.serve, AutomaticService.grant, admitted]
      | _ => exact admitted
    | stopped sessionId busId routeId paused =>
      cases paused <;> exact admitted
    | _ => exact admitted
  · intro event service admits admitted permitted
    cases event with
    | created sessionId busId origin =>
      cases origin with
      | automatic device revision epoch =>
        simp only [Event.admits, Bool.and_eq_true, beq_iff_eq] at admits
        obtain ⟨⟨rfl, rfl⟩, rfl⟩ := admits
        rw [permitted.2.2] at admitted
        cases admitted
      | _ => cases admits
    | _ => cases admits

theorem epoch_serve (event : Event) (service : AutomaticService)
    (busId : String) (permitted : event.served service) :
    (event.serve service).epoch busId =
      service.epoch busId + if event.advancesEpoch busId then 1 else 0 := by
  cases event with
  | created sessionId bus origin => cases origin <;> rfl
  | stopped sessionId bus routeId paused => cases paused <;> rfl
  | rearmed bus generation =>
    by_cases own : bus = busId
    · subst own
      simp [Event.serve, AutomaticService.rearm, Event.advancesEpoch,
        permitted.2]
    · simp [Event.serve, AutomaticService.rearm, Event.advancesEpoch, own,
        Ne.symm own]
  | serviceResumed bus =>
    by_cases own : bus = busId
    · subst own
      simp [Event.serve, AutomaticService.resume, Event.advancesEpoch]
    · simp [Event.serve, AutomaticService.resume, Event.advancesEpoch, own,
        Ne.symm own]
  | _ => rfl

theorem rearmed_once (lawful : automaticService.Lawful log) (busId : String)
    (generation : Nat) : log.countP (· == .rearmed busId generation) ≤ 1 := by
  apply lawful.countP_le_one fun service =>
    generation < service.epoch busId
  · intro event service rearms
    rw [beq_iff_eq.mp rearms]
    simp [automaticService, Event.serve, AutomaticService.rearm]
  · intro event service permitted passed
    have advanced := epoch_serve event service busId permitted
    show generation < (event.serve service).epoch busId
    omega
  · intro event service rearms passed permitted
    rw [beq_iff_eq.mp rearms] at permitted
    exact absurd permitted.2 (Nat.ne_of_gt passed)

theorem epoch_eq_countP (lawful : automaticService.Lawful log)
    (busId : String) :
    (automaticService.after log).epoch busId =
      log.countP (Event.advancesEpoch busId) := by
  induction log with
  | nil => rfl
  | cons event earlier induction =>
    calc (automaticService.after (event :: earlier)).epoch busId
        = (automaticService.after earlier).epoch busId +
            if event.advancesEpoch busId then 1 else 0 :=
          epoch_serve event _ busId lawful.1
      _ = (event :: earlier).countP (Event.advancesEpoch busId) := by
          rw [induction lawful.2, List.countP_cons]

/-- A pause holds until a deliberate manual start. -/
theorem not_admitted_while_paused {later earlier : List Event}
    {busId routeId : String} (lawful : automaticService.Lawful
      (later ++ .stopped sessionId busId routeId true :: earlier))
    (notResumed : .serviceResumed busId ∉ later) :
    ∀ event ∈ later, event.admitsOn busId = false := by
  intro event member
  rw [← Bool.not_eq_true]
  intro admits
  refine lawful.not_mem (fun service => service.paused busId = true)
    ?_ ?_ ?_ member
  · simp [Machine.after, automaticService, Event.serve, AutomaticService.pause]
  · intro other among service _ paused
    show (other.serve service).paused busId = true
    cases other with
    | created _ _ origin => cases origin <;> exact paused
    | stopped _ bus _ pauses =>
      cases pauses with
      | false => exact paused
      | true =>
        by_cases own : busId = bus
        · simp [Event.serve, AutomaticService.pause, own]
        · simpa [Event.serve, AutomaticService.pause, own] using paused
    | serviceResumed bus =>
      have other : busId ≠ bus := by
        rintro rfl
        exact notResumed among
      simpa [Event.serve, AutomaticService.resume, other] using paused
    | _ => exact paused
  · intro service paused permitted
    cases event with
    | created _ bus origin =>
      cases origin with
      | automatic device revision epoch =>
        have running := permitted.1
        rw [beq_iff_eq.mp admits, paused] at running
        cases running
      | _ => cases admits
    | _ => cases admits

structure World.AdmitsOnce (world : World R) : Prop where
  admitted : ∀ deviceId assignmentRevision generation,
    world.history.countP
      (Event.admits deviceId assignmentRevision generation) ≤ 1
  rearmed : ∀ busId generation,
    world.history.countP (· == .rearmed busId generation) ≤ 1
  epoch : ∀ busId,
    (world.store.busLocations busId).automaticServiceEpoch =
      world.history.countP (Event.advancesEpoch busId)
  answers : ∀ request : RearmRequest,
    (rearmAfterEarlyEnd request world.store).2 = .rearmed ↔
      (world.store.busLocations request.busId).automaticServicePaused = false ∧
        (world.store.busLocations request.busId).automaticServiceEpoch =
          request.generation ∧
        (request.consumedBy = none ∨
          (world.store.busLocations request.busId).terminalJourney.bind
            TerminalJourney.consumedBy = request.consumedBy)
  paused : ∀ later earlier sessionId busId routeId,
    world.history = later ++ .stopped sessionId busId routeId true :: earlier →
    .serviceResumed busId ∉ later →
    ∀ event ∈ later, event.admitsOn busId = false

/-- **Automatic admission is unique and respects a pause** in every state that
a run reaches. -/
theorem automatic_admission_is_unique (config : RideConfig R)
    {world : World R}
    (steps : System.Steps (World.step config) (fun _ _ => True) .empty world) :
    world.AdmitsOnce := by
  have serves : world.Serves config := by
    apply steps.invariant (World.Serves.empty config)
    intro world label next serves _ taken
    exact serves.step (World.took_of_step taken)
  refine ⟨admitted_once serves.lawful, rearmed_once serves.lawful, ?_,
    fun request => rearmAfterEarlyEnd_iff request world.store, ?_⟩
  · intro busId
    rw [← serves.serves.epoch busId]
    exact epoch_eq_countP serves.lawful busId
  · intro later earlier sessionId busId routeId split notResumed
    have lawful := serves.lawful
    rw [split] at lawful
    exact not_admitted_while_paused lawful notResumed

def deviceFleet : Registry :=
  { demoRegistry "a" with
    devices := fun _ =>
      some
        { busId := "a"
          routeId := "r" } }

def demoAdmission (generation : Nat) : Request ℚ :=
  .start
    { assignment := demoAssignment
      origin := .automatic
        { deviceId := "device"
          assignmentRevision := 0
          generation
          endpointVersion := "v" } }

/-- Two replicas admit one ride; it is abandoned, and two of them rearm. -/
def abandonedAdmission : List (Label ℚ) :=
  demoFleet ++ [.perform (.configure deviceFleet),
    .accept 0 (demoAdmission 0), .accept 1 (demoAdmission 0)] ++
    runSteps 0 6 firstRide ++ runSteps 1 6 firstRide ++
    runSteps 0 4 firstRide ++ [.accept 2 (.reconcile firstSession)] ++
    runSteps 2 3 firstRide ++
    List.replicate 2 (.perform (.rearm
      { busId := "a"
        generation := 0
        consumedBy := none }))

theorem automatic_admission_is_unique_abandoned :
    ∃ world : World ℚ,
      System.Steps (World.step demoConfig) (fun _ _ => True) .empty world ∧
      world.history =
        [.rearmed "a" 0, .created firstSession "a" (.automatic "device" 0 0)] ∧
      world.AdmitsOnce := by
  have observed :
      (System.run (World.step demoConfig) (fun _ _ => true) .empty
          abandonedAdmission).map World.history =
        some [.rearmed "a" 0,
          .created firstSession "a" (.automatic "device" 0 0)] := by
    decide +kernel
  obtain ⟨world, ran, recorded⟩ := Option.map_eq_some_iff.mp observed
  have steps : System.Steps (World.step demoConfig) (fun _ _ => True)
      .empty world :=
    System.steps_of_run ran fun _ _ _ => trivial
  exact ⟨world, steps, recorded,
    automatic_admission_is_unique demoConfig steps⟩

end Eki
