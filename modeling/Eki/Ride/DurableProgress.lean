import Eki.Ride.BusLock
import Eki.Ride.CompletedOnce
import Eki.Ride.RideDocuments

/-!
# Durable progress

The engine, the projections of keyed starts and the delay mirror all write the
active ride of a session.  Each of them merges what is stored with what it
read, and so moves the ride forward; only a stored index that is not one of the
event's stops counts for nothing.
-/

namespace Eki

open Transition
open Option (all_some bind_eq_some_iff map_eq_some_iff)

variable {R : Type} [JsNumber R]

/-- The later document shows no less progress than the earlier one. -/
structure ActiveRide.Advances (before after : ActiveRide R) : Prop where
  currentStopIndex : before.currentStopIndex ≤ after.currentStopIndex
  lastRouteVersion : before.lastRouteVersion ≤ after.lastRouteVersion
  hasDepartedOrigin : before.hasDepartedOrigin = true →
    after.hasDepartedOrigin = true
  tripState : before.tripState = .inService → after.tripState = .inService
  delayUpdatedAt : before.delayUpdatedAt ≤ after.delayUpdatedAt

namespace ActiveRide.Advances

omit [JsNumber R]

theorem refl (ride : ActiveRide R) : ride.Advances ride :=
  { currentStopIndex := Int.le_refl _
    lastRouteVersion := Nat.le_refl _
    hasDepartedOrigin := id
    tripState := id
    delayUpdatedAt := Nat.le_refl _ }

theorem trans {first second third : ActiveRide R}
    (front : first.Advances second) (back : second.Advances third) :
    first.Advances third :=
  { currentStopIndex :=
      Int.le_trans front.currentStopIndex back.currentStopIndex
    lastRouteVersion :=
      Nat.le_trans front.lastRouteVersion back.lastRouteVersion
    hasDepartedOrigin := back.hasDepartedOrigin ∘ front.hasDepartedOrigin
    tripState := back.tripState ∘ front.tripState
    delayUpdatedAt := Nat.le_trans front.delayUpdatedAt back.delayUpdatedAt }

end ActiveRide.Advances

namespace Delay

theorem newer_cases (delay other : Delay) :
    delay.newer other = delay ∨ delay.newer other = other := by
  unfold newer
  split
  · exact .inr rfl
  · exact .inl rfl

theorem le_newer_left (delay other : Delay) :
    delay.delayUpdatedAt ≤ (delay.newer other).delayUpdatedAt := by
  unfold newer
  split
  · rename_i later
    exact Nat.le_of_lt later
  · exact Nat.le_refl _

theorem le_newer_right (delay other : Delay) :
    other.delayUpdatedAt ≤ (delay.newer other).delayUpdatedAt := by
  unfold newer
  split
  · exact Nat.le_refl _
  · rename_i earlier
    exact Nat.le_of_not_lt earlier

theorem newer_of {announced : Delay → Prop} {delay other : Delay}
    (left : announced delay) (right : announced other) :
    announced (delay.newer other) := by
  rcases newer_cases delay other with same | same <;> rw [same]
  · exact left
  · exact right

end Delay

section Writers

omit [JsNumber R] in
theorem le_durableIndex {stops : List (TripRouteStop R)}
    {durable : ActiveRide R}
    (stop : durable.currentStopIndex < stops.length) :
    durable.currentStopIndex ≤ durableIndex stops durable := by
  unfold durableIndex
  split
  · exact Int.le_refl _
  · omega

omit [JsNumber R] in
theorem durableIndex_nonneg (stops : List (TripRouteStop R))
    (durable : ActiveRide R) : 0 ≤ durableIndex stops durable := by
  unfold durableIndex
  split
  · rename_i inside
    exact inside.1
  · exact Int.le_refl _

variable {ride : ActiveRide R}

theorem EngineUpdate.checkpoint_own (update : EngineUpdate R)
    (own : update.data.sessionId = some ride.sessionId) :
    update.checkpoint (some ride) =
      { tripState :=
          if ride.tripState == .inService then .inService
          else update.progress.tripState
        currentStopIndex :=
          max update.progress.currentStopIndex
            (durableIndex update.event.stops ride)
        hasDepartedOrigin :=
          update.progress.hasDepartedOrigin || ride.hasDepartedOrigin
        terminalArrival :=
          match ride.terminalArrival, update.event.sample.timestamp with
          | some evidence, some timestamp =>
            if evidence.lastSampledAt > timestamp then some evidence
            else update.progress.terminalArrival
          | _, _ => update.progress.terminalArrival
        lastRouteVersion :=
          max update.data.routeVersion ride.lastRouteVersion } := by
  unfold checkpoint
  rewrite [own, Option.filter_some, beq_self_eq_true]
  rfl

/-- An index counts where it is one of the event's stops, or no higher than
what the update brings. -/
def EngineUpdate.countsIndex (update : EngineUpdate R)
    (ride : ActiveRide R) : Bool :=
  decide (ride.currentStopIndex < update.event.stops.length) ||
    decide (ride.currentStopIndex ≤ max update.progress.currentStopIndex 0)

theorem EngineUpdate.document_advances {update : EngineUpdate R}
    {driverId : String} (own : update.data.sessionId = some ride.sessionId)
    (counts : update.countsIndex ride = true) :
    ride.Advances
      (update.document ride.sessionId driverId (some ride)) := by
  have checkpoint := update.checkpoint_own own
  have index : ride.currentStopIndex ≤
      max update.progress.currentStopIndex
        (durableIndex update.event.stops ride) := by
    have bound := durableIndex_nonneg update.event.stops ride
    rcases Bool.or_eq_true_iff.mp counts with stop | low
    · have := le_durableIndex (of_decide_eq_true stop)
      omega
    · have := of_decide_eq_true low
      omega
  constructor
  · simpa only [document, checkpoint] using index
  · simp [document, checkpoint]
  · intro departed
    simp [document, checkpoint, departed]
  · intro service
    simp [document, checkpoint, service]
  · exact Delay.le_newer_right _ _

omit [JsNumber R] in
theorem RideProjection.overRide_advances (part : RideProjection)
    (projection : Projection) (ride : ActiveRide R) (live : LiveBus R) :
    ride.Advances
      (projection.mergeRide (part.overRide (some ride) live) (some ride)) := by
  constructor
  · exact Int.le_max_right _ _
  · exact Nat.le_refl _
  · intro departed
    simp [Projection.mergeRide, overRide, departed]
  · intro service
    simp [Projection.mergeRide, overRide, service]
  · exact Nat.le_trans (Delay.le_newer_right _ _) (Delay.le_newer_left _ _)

end Writers

def Projection.Announced (announced : Delay → Prop)
    (projection : Projection) : Prop :=
  ∀ part, projection.ride = some part → announced part.toDelay

/-- A start with a key only takes steps that read the ride they write, and
carries announced delays. -/
def StartStep.Careful (announced : Delay → Prop) : StartStep R → Prop
  | .mergeSession _ _ | .mergeRide _ _ | .commitBatch _ => False
  | .resumeLock current _ => announced current.toDelay
  | .claimLive _ _ lifecycle => announced lifecycle.toDelay
  | .readProjectionLive projection => projection.Announced announced
  | .commitProjections projection _ live =>
    projection.Announced announced ∧
      ∀ found, live = some found → announced found.toDelay
  | _ => True

def Process.Careful (announced : Delay → Prop) : Process R → Prop
  | .start process =>
    process.request.idempotencyKey.isSome = true ∧
      process.step.Careful announced
  | .delay { step := .persist _ mirrored, .. } => announced mirrored
  | .engine (.persist update) => announced update.data.toDelay
  | .restore { step := .publish (.ride ride), .. } => announced ride.toDelay
  | _ => True

structure Store.Careful (announced : Delay → Prop) (store : Store R) :
    Prop where
  rides : ∀ rideKey ride, store.activeRides rideKey = some ride →
    announced ride.toDelay
  nodes : ∀ nodeKey live, store.live nodeKey = some live →
    announced live.toDelay

section Steps

variable {announced : Delay → Prop} {store : Store R}

variable {lifecycle : ClaimedLifecycle}

omit [JsNumber R] in
theorem announced_of_claimedLifecycle {request : StartRequest}
    {current : Option (LiveBus R)} {claim : LockClaim}
    (careful : store.Careful announced) (zero : announced .zero)
    (found : claimedLifecycle request current claim store = some lifecycle) :
    announced lifecycle.toDelay := by
  unfold claimedLifecycle at found
  split at found
  · split at found
    · cases found
    · rename_i recovery stored
      split at found
      · cases found
      · cases found
        exact careful.rides _ recovery stored
  · cases found
    exact zero

omit [JsNumber R] in
theorem announced_of_resumeProjection (request : StartRequest)
    {current : LiveBus R} (sessionId : String)
    (carried : announced current.toDelay) :
    (resumeProjection request current sessionId).Announced announced := by
  intro part projected
  obtain ⟨direction, -, rfl⟩ := map_eq_some_iff.mp projected
  exact carried

theorem announced_of_claimProjection (request : StartRequest)
    (claim : LockClaim) (carried : announced lifecycle.toDelay) :
    (claimProjection request claim lifecycle).Announced announced := by
  intro part projected
  obtain ⟨direction, -, rfl⟩ := map_eq_some_iff.mp projected
  exact carried

variable {config : RideConfig R} {ambient : Ambient}

omit [JsNumber R] in
theorem StartProcess.careful_advance {process : StartProcess R}
    (careful : store.Careful announced) (zero : announced .zero)
    (carries : (Process.start process).Careful announced) :
    (process.advance config ambient store).GoesOn fun _ rest =>
      (Process.start rest).Careful announced := by
  obtain ⟨request, step⟩ := process
  obtain ⟨keyed, carries⟩ := carries
  have keyBound : (request.keyRef config).isSome = true := by
    simpa [StartRequest.keyRef] using keyed
  cases step with
  | authorize | readPinned =>
    simp only [advance]
    split
    · simp [Process.Careful, StartStep.Careful, keyed]
    · simp
  | lookupKey =>
    simp only [advance]
    split
    · simp [Process.Careful, StartStep.Careful, keyed]
    · split
      · simp
      · simp [Process.Careful, StartStep.Careful, keyed]
  | readLive pinned =>
    simp only [advance]
    split
    · simp
    · rename_i step found
      refine (goesOn_goOn _ _ _ _).mpr ⟨keyed, ?_⟩
      rcases afterLiveRead_eq_some found with
        ⟨live, sessionId, present, -, -, rfl⟩ | rfl
      · exact careful.nodes _ live present
      · trivial
  | resumeLock current sessionId =>
    simp only [advance]
    split
    · simp
    · rw [if_pos keyBound]
      exact (goesOn_goOn _ _ _ _).mpr
        ⟨keyed, announced_of_resumeProjection request sessionId carries⟩
  | mergeSession | mergeRide | commitBatch => exact carries.elim
  | readRoute pinned current =>
    simp only [advance]
    split
    · simp
    · split
      · simp
      · simp [Process.Careful, StartStep.Careful, keyed]
  | claimLock pinned current route direction =>
    simp only [advance]
    split
    · simp
    · rintro rest ⟨⟩
      exact ⟨keyed, trivial⟩
  | readRecovery current claim =>
    simp only [advance]
    split
    · simp
    · rename_i found
      exact (goesOn_goOn _ _ _ _).mpr
        ⟨keyed, announced_of_claimedLifecycle careful zero found⟩
  | claimLive current claim lifecycle =>
    simp only [advance]
    split
    · rw [if_pos keyBound]
      exact (goesOn_goOn _ _ _ _).mpr
        ⟨keyed, announced_of_claimProjection request claim carries⟩
    · split
      · simp [Process.Careful, StartStep.Careful, keyed]
      · simp
  | failCreation | completeSetup => simp [advance]
  | readProjectionLive projection =>
    simp only [advance]
    split
    · simp
    · exact (goesOn_goOn _ _ _ _).mpr ⟨keyed, carries, careful.nodes _⟩
  | commitProjections projection nodeKey live =>
    simp only [advance]
    split
    · simp
    · simp [Process.Careful, StartStep.Careful, keyed]

theorem EngineStep.careful_advance (config : RideConfig R)
    (ambient : Ambient) (step : EngineStep R)
    (careful : store.Careful announced) :
    (step.advance config ambient store).GoesOn fun _ rest =>
      (Process.engine rest).Careful announced := by
  apply EngineStep.goesOn_advance
  · intro event data update _ present reduced
    have carried := careful.nodes event.nodeKey data present
    rw [← (processLiveSnapshot_eq_some reduced).sameData] at carried
    exact ⟨fun _ => trivial, carried⟩
  all_goals
    intros
    trivial

variable {process : Process R}

theorem Process.careful_advance (careful : store.Careful announced)
    (zero : announced .zero) (now : ∀ delay, .delayAnnounced delay ∈
      (process.advance config ambient store).events → announced delay)
    (carries : process.Careful announced) :
    (process.advance config ambient store).GoesOn fun _ rest =>
      rest.Careful announced := by
  cases process with
  | start process =>
    exact Outcome.goesOn_map
      (StartProcess.careful_advance careful zero carries)
  | engine step =>
    exact Outcome.goesOn_map (step.careful_advance config ambient careful)
  | delay process =>
    apply Outcome.goesOn_map
    obtain ⟨request, step⟩ := process
    cases step with
    | announce =>
      simp only [advance, DelayProcess.advance, Outcome.map] at now ⊢
      split
      · simp
      · rename_i current present
        split
        · simp
        · rename_i sessionId delay done
          refine (Outcome.goesOn_some _ _ _ _).mpr ?_
          exact now delay (by simp [present, done])
    | persist => simp [DelayProcess.advance]
  | restore process =>
    apply Outcome.goesOn_map
    obtain ⟨request, step⟩ := process
    cases step with
    | read =>
      intro rest continues
      obtain ⟨lifecycle, found, rfl⟩ :=
        map_eq_some_iff.mp continues
      cases lifecycle with
      | ride ride =>
        exact careful.rides _ ride (stored_of_readLifecycle found)
      | terminal journey => trivial
    | publish lifecycle =>
      simp only [RestoreProcess.advance]
      split <;> simp
  | stop | turnaround | reconcile =>
    apply Outcome.goesOn_map
    intro rest _
    trivial

theorem announced_of_rideWrite {next : Firestore R} {rideKey : String}
    {ride : ActiveRide R}
    (write : Process.RideWrite store next process rideKey (some ride))
    (careful : store.Careful announced) (zero : announced .zero)
    (carries : process.Careful announced) : announced ride.toDelay := by
  cases write with
  | mergeRide | commitBatch => exact carries.2.elim
  | @commitProjections request projection part nodeKey live projected =>
    obtain ⟨-, planned, read⟩ := carries
    have own := planned part projected
    have shown := read live rfl
    cases held : store.activeRides projection.assignment.rideId with
    | none => exact Delay.newer_of own shown
    | some stored =>
      exact Delay.newer_of
        (Delay.newer_of own (careful.rides _ stored held)) shown
  | persistDelay => exact carries
  | @persist update =>
    cases held : store.activeRides update.rideKey with
    | none => exact carries
    | some stored =>
      exact Delay.newer_of carries (careful.rides _ stored held)
  | createReturn => exact zero

variable {nodeKey : String} {after : Option (LiveBus R)} {live : LiveBus R}

theorem announced_of_liveWrite
    (write : Process.LiveWrite config ambient store process nodeKey after)
    (careful : store.Careful announced) (zero : announced .zero)
    (now : ∀ delay, .delayAnnounced delay ∈
      (process.advance config ambient store).events → announced delay)
    (carries : process.Careful announced) (found : after = some live) :
    announced live.toDelay := by
  cases write with
  | claimLive done =>
    cases found
    rw [(claimLive_eq_some done).2.2.1]
    exact carries.2
  | announce present done =>
    cases found
    apply now
    simp [Process.advance, DelayProcess.advance, Outcome.map, present, done]
  | reconcile => cases found
  | @claimReturn turnaround before claimed present done =>
    cases found
    unfold Turnaround.claim at done
    simp only at done
    split at done
    · cases done
    · cases done
      exact careful.nodes _ before present
  | @restore request lifecycle restored done =>
    cases found
    have before : announced ((store.live request.nodeKey).getD
        (.blank request.busId request.routeId)).toDelay := by
      cases node : store.live request.nodeKey with
      | none => exact zero
      | some live => exact careful.nodes _ live node
    cases lifecycle with
    | ride ride =>
      simp only [publishLifecycle] at done
      split at done
      · cases done
      · cases done
        simp only
        split
        · exact Delay.newer_of before carries
        · exact carries
    | terminal journey =>
      simp only [publishLifecycle] at done
      split at done
      · cases done
      · cases done
        exact before
  | retire | activate =>
    apply holds_of_map (careful.nodes _) found
    intro live shown
    split
    · first
      | exact shown
      | exact zero
    · first
      | exact zero
      | exact shown
  | completeSetup | publish | publishCompletion | retireCompleted | release =>
    apply holds_of_map (careful.nodes _) found
    intro live shown
    split <;> exact shown

omit [JsNumber R] in
theorem announced_of_operation {operation : Operation}
    (write : Operation.LiveWrite store operation nodeKey after)
    (careful : store.Careful announced) (zero : announced .zero)
    (found : after = some live) : announced live.toDelay := by
  cases write with
  | @telemetry request =>
    unfold persistTelemetry at found
    simp only at found
    split at found
    · exact careful.nodes _ live found
    · cases found
      cases node : store.live
          (activeRideId request.busId request.routeId) with
      | none => exact zero
      | some before => exact careful.nodes _ before node
  | sweepStale =>
    obtain ⟨before, present, swept⟩ := bind_eq_some_iff.mp found
    split at swept
    · cases swept
      exact careful.nodes _ before present
    · cases swept
  | retireAssignment | resolveDirection | resetDirection =>
    apply holds_of_map (careful.nodes _) found
    intro live shown
    split <;> exact shown

end Steps

def World.Announced (world : World R) (delay : Delay) : Prop :=
  delay = .zero ∨ .delayAnnounced delay ∈ world.history

/-- Stores and requests in flight show announced delays, and starts have
keys. -/
structure World.Careful (world : World R) : Prop where
  store : world.store.Careful world.Announced
  inFlight : ∀ pid process, world.processes pid = some process →
    process.Careful world.Announced

section Mono

variable {before after : Delay → Prop}

omit [JsNumber R]

theorem Store.Careful.mono {store : Store R}
    (careful : store.Careful before)
    (weaker : ∀ delay, before delay → after delay) :
    store.Careful after :=
  { rides := fun rideKey ride stored =>
      weaker _ (careful.rides rideKey ride stored)
    nodes := fun nodeKey live found =>
      weaker _ (careful.nodes nodeKey live found) }

theorem Process.Careful.mono {process : Process R}
    (careful : process.Careful before)
    (weaker : ∀ delay, before delay → after delay) :
    process.Careful after := by
  cases process with
  | start process =>
    obtain ⟨request, step⟩ := process
    obtain ⟨keyed, carries⟩ := careful
    refine ⟨keyed, ?_⟩
    cases step with
    | resumeLock | claimLive => exact weaker _ carries
    | readProjectionLive projection =>
      exact fun part projected => weaker _ (carries part projected)
    | commitProjections projection nodeKey live =>
      exact ⟨fun part projected => weaker _ (carries.1 part projected),
        fun found same => weaker _ (carries.2 found same)⟩
    | _ => exact carries
  | delay process =>
    obtain ⟨request, step⟩ := process
    cases step with
    | announce => trivial
    | persist => exact weaker _ careful
  | engine step =>
    cases step with
    | persist => exact weaker _ careful
    | _ => trivial
  | restore process =>
    obtain ⟨request, step⟩ := process
    cases step with
    | read => trivial
    | publish lifecycle =>
      cases lifecycle with
      | ride => exact weaker _ careful
      | terminal => trivial
  | _ => trivial

end Mono

omit [JsNumber R] in
theorem World.Careful.empty : (World.empty : World R).Careful := by
  refine ⟨⟨?_, ?_⟩, ?_⟩
  · intro rideKey ride stored
    cases stored
  · intro nodeKey live found
    cases found
  · intro pid process inFlight
    cases inFlight

variable {announced : Delay → Prop}

omit [JsNumber R] in
theorem Request.begin_careful {request : Request R}
    (keyed : request.keyed = true) : request.begin.Careful announced := by
  cases request with
  | start request => exact ⟨keyed, trivial⟩
  | _ => trivial

theorem World.Careful.step {config : RideConfig R} {world next : World R}
    {label : Label R} (careful : world.Careful)
    (keyed : label.keyedStarts = true)
    (took : World.Took config world label next) : next.Careful := by
  have weaker : ∀ delay, world.Announced delay → next.Announced delay := by
    rintro delay (zero | announced)
    · exact .inl zero
    · right
      cases took with
      | accept | crash => exact announced
      | run | perform => exact List.mem_append_right _ announced
  have zero : next.Announced .zero := .inl rfl
  have store := careful.store.mono weaker
  have carries : ∀ pid process, world.processes pid = some process →
      process.Careful next.Announced :=
    fun pid process inFlight =>
      (careful.inFlight pid process inFlight).mono weaker
  have now : ∀ pid ambient process, label = .run pid ambient →
      world.processes pid = some process → ∀ delay, .delayAnnounced delay ∈
        (process.advance config ambient world.store).events →
      next.Announced delay := by
    rintro pid ambient process rfl inFlight delay recorded
    cases took with
    | run found =>
      rw [inFlight] at found
      cases found
      exact .inr (List.mem_append_left _ recorded)
  refine ⟨⟨?_, ?_⟩, ?_⟩
  · intro rideKey ride stored
    cases took with
    | accept | crash => exact store.rides rideKey ride stored
    | @run pid ambient process inFlight =>
      have step := Process.rides_of_writes
        (process.writes_advance config ambient world.store)
      rcases step.cases stored with earlier | write
      · exact store.rides rideKey ride earlier
      · exact announced_of_rideWrite write store zero
          (carries pid process inFlight)
    | @perform operation =>
      have same := (records_of_operation
        (operation.writes_perform world.store)).1
      rw [same] at stored
      exact store.rides rideKey ride stored
  · apply World.nodes_of_took (fun _ live => next.Announced live.toDelay)
      took store.nodes
    · intro pid ambient process nodeKey live ran inFlight write
      exact announced_of_liveWrite write store zero
        (now pid ambient process ran inFlight) (carries pid process inFlight)
        rfl
    · intro operation nodeKey live _ write
      exact announced_of_operation write store zero rfl
  · apply World.inFlight_of_took (fun _ process =>
      process.Careful next.Announced) took carries
    · exact fun _ => id
    · rintro pid request rfl
      exact request.begin_careful keyed
    · intro pid ambient process ran inFlight
      exact Process.careful_advance store zero
        (now pid ambient process ran inFlight) (carries pid process inFlight)

/-- The step makes no progress durable for an ended session or over the document
of another open one, and what its own document shows counts. -/
def Process.extendsProgress (store : Store R) : Process R → Bool
  | .engine (.persist update) =>
    (update.owner store.toFirestore).all fun sessionId =>
      !store.hasEnded sessionId &&
        (store.activeRides update.rideKey).all fun ride =>
          if ride.sessionId = sessionId then update.countsIndex ride
          else store.hasEnded ride.sessionId
  | .turnaround (.create armed) =>
    (store.locks armed.assignment.busId).isSome ||
      (store.activeRides armed.assignment.rideId).all fun ride =>
        store.hasEnded ride.sessionId
  | _ => true

section Extends

variable {announced : Delay → Prop} {store : Store R} {next : Firestore R}
  {process : Process R} {rideKey : String}

omit [JsNumber R] in
theorem extendsProgress_persist {update : EngineUpdate R}
    {sessionId : String}
    (extending : (Process.engine (.persist update)).extendsProgress store =
      true)
    (owner : update.owner store.toFirestore = some sessionId) :
    store.hasEnded sessionId = false ∧
      ∀ ride, store.activeRides update.rideKey = some ride →
        (ride.sessionId = sessionId → update.countsIndex ride = true) ∧
        (ride.sessionId ≠ sessionId →
          store.hasEnded ride.sessionId = true) := by
  simp only [Process.extendsProgress, owner, all_some,
    Bool.and_eq_true, Bool.not_eq_true'] at extending
  refine ⟨extending.1, ?_⟩
  intro ride held
  have counts := extending.2
  rw [held, all_some] at counts
  constructor
  · intro own
    rwa [if_pos own] at counts
  · intro other
    rwa [if_neg other] at counts

omit [JsNumber R] in
theorem extendsProgress_create {turnaround : Turnaround} {left : Store R}
    {journey : TerminalJourney} {completed : RideSession}
    (extending : (Process.turnaround (.create turnaround)).extendsProgress
      store = true)
    (created : CreatedReturn turnaround store left journey completed)
    {ride : ActiveRide R}
    (held : store.activeRides turnaround.assignment.rideId = some ride) :
    store.hasEnded ride.sessionId = true := by
  simpa [Process.extendsProgress, created.free, held] using extending

variable {after before : ActiveRide R}

theorem advances_of_write
    (write : Process.RideWrite store next process rideKey (some after))
    (careful : process.Careful announced)
    (extending : process.extendsProgress store = true)
    (held : store.activeRides rideKey = some before)
    (same : before.sessionId = after.sessionId) : before.Advances after := by
  cases write with
  | mergeRide | commitBatch => exact careful.2.elim
  | @commitProjections request projection part nodeKey live =>
    rw [held]
    exact part.overRide_advances projection before live
  | persistDelay stored newer =>
    rw [held] at stored
    cases stored
    exact
      { ActiveRide.Advances.refl before with
        delayUpdatedAt := newer }
  | @persist update sessionId driverId carried locked =>
    have own : before.sessionId = sessionId := same
    subst own
    obtain ⟨-, counts⟩ := extendsProgress_persist extending
      (update.owner_eq_some carried locked)
    rw [held]
    exact EngineUpdate.document_advances carried ((counts before held).1 rfl)
  | @createReturn turnaround left journey completed created =>
    have ended := extendsProgress_create extending created held
    rw [same] at ended
    simp [Firestore.hasEnded, created.fresh] at ended

theorem ended_of_write {after : Option (ActiveRide R)}
    (write : Process.RideWrite store next process rideKey after)
    (careful : process.Careful announced)
    (extending : process.extendsProgress store = true)
    (held : store.activeRides rideKey = some before)
    (lost : ∀ ride, after = some ride → ride.sessionId ≠ before.sessionId) :
    store.hasEnded before.sessionId = true ∨
      next.hasEnded before.sessionId = true := by
  cases write with
  | mergeRide | commitBatch => exact careful.2.elim
  | @commitProjections request projection part nodeKey live projected running
      own =>
      refine absurd ?_ (lost _ rfl)
      rw [own before held, held]
      rfl
  | delete stored ended =>
    rw [held] at stored
    cases stored
    exact .inr ended
  | persistDelay stored =>
    rw [held] at stored
    cases stored
    exact (lost _ rfl rfl).elim
  | @persist update sessionId driverId carried locked =>
    obtain ⟨-, counts⟩ := extendsProgress_persist extending
      (update.owner_eq_some carried locked)
    exact .inl ((counts before held).2 (Ne.symm (lost _ rfl)))
  | createReturn created =>
    exact .inl (extendsProgress_create extending created held)

theorem not_write_of_ended
    (write : Process.RideWrite store next process rideKey (some after))
    (careful : process.Careful announced)
    (extending : process.extendsProgress store = true)
    (ended : store.hasEnded after.sessionId = true) :
    ∃ before, store.activeRides rideKey = some before ∧
      before.sessionId = after.sessionId := by
  cases write with
  | mergeRide | commitBatch => exact careful.2.elim
  | @commitProjections request projection part nodeKey live projected
      running =>
      have named : (projection.mergeRide
          (part.overRide (store.activeRides projection.assignment.rideId) live)
          (store.activeRides projection.assignment.rideId)).sessionId =
            projection.sessionId := by
        cases store.activeRides projection.assignment.rideId <;> rfl
      rw [named, running] at ended
      cases ended
  | @persistDelay request delay ride held => exact ⟨ride, held, rfl⟩
  | @persist update sessionId driverId carried locked =>
    obtain ⟨running, -⟩ := extendsProgress_persist extending
      (update.owner_eq_some carried locked)
    have already : store.hasEnded sessionId = true := ended
    rw [running] at already
    cases already
  | createReturn created =>
    simp [Firestore.hasEnded, created.fresh] at ended

end Extends

/-- The session has gone past its departure: it is active or has ended. -/
def SessionStatus.underway : SessionStatus → Bool
  | .active | .completed | .interrupted | .failed => true
  | .pending | .armed => false

def Firestore.isUnderway (firestore : Firestore R) (sessionId : String) :
    Bool :=
  (firestore.statusOf sessionId).any SessionStatus.underway

section Underway

variable {before after : Firestore R} {sessionId : String}

omit [JsNumber R]

theorem isUnderway_of_update {written : String}
    {session : Option RideSession}
    (sessions : after.sessions =
      Function.update before.sessions written session)
    (keeps : before.isUnderway written = true →
      (session.map RideSession.status).any SessionStatus.underway = true)
    (underway : before.isUnderway sessionId = true) :
    after.isUnderway sessionId = true := by
  by_cases own : sessionId = written
  · subst own
    simpa [Firestore.isUnderway, Firestore.statusOf, sessions] using
      keeps underway
  · rw [Firestore.isUnderway, statusOf_of_sessions sessions own]
    exact underway

theorem isUnderway_of_stored {session : RideSession}
    (stored : before.sessions sessionId = some session)
    (underway : before.isUnderway sessionId = true) :
    session.status.underway = true := by
  simpa [Firestore.isUnderway, Firestore.statusOf, stored] using underway

theorem isUnderway_of_fresh (fresh : before.sessions sessionId = none) :
    before.isUnderway sessionId = false := by
  simp [Firestore.isUnderway, Firestore.statusOf, fresh]

end Underway

theorem underway_of_overSession (projection : Projection)
    {stored : RideSession} (running : stored.status.terminal = false)
    (underway : stored.status.underway = true) :
    (projection.overSession stored).status = .active := by
  cases status : stored.status <;>
    simp_all [Projection.overSession, SessionStatus.underway,
      SessionStatus.terminal]

variable {sessionId : String}

variable {config : RideConfig R}

theorem isUnderway_of_writes {ambient : Ambient} {store : Store R}
    {process : Process R} {next : Firestore R}
    (writes : Process.Writes config ambient store process next)
    (careful : process.Careful announced)
    (underway : store.isUnderway sessionId = true) :
    next.isUnderway sessionId = true := by
  cases writes with
  | nothing => exact underway
  | mergeSession | mergeRide | commitBatch => exact careful.2.elim
  | claimLock done =>
    rcases claimLock_eq_some done with ⟨held, session, reused⟩ | created
    · refine isUnderway_of_update reused.sessions ?_ underway
      intro known
      have kept := isUnderway_of_stored reused.stored known
      exact kept
    · refine isUnderway_of_update (by rw [created.next]) ?_ underway
      intro known
      rw [isUnderway_of_fresh created.fresh] at known
      cases known
  | resumeLock done =>
    obtain ⟨-, -, -, same⟩ := resumeLock_eq_some done
    rw [same]
    exact underway
  | @failCreation request failed =>
    refine isUnderway_of_update rfl ?_ underway
    intro known
    obtain ⟨status, stored, -⟩ := (Option.any_eq_true _ _).mp known
    obtain ⟨session, found, -⟩ := map_eq_some_iff.mp stored
    rw [found]
    rfl
  | @commitProjections request projection nodeKey live next done =>
    obtain ⟨stored, live, known, -, running, -, -, -, -, same⟩ :=
      commitCreationProjections_eq_some done
    refine isUnderway_of_update (by rw [same]) ?_ underway
    intro own
    have active := underway_of_overSession projection running
      (isUnderway_of_stored known own)
    simp [Projection.mergeSession, active, SessionStatus.underway]
  | stop done =>
    obtain ⟨current, stored, -, -, -, same⟩ := stopSession_eq_some done
    exact isUnderway_of_update (by rw [same]) (fun _ => rfl) underway
  | persistDelay =>
    rw [persistDelay_frame]
    exact underway
  | @reconcile reconciled busId routeId =>
    rcases reconcileSession_cases reconciled busId routeId ambient.observed
      store with same | ⟨session, stored, -, same⟩
    · rw [same]
      exact underway
    · exact isUnderway_of_update (by rw [same]) (fun _ => rfl) underway
  | @persist update =>
    rcases persistActiveRideLifecycle_cases update store with
      same | ⟨carried, driverId, -, -, -, same⟩
    · rw [same]
      exact underway
    · rw [same]
      cases stored : store.sessions carried with
      | none => exact underway
      | some session =>
        simp only
        split
        · exact isUnderway_of_update rfl (fun _ => rfl) underway
        · exact underway
  | @complete update next completion done =>
    rcases completeSession_eq_some done with
      ⟨absent, rfl⟩ | ⟨completed, carried, ⟨-, -, rfl⟩ | ⟨running, -, -, rfl⟩⟩
    · rw [recordCompletion_sessionless absent]
      exact underway
    · exact underway
    · obtain ⟨session, stored, -⟩ := Firestore.isOpen_iff.mp running
      refine isUnderway_of_update
        (congrArg (fun store => store.sessions)
          (recordCompletion_session carried completion store)) ?_ underway
      rw [stored]
      exact fun _ => rfl
  | createReturn done =>
    obtain ⟨journey, completed, created⟩ := create_eq_some done
    refine isUnderway_of_update created.sessions ?_ underway
    intro known
    rw [isUnderway_of_fresh created.fresh] at known
    cases known

/-- The progress of a session's document since an earlier state: the document
has advanced, or it is gone for good with its ended session. -/
def World.Progressed (world : World R) (rideKey : String)
    (before : ActiveRide R) : Prop :=
  (∃ ride, world.store.activeRides rideKey = some ride ∧
      before.sessionId = ride.sessionId ∧ before.Advances ride) ∨
    (world.store.hasEnded before.sessionId = true ∧
      ∀ ride, world.store.activeRides rideKey = some ride →
        ride.sessionId ≠ before.sessionId)

/-- Every accepted start has a key, and every step extends the progress that is
stored. -/
def World.keepsProgress (world : World R) (label : Label R) : Bool :=
  label.keyedStarts &&
    (world.running label).all fun process =>
      process.extendsProgress world.store

section Runs

variable {config : RideConfig R} {world next : World R} {label : Label R}

theorem World.Careful.ended (careful : world.Careful)
    (took : World.Took config world label next)
    (ended : world.store.hasEnded sessionId = true) :
    next.store.hasEnded sessionId = true := by
  apply ended_of_took took ?_ ended
  simp only [World.projectsOpen]
  cases running : world.running label with
  | none => rfl
  | some process =>
    have plain : process.projects = none := by
      obtain ⟨pid, inFlight⟩ : ∃ pid, world.processes pid = some process := by
        cases label with
        | run pid ambient => exact ⟨pid, running⟩
        | _ => cases running
      have carries := careful.inFlight pid process inFlight
      unfold Process.projects
      split
      · exact carries.2.elim
      · exact carries.2.elim
      · rfl
    simp [plain]

theorem World.Careful.isUnderway (careful : world.Careful)
    (took : World.Took config world label next)
    (underway : world.store.isUnderway sessionId = true) :
    next.store.isUnderway sessionId = true := by
  cases took with
  | accept | crash => exact underway
  | @run pid ambient process inFlight =>
    exact isUnderway_of_writes
      (process.writes_advance config ambient world.store)
      (careful.inFlight pid process inFlight) underway
  | @perform operation =>
    unfold Firestore.isUnderway
    rw [statusOf_of_operation (operation.writes_perform world.store)]
    exact underway

theorem World.Progressed.step (careful : world.Careful)
    (allowed : world.keepsProgress label = true)
    (took : World.Took config world label next) {rideKey : String}
    {before : ActiveRide R} (progressed : world.Progressed rideKey before) :
    next.Progressed rideKey before := by
  cases took with
  | accept | crash => exact progressed
  | @perform operation =>
    have same := (records_of_operation
      (operation.writes_perform world.store)).1
    have status := statusOf_of_operation
      (operation.writes_perform world.store) before.sessionId
    simp only [World.Progressed, same] at progressed ⊢
    rcases progressed with extended | ⟨ended, gone⟩
    · exact .inl extended
    · exact .inr ⟨hasEnded_of_statusOf status ended, gone⟩
  | @run pid ambient process inFlight =>
    have took : World.Took config world (.run pid ambient) _ :=
      .run inFlight
    have carries := careful.inFlight pid process inFlight
    have extending : process.extendsProgress world.store = true := by
      have checked := (Bool.and_eq_true_iff.mp allowed).2
      rwa [show world.running (.run pid ambient) = some process
        from inFlight, all_some] at checked
    rcases Process.rides_of_writes
      (process.writes_advance config ambient world.store) with
        same | ⟨written, after, write, same⟩
    · rcases progressed with extended | ⟨ended, gone⟩
      · exact .inl (by simpa only [same] using extended)
      · refine .inr ⟨careful.ended took ended, ?_⟩
        simpa only [same] using gone
    · by_cases here : rideKey = written
      · subst here
        have found : (process.advance config ambient
            world.store).store.activeRides rideKey = after := by
          rw [same, Function.update_self]
        rcases progressed with ⟨ride, held, own, advances⟩ | ⟨ended, gone⟩
        · by_cases kept : ∃ later, after = some later ∧
              ride.sessionId = later.sessionId
          · obtain ⟨later, rfl, still⟩ := kept
            exact .inl ⟨later, found, own.trans still, advances.trans
              (advances_of_write write carries extending held still)⟩
          · have lost : ∀ later, after = some later →
                later.sessionId ≠ ride.sessionId := by
              rintro later rfl still
              exact kept ⟨later, rfl, still.symm⟩
            refine .inr ⟨?_, ?_⟩
            · rw [own]
              rcases ended_of_write write carries extending held lost with
                before | now
              · exact careful.ended took before
              · exact now
            · intro later stored
              rw [own]
              exact lost later (found.symm.trans stored)
        · refine .inr ⟨careful.ended took ended, ?_⟩
          rintro later stored own
          have named : after = some later := found.symm.trans stored
          subst named
          rw [← own] at ended
          obtain ⟨earlier, held, same⟩ :=
            not_write_of_ended write carries extending ended
          exact gone earlier held (same.trans own)
      · have kept : (process.advance config ambient
            world.store).store.activeRides rideKey =
              world.store.activeRides rideKey := by
          rw [same, Function.update_of_ne here]
        rcases progressed with extended | ⟨ended, gone⟩
        · exact .inl (by simpa only [kept] using extended)
        · refine .inr ⟨careful.ended took ended, ?_⟩
          simpa only [kept] using gone

end Runs

/-- What holds of durable progress between two states of a run. -/
structure ProgressKept (first last : World R) : Prop where
  rides : ∀ rideKey before after,
    first.store.activeRides rideKey = some before →
    last.store.activeRides rideKey = some after →
    before.sessionId = after.sessionId → before.Advances after
  sessions : ∀ sessionId,
    first.store.statusOf sessionId = some .active →
    last.store.statusOf sessionId ≠ some .armed ∧
      last.store.statusOf sessionId ≠ some .pending
  delays : ∀ rideKey ride, last.store.activeRides rideKey = some ride →
    last.Announced ride.toDelay

private theorem careful_of_steps {first last : World R}
    (steps : System.Steps (World.step config)
      (fun world label => world.keepsProgress label = true) first last)
    (careful : first.Careful) : last.Careful := by
  apply steps.invariant careful
  intro world label next careful allowed taken
  exact careful.step (Bool.and_eq_true_iff.mp allowed).1
    (World.took_of_step taken)

/-- **Durable progress never regresses** in a run of keyed and automatic starts
whose every step extends what is stored. -/
theorem durable_progress_is_kept (config : RideConfig R)
    {first last : World R}
    (reached : System.Steps (World.step config)
      (fun world label => world.keepsProgress label = true) .empty first)
    (steps : System.Steps (World.step config)
      (fun world label => world.keepsProgress label = true) first last) :
    ProgressKept first last := by
  have careful := careful_of_steps reached .empty
  have kept : last.Careful ∧
      (∀ rideKey before, first.store.activeRides rideKey = some before →
        last.Progressed rideKey before) ∧
      ∀ sessionId, first.store.isUnderway sessionId = true →
        last.store.isUnderway sessionId = true := by
    induction steps with
    | refl =>
      refine ⟨careful, ?_, fun _ => id⟩
      intro rideKey before held
      exact .inl ⟨before, held, rfl, .refl before⟩
    | step _ allowed taken induction =>
      obtain ⟨middle, progressed, underway⟩ := induction
      have took := World.took_of_step taken
      refine ⟨middle.step (Bool.and_eq_true_iff.mp allowed).1 took, ?_, ?_⟩
      · intro rideKey before held
        exact (progressed rideKey before held).step middle allowed took
      · intro sessionId earlier
        exact middle.isUnderway took (underway sessionId earlier)
  obtain ⟨lastCareful, progressed, underway⟩ := kept
  refine ⟨?_, ?_, lastCareful.store.rides⟩
  · intro rideKey before after held found same
    rcases progressed rideKey before held with
      ⟨ride, stored, -, advances⟩ | ⟨-, gone⟩
    · rw [found] at stored
      cases stored
      exact advances
    · exact absurd same.symm (gone after found)
  · intro sessionId active
    have still := underway sessionId
      (by simp [Firestore.isUnderway, active, SessionStatus.underway])
    constructor <;> intro back <;>
      simp [Firestore.isUnderway, back, SessionStatus.underway] at still

def DurableProgressIsKept (config : RideConfig R) : Prop :=
  ∀ first last : World R,
    System.Steps (World.step config)
      (fun _ label => label.keyedStarts = true) .empty first →
    System.Steps (World.step config)
      (fun _ label => label.keyedStarts = true) first last →
    ProgressKept first last

/-- A route with a stop on the way, and a ride that stands there. -/
def longStops : List (TripRouteStop ℚ) :=
  demoStops ++ [{ lat := 0, lng := 1 / 50 }]

def rideUnderWay : List (Label ℚ) :=
  keyedRide ++ [.accept 1 (demoFix longStops 1000)] ++ runSteps 1 3 firstRide

def retriedRide : List (Label ℚ) :=
  [.accept 1 (.delay
      { assignment := demoAssignment
        delayMinutes := 5
        expectedSessionId := none })] ++
    runSteps 1 2 { firstRide with now := 7000 } ++
    [.accept 0 (demoStart (some "key"))] ++ runSteps 0 8 firstRide ++
    [.accept 1 (demoFixAt longStops 0 .moving 500)] ++ runSteps 1 3 firstRide

/-- A fix for which the route's stops could not be loaded. -/
def fixWithoutStops : List (Label ℚ) :=
  [.accept 1 (demoFix [] 2000)] ++ runSteps 1 2 firstRide

def demoProgress (world : World ℚ) : Option (String × Int × Delay) :=
  (world.store.activeRides "a_r").map fun ride =>
    (ride.sessionId, ride.currentStopIndex, ride.toDelay)

theorem durable_progress_is_kept_retried :
    ∃ first last : World ℚ,
      demoProgress last =
        some (firstSession, 2,
          { delayMinutes := 5
            delayUpdatedAt := 7000 }) ∧
      ProgressKept first last := by
  have started :
      (System.run (World.step demoConfig) World.keepsProgress .empty
        rideUnderWay).isSome = true := by
    decide +kernel
  have retried :
      (System.run (World.step demoConfig) World.keepsProgress .empty
          (rideUnderWay ++ retriedRide)).bind demoProgress =
        some (firstSession, 2,
          { delayMinutes := 5
            delayUpdatedAt := 7000 }) := by
    decide +kernel
  obtain ⟨first, ran⟩ := Option.isSome_iff_exists.mp started
  rw [System.run_append, ran] at retried
  obtain ⟨last, ranOn, progress⟩ := bind_eq_some_iff.mp retried
  exact ⟨first, last, progress, durable_progress_is_kept demoConfig
    (System.steps_of_run ran fun _ _ => id)
    (System.steps_of_run ranOn fun _ _ => id)⟩

/-- A fix that comes without stops takes the stored index back to the
origin. -/
theorem durable_progress_is_lost : ¬ DurableProgressIsKept demoConfig := by
  intro kept
  have reached :
      (System.run (World.step demoConfig) (fun _ label => label.keyedStarts)
          .empty rideUnderWay).bind demoProgress =
        some (firstSession, 2, .zero) := by
    decide +kernel
  have lost :
      (System.run (World.step demoConfig) (fun _ label => label.keyedStarts)
          .empty (rideUnderWay ++ fixWithoutStops)).bind demoProgress =
        some (firstSession, 0, .zero) := by
    decide +kernel
  obtain ⟨first, ran, progress⟩ := bind_eq_some_iff.mp reached
  rw [System.run_append, ran] at lost
  obtain ⟨last, ranOn, later⟩ := bind_eq_some_iff.mp lost
  obtain ⟨before, held, shows⟩ := map_eq_some_iff.mp progress
  obtain ⟨after, found, shown⟩ := map_eq_some_iff.mp later
  simp only [Prod.mk.injEq] at shows shown
  have advances := (kept first last
    (System.steps_of_run ran fun _ _ => id)
    (System.steps_of_run ranOn fun _ _ => id)).rides "a_r" before after held
      found (shows.1.trans shown.1.symm)
  have regressed := advances.currentStopIndex
  rw [shows.2.1, shown.2.1] at regressed
  exact absurd regressed (by decide)

end Eki
