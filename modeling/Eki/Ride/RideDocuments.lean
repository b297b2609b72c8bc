import Eki.Ride.Steps

/-!
# Writes to active rides

A step of a request leaves every document of `active_rides` or writes one of
them.  The cases say what was found there and what the step puts in its place.
-/

namespace Eki

variable {R : Type} [JsNumber R]

inductive Process.RideWrite (store : Store R) (next : Firestore R) :
    Process R → String → Option (ActiveRide R) → Prop where
  | mergeRide {request : StartRequest} {projection : Projection}
      {part : RideProjection} {sessionToo : Bool}
      (projected : projection.ride = some part) :
      RideWrite store next
        (.start
          { request
            step := .mergeRide projection sessionToo })
        projection.assignment.rideId
        (some (projection.mergeRide part
          (store.activeRides projection.assignment.rideId)))
  | commitBatch {request : StartRequest} {projection : Projection}
      {part : RideProjection} (projected : projection.ride = some part) :
      RideWrite store next
        (.start
          { request
            step := .commitBatch projection })
        projection.assignment.rideId (some (projection.document part))
  | commitProjections {request : StartRequest} {projection : Projection}
      {part : RideProjection} {nodeKey : String} {live : LiveBus R}
      (projected : projection.ride = some part)
      (running : store.hasEnded projection.sessionId = false)
      (own : ∀ active,
        store.activeRides projection.assignment.rideId = some active →
        active.sessionId = projection.sessionId) :
      RideWrite store next
        (.start
          { request
            step := .commitProjections projection nodeKey (some live) })
        projection.assignment.rideId
        (some (projection.mergeRide
          (part.overRide (store.activeRides projection.assignment.rideId) live)
          (store.activeRides projection.assignment.rideId)))
  | delete {process : Process R} {rideKey : String} {ride : ActiveRide R}
      (held : store.activeRides rideKey = some ride)
      (ended : next.hasEnded ride.sessionId = true) :
      RideWrite store next process rideKey none
  | persistDelay {request : DelayRequest} {delay : Delay}
      {ride : ActiveRide R}
      (held : store.activeRides request.assignment.rideId = some ride)
      (newer : ride.delayUpdatedAt ≤ delay.delayUpdatedAt) :
      RideWrite store next
        (.delay
          { request
            step := .persist ride.sessionId delay })
        request.assignment.rideId (some { ride with toDelay := delay })
  | persist {update : EngineUpdate R} {sessionId driverId : String}
      (carried : update.data.sessionId = some sessionId)
      (locked : lockSession (store.locks update.data.busId) = some sessionId) :
      RideWrite store next (.engine (.persist update)) update.rideKey
        (some (update.document sessionId driverId
          (store.activeRides update.rideKey)))
  | createReturn {turnaround : Turnaround} {left : Store R}
      {journey : TerminalJourney} {completed : RideSession}
      (created : CreatedReturn turnaround store left journey completed)
      (same : next = left.toFirestore) :
      RideWrite store next (.turnaround (.create turnaround))
        turnaround.assignment.rideId
        (some
          { toServiceAssignment := turnaround.assignment
            toDelay := .zero
            sessionId := turnaround.sessionRef
            direction := oppositeRideDirection turnaround.previousDirection
            tripState := .preDeparture
            currentStopIndex := 0
            hasDepartedOrigin := false
            automaticTurnaround := true
            previousSessionId := some turnaround.previousSessionId })

/-- The documents are all left, or one of them is written. -/
def Process.RideStep (store : Store R) (process : Process R)
    (next : Firestore R) : Prop :=
  next.activeRides = store.activeRides ∨ ∃ rideKey after,
    Process.RideWrite store next process rideKey after ∧
      next.activeRides = Function.update store.activeRides rideKey after

variable {store : Store R} {next : Firestore R} {process : Process R}

private theorem rides_of_end {rideKey sessionId : String}
    (rides : next.activeRides =
      if (store.activeRides rideKey).map ActiveRide.sessionId ==
          some sessionId then
        Function.update store.activeRides rideKey none
      else store.activeRides) (ended : next.hasEnded sessionId = true) :
    process.RideStep store next := by
  split at rides
  · rename_i held
    obtain ⟨ride, found, rfl⟩ :=
      Option.map_eq_some_iff.mp (beq_iff_eq.mp held)
    exact .inr ⟨rideKey, none, .delete found ended, rides⟩
  · exact .inl rides

theorem Process.rides_of_writes {config : RideConfig R} {ambient : Ambient}
    (writes : Process.Writes config ambient store process next) :
    process.RideStep store next := by
  cases writes with
  | nothing | mergeSession | failCreation => exact .inl rfl
  | claimLock done =>
    rcases claimLock_eq_some done with ⟨held, session, reused⟩ | created
    · exact .inl reused.activeRides
    · exact .inl (by rw [created.next])
  | resumeLock done =>
    obtain ⟨-, -, -, same⟩ := resumeLock_eq_some done
    exact .inl (by rw [same])
  | @mergeRide request projection sessionToo =>
    cases projected : projection.ride with
    | none => exact .inl (by simp [Eki.mergeRide, projected])
    | some part =>
      refine .inr ⟨_, _, .mergeRide projected, ?_⟩
      simp [Eki.mergeRide, projected]
  | @commitBatch request projection =>
    cases projected : projection.ride with
    | none => exact .inl (by simp [Eki.commitBatch, projected])
    | some part =>
      refine .inr ⟨_, _, .commitBatch projected, ?_⟩
      simp [Eki.commitBatch, projected]
  | @commitProjections request projection nodeKey live next done =>
    obtain ⟨session, node, known, rfl, running, -, -, -, own, same⟩ :=
      commitCreationProjections_eq_some done
    cases projected : projection.ride with
    | none => exact .inl (by simp [same, projected])
    | some part =>
      refine .inr ⟨_, _, .commitProjections projected ?_
        (own part projected), by simp [same, projected]⟩
      rw [Firestore.hasEnded_of_stored known, running]
  | @stop request next pauses done =>
    obtain ⟨current, stored, -, -, -, same⟩ := stopSession_eq_some done
    apply rides_of_end (congrArg (fun store => store.activeRides) same)
    rw [same]
    simp [Firestore.hasEnded, SessionStatus.terminal]
  | @persistDelay request sessionId delay =>
    rcases persistDelay_cases request.assignment.rideId sessionId delay
      store with same | ⟨ride, held, rfl, newer, same⟩
    · exact .inl (by rw [same])
    · exact .inr ⟨_, _, .persistDelay held newer, by rw [same]⟩
  | @reconcile sessionId busId routeId =>
    rcases reconcileSession_cases sessionId busId routeId ambient.observed
      store with same | ⟨session, stored, -, same⟩
    · exact .inl (by rw [same])
    · apply rides_of_end (congrArg (fun store => store.activeRides) same)
      rw [same]
      simp [Firestore.hasEnded, SessionStatus.terminal]
  | @persist update =>
    rcases persistActiveRideLifecycle_cases update store with
      same | ⟨sessionId, driverId, carried, -, locked, same⟩
    · exact .inl (by rw [same])
    · exact .inr ⟨_, _, .persist carried locked, by rw [same]⟩
  | @complete update next completion done =>
    rcases completeSession_eq_some done with
      ⟨absent, rfl⟩ | ⟨completed, carried, ⟨-, -, rfl⟩ | ⟨running, -, -, rfl⟩⟩
    · exact .inl (by rw [recordCompletion_sessionless absent])
    · exact .inl rfl
    · have recorded := recordCompletion_session carried completion store
      apply rides_of_end
        (congrArg (fun store => store.activeRides) recorded)
      obtain ⟨session, stored, -⟩ := Firestore.isOpen_iff.mp running
      rw [recorded]
      simp [Firestore.hasEnded, stored, SessionStatus.terminal]
  | createReturn done =>
    obtain ⟨journey, completed, created⟩ := create_eq_some done
    exact .inr ⟨_, _, .createReturn created rfl, created.activeRides⟩

theorem Process.RideStep.cases (step : process.RideStep store next)
    {rideKey : String} {ride : ActiveRide R}
    (stored : next.activeRides rideKey = some ride) :
    store.activeRides rideKey = some ride ∨
      Process.RideWrite store next process rideKey (some ride) := by
  rcases step with same | ⟨written, after, write, same⟩
  · rw [same] at stored
    exact .inl stored
  · rw [same] at stored
    by_cases here : rideKey = written
    · subst here
      rw [Function.update_self] at stored
      subst stored
      exact .inr write
    · rw [Function.update_of_ne here] at stored
      exact .inl stored

/-- The session for which an engine update is made durable: its own, where that
holds the lock of the bus. -/
def EngineUpdate.owner (update : EngineUpdate R) (firestore : Firestore R) :
    Option String :=
  update.data.sessionId.filter fun sessionId =>
    lockSession (firestore.locks update.data.busId) == some sessionId

omit [JsNumber R] in
theorem EngineUpdate.owner_eq_some {update : EngineUpdate R}
    {firestore : Firestore R} {sessionId : String}
    (carried : update.data.sessionId = some sessionId)
    (locked : lockSession (firestore.locks update.data.busId) =
      some sessionId) :
    update.owner firestore = some sessionId := by
  simp [owner, carried, locked]

end Eki
