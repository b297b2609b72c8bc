import Eki.Ride.RepeatedCommits

/-!
# The history of a ride is append-only and complete

Runs of the engine's commits for one session, from the moment its ride begins:
events are lost, replayed and handed over, the node is rewritten, removed and
restored, and the route may be another one at every event.
-/

namespace Eki

open Transition

variable {R : Type} [JsNumber R]

namespace Journey

structure Begins (nodeKey sessionId busId : String) (journey : Journey R) :
    Prop where
  locked : ∀ bus, lockSession (journey.store.locks bus) = some sessionId →
    bus = busId ∧ journey.store.isOpen sessionId = true
  once : (journey.knownStops sessionId).Nodup
  rides : ∀ key ride, journey.store.activeRides key = some ride →
    ride.sessionId = sessionId →
    ride.tripState = .preDeparture ∧ ride.currentStopIndex = 0
  node : ∀ live, journey.node nodeKey = some live →
    live.sessionId = some sessionId →
    live.busId = busId ∧ live.driverId.isSome = true ∧
      live.tripState = some .preDeparture ∧ live.currentStopIndex = some 0
  queue : ∀ queued ∈ journey.queue, queued.event.old ∧
    ∀ data record, queued.snapshot = some (data, record) →
      data.sessionId ≠ some sessionId
  engine : ∀ step, journey.engine = some step →
    step.update.data.sessionId ≠ some sessionId
  restores : ∀ pid request lifecycle,
    journey.restores pid = some (request, lifecycle) →
    lifecycle.sessionId ≠ sessionId

theorem Begins.chronicles {nodeKey sessionId busId : String}
    {journey : Journey R} (begins : Begins nodeKey sessionId busId journey) :
    Chronicles nodeKey sessionId busId journey := by
  refine ⟨begins.locked, begins.once, ?_, ?_⟩
  · intro queued member
    exact (begins.queue queued member).1
  · intro held
    refine ⟨?_, ?_, ?_, ?_, ?_⟩
    · intro key ride stored mine
      obtain ⟨state, index⟩ := begins.rides key ride stored mine
      rw [state]
      exact ⟨index, by simp⟩
    · intro live present mine
      obtain ⟨bus, driven, state, index⟩ := begins.node live present mine
      refine ⟨bus, driven, ?_⟩
      unfold LiveBus.Vouched LiveBus.progress
      simp only [state, index, Option.getD_some]
      rfl
    · intro queued member data record taken mine
      exact absurd mine ((begins.queue queued member).2 data record taken)
    · intro step inFlight mine
      exact absurd mine (begins.engine step inFlight)
    · intro pid request lifecycle pending mine
      exact absurd mine (begins.restores pid request lifecycle pending)

end Journey

namespace Journey

section Runs

variable {config : RideConfig R} {nodeKey sessionId busId : String}
  {journey : Journey R}

variable {update : JourneyUpdate R} {next : Store R}
  {checkpoint : RideCheckpoint R}

variable {step : JourneyStep R} {tripState : TripState}
  {currentStopIndex : Int} {ambient : Ambient}

section

variable (chronicles : Chronicles nodeKey sessionId busId journey)

include chronicles

end

end Runs

end Journey

end Eki
