import Eki.Ride.RideChronicles

/-!
# Repeated commits

The engine may commit the same update twice: the answer of the first commit is
lost, or its event is replayed.  Merged into its own document an update leaves
it as it is, and a completed session is not completed again.  No step of the
engine takes an entry off a history or gives a session a lock.
-/

namespace Eki

open Transition

variable {R : Type} [JsNumber R]

section Repeats

variable {update : EngineUpdate R} {store next : Store R} {sessionId : String}

/-- What a merge of the update into its own checkpoint comes to. -/
structure Settled (update : EngineUpdate R) (checkpoint : RideCheckpoint R) :
    Prop where
  tripState : (if checkpoint.tripState == .inService then TripState.inService
    else update.progress.tripState) = checkpoint.tripState
  index : max update.progress.currentStopIndex
      (if 0 ≤ checkpoint.currentStopIndex ∧
          checkpoint.currentStopIndex < update.event.stops.length then
        checkpoint.currentStopIndex
      else 0) = checkpoint.currentStopIndex
  departed : (update.progress.hasDepartedOrigin ||
    checkpoint.hasDepartedOrigin) = checkpoint.hasDepartedOrigin
  arrival : checkpoint.terminalArrival = update.progress.terminalArrival ∨
    ∃ evidence timestamp, checkpoint.terminalArrival = some evidence ∧
      update.event.sample.timestamp = some timestamp ∧
      evidence.lastSampledAt > timestamp
  version : max update.data.routeVersion checkpoint.lastRouteVersion =
    checkpoint.lastRouteVersion

variable {driverId : String} {durable : Option (ActiveRide R)}

variable {config : RideConfig R} {now : Nat}

end Repeats

namespace Journey

section Growth

variable {config : RideConfig R} {nodeKey sessionId : String}
  {journey next : Journey R}

section

omit [JsNumber R]

@[simp] theorem published_store (journey : Journey R) (nodeKey : String) :
    (journey.published nodeKey).store = journey.store := by
  unfold published
  split
  · rfl
  · split <;> rfl

@[simp] theorem published_stopsReached (journey : Journey R)
    (nodeKey : String) :
    (journey.published nodeKey).stopsReached = journey.stopsReached := by
  unfold published
  split
  · rfl
  · split <;> rfl

theorem prefix_remember (journey : Journey R) (carrier : String)
    (entries : List (StopReached (TripRouteStop R))) :
    journey.stopsReached sessionId <+:
      (journey.remember carrier entries).stopsReached sessionId := by
  unfold remember
  by_cases same : sessionId = carrier
  · subst same
    simp only [Function.update_self]
    exact List.prefix_append _ _
  · simp only [Function.update_of_ne same]
    exact List.prefix_refl _

end

/-- What one step of the engine leaves of history and locks. -/
structure Extends (sessionId : String) (journey next : Journey R) : Prop where
  history : journey.stopsReached sessionId <+: next.stopsReached sessionId
  locks : ∀ bus, lockSession (next.store.locks bus) = some sessionId →
    lockSession (journey.store.locks bus) = some sessionId

omit [JsNumber R] in
theorem Extends.of_same (history : next.stopsReached = journey.stopsReached)
    (locks : next.store.locks = journey.store.locks) :
    Extends sessionId journey next := by
  refine ⟨history ▸ List.prefix_refl _, ?_⟩
  intro bus held
  rw [← locks]
  exact held

theorem extends_advance (config : RideConfig R) (nodeKey sessionId : String)
    (ambient : Ambient) (journey : Journey R) (step : JourneyStep R) :
    Extends sessionId journey
      (journey.advance nodeKey config ambient step) := by
  cases step with
  | persist update =>
    simp only [advance]
    unfold persist
    split
    · exact .of_same rfl rfl
    · rename_i store checkpoint written
      obtain ⟨carrier, persisted⟩ := persisted_of_eq written
      simp only [persisted.carried]
      refine ⟨prefix_remember _ _ _, ?_⟩
      intro bus held
      exact persisted.sameLocks ▸ held
  | publish update =>
    simp only [advance]
    unfold publish
    simp only
    split
    · exact .of_same rfl rfl
    · split
      · exact .of_same rfl rfl
      · apply Extends.of_same
        · rw [published_stopsReached]
          rfl
        · rw [published_store]
          rfl
  | complete update =>
    simp only [advance]
    unfold complete
    split
    · exact .of_same rfl rfl
    · rename_i store completion completed
      rcases completeSession_eq_some completed with
        ⟨carried, rfl⟩ | ⟨carrier, carried, outcome⟩
      · simp only [carried]
        refine ⟨List.prefix_refl _, ?_⟩
        intro bus held
        exact (lock_of_recordCompletion held).1
      · simp only [carried]
        refine ⟨prefix_remember _ _ _, ?_⟩
        intro bus held
        rcases outcome with ⟨-, -, rfl⟩ | ⟨-, -, -, rfl⟩
        · exact held
        · exact (lock_of_recordCompletion held).1
  | publishCompletion update completion =>
    simp only [advance]
    unfold publishCompletion
    simp only
    split
    · exact .of_same rfl rfl
    · split
      · exact .of_same rfl rfl
      · apply Extends.of_same
        · rw [published_stopsReached]
          rfl
        · rw [published_store]
          rfl

theorem extends_step {label : JourneyLabel R}
    (allowed : journey.OfEngine nodeKey sessionId label)
    (taken : Journey.step config nodeKey journey label = some next) :
    Extends sessionId journey next := by
  cases label with
  | enqueue | read | restore | rewrite =>
    simp only [Journey.step] at taken
    split at taken <;> cases taken
    exact .of_same rfl rfl
  | advance ambient =>
    obtain ⟨step, inFlight, rfl⟩ := Option.map_eq_some_iff.mp taken
    exact extends_advance config nodeKey sessionId ambient journey step
  | lose | handoff | remove =>
    cases taken
    exact .of_same rfl rfl
  | publishRestore pid =>
    obtain ⟨⟨request, lifecycle⟩, pending, same⟩ :=
      Option.map_eq_some_iff.mp taken
    simp only at same
    split at same <;> cases same
    · exact .of_same rfl rfl
    · apply Extends.of_same
      · rw [published_stopsReached]
        rfl
      · rw [published_store]
        rfl
  | document firestore =>
    cases taken
    refine ⟨List.prefix_refl _, ?_⟩
    intro bus held
    exact (allowed.locks bus held).1
  | claim live =>
    cases taken
    apply Extends.of_same
    · rw [published_stopsReached]
      rfl
    · rw [published_store]
      rfl

theorem extends_run
    (steps : System.Steps (Journey.step config nodeKey)
      (Journey.OfEngine nodeKey sessionId) journey next) :
    Extends sessionId journey next := by
  induction steps with
  | refl => exact .of_same rfl rfl
  | step before allowed taken induction =>
    have last := extends_step allowed taken
    refine ⟨induction.history.trans last.history, ?_⟩
    intro bus held
    exact induction.locks bus (last.locks bus held)

end Growth

end Journey

end Eki
