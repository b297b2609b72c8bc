import Mathlib.Data.List.Dedup
import Mathlib.Data.List.Sort
import Eki.Library.Transition
import Eki.Ride.Engine
import Eki.Ride.Return

/-!
# Stop history and live journey

A ride leaves its passed stops in two places: the history of its session, with
the evidence for each stop, and the live node, with the stops that were passed
without being observed.  The engine writes the history with the durable
lifecycle and the node after it, for one live event of the node at a time.
-/

namespace Eki

open Transition

variable {R : Type} [JsNumber R]

/-- How a session's history knows of a stop. -/
inductive StopEvidence where
  | skippedGnssGap
  | passedUnobserved
  | recoveredCheckpoint
  | gnssProgress
  deriving DecidableEq, Repr

/-- The stop was passed without being observed. -/
def StopEvidence.unobserved : StopEvidence → Bool
  | .skippedGnssGap => true
  | .passedUnobserved => true
  | .recoveredCheckpoint => false
  | .gnssProgress => false

/-- An entry of `stopsReached`. -/
structure StopReached (Stop : Type) where
  stopIndex : Nat
  stop : Stop
  evidence : StopEvidence

/-- The stops that a history marks as passed without observation. -/
def unobservedIn {Stop : Type} (history : List (StopReached Stop)) :
    List Nat :=
  (history.filter fun entry => entry.evidence.unobserved).map
    StopReached.stopIndex

section History

variable {Stop : Type}

def stopEvidence (previousStopIndex : Option Int)
    (skippedStopIndices unobservedStopIndices : List Nat) (index : Nat) :
    StopEvidence :=
  if skippedStopIndices.contains index then .skippedGnssGap
  else if unobservedStopIndices.contains index then .passedUnobserved
  else if previousStopIndex.any fun previous =>
      decide ((index : Int) < previous) then
    .recoveredCheckpoint
  else .gnssProgress

/-- The entries that a history lacks of the stops that were passed. -/
def missingStopHistory (stops : List Stop) (tripState : TripState)
    (currentStopIndex : Int) (existing : List (StopReached Stop))
    (previousStopIndex : Option Int)
    (skippedStopIndices unobservedStopIndices : List Nat) :
    List (StopReached Stop) :=
  if decide (currentStopIndex < 0) ||
      decide (currentStopIndex ≥ stops.length) ||
      tripState == .preDeparture then
    []
  else
    let lastReached :=
      if tripState == .completed then currentStopIndex.toNat
      else currentStopIndex.toNat - 1
    (List.range (lastReached + 1)).filterMap fun index =>
      if existing.any fun entry => entry.stopIndex == index then none
      else
        stops[index]?.map fun stop =>
          { stopIndex := index
            stop
            evidence :=
              stopEvidence previousStopIndex skippedStopIndices
                unobservedStopIndices index }

end History

structure UnobservedStops where
  sessionId : String
  indices : List Nat
  deriving DecidableEq

def mergedStopIndices (existing added : List Nat) (stopCount : Nat) :
    List Nat :=
  (((existing ++ added).dedup).filter fun index =>
    decide (index < stopCount)).insertionSort (· ≤ ·)

def recordedStops (record : Option UnobservedStops)
    (sessionId : Option String) : List Nat :=
  match record with
  | none => []
  | some stops =>
    if sessionId == some stops.sessionId then stops.indices else []

def liveUnobservedStops (record : Option UnobservedStops)
    (sessionId : Option String) (stopCount : Nat) : List Nat :=
  mergedStopIndices (recordedStops record sessionId) [] stopCount

/-- A reduced snapshot, with the stops it passed without observing them and
those that the node had before. -/
structure JourneyUpdate (R : Type) extends EngineUpdate R where
  skippedStopIndices : List Nat
  unobservedStopIndices : List Nat
  liveUnobserved : List Nat

namespace JourneyUpdate

variable (update : JourneyUpdate R)

/-- The stops that this event passed without observing them. -/
def passed : List Nat :=
  update.skippedStopIndices ++ update.unobservedStopIndices

def unobservedStops : List Nat :=
  (mergedStopIndices update.liveUnobserved update.passed
      update.event.stops.length).filter fun index =>
    decide ((index : Int) < update.progress.currentStopIndex)

/-- The live write has something to say; `otherwise` that the terminal
evidence, the GNSS gap or the stop of the bus differs. -/
def liveStateChanged (otherwise : Bool) : Bool :=
  some update.progress.tripState != update.data.tripState ||
    some update.progress.currentStopIndex != update.data.currentStopIndex ||
    update.progress.hasDepartedOrigin != update.data.hasDepartedOrigin ||
    update.unobservedStops != update.liveUnobserved || otherwise

/-- The guard of the live write. -/
def refused (live : LiveBus R) : Bool :=
  (update.data.sessionId.isSome && live.sessionId != update.data.sessionId) ||
    live.direction != some update.direction ||
    live.tripState == some .completed ||
    live.deviceState == .offline

end JourneyUpdate

def readJourney (config : RideConfig R) (event : EngineEvent R)
    (record : Option UnobservedStops) (data : LiveBus R) :
    Option (JourneyUpdate R) :=
  (processLiveSnapshot config event data).map fun update =>
    let reduced :=
      reduceTripState config.terminalArrivalConfirmationMs
        (event.sample.toInput event.stops data.progress)
    { toEngineUpdate := update
      skippedStopIndices :=
        if event.isNewTelemetry then reduced.skippedStopIndices.getD [] else []
      unobservedStopIndices :=
        if event.isNewTelemetry then reduced.unobservedStopIndices.getD []
        else []
      liveUnobserved :=
        liveUnobservedStops record data.sessionId event.stops.length }

/-- The event that the engine is working on. -/
inductive JourneyStep (R : Type) where
  | persist (update : JourneyUpdate R)
  | publish (update : JourneyUpdate R)
  | complete (update : JourneyUpdate R)
  | publishCompletion (update : JourneyUpdate R) (completion : Completion)

def JourneyUpdate.begin (update : JourneyUpdate R) : JourneyStep R :=
  if update.tripState == .completed then .complete update
  else if update.event.offlineReplay then .publish update
  else .persist update

/-- What passengers can see after a live write, with the stops that the
session's history marks as unobserved by then. -/
structure Publication where
  sessionId : String
  currentStopIndex : Int
  unobservedStops : List Nat
  passedUnobserved : List Nat

/-- An event in the queue of the node.  A live event brings the node as it was
when it changed; a replayed one reads the node when its turn comes. -/
structure QueuedEvent (R : Type) where
  event : EngineEvent R
  snapshot : Option (LiveBus R × Option UnobservedStops)

/-- The stores around one live node: the documents and the node, the histories
of the sessions, the queue of the node and the event that the engine is working
on, the restores in flight, and what has been published, which no step
reads. -/
structure Journey (R : Type) where
  store : Store R
  stopsReached : String → List (StopReached (TripRouteStop R))
  unobservedStops : Option UnobservedStops
  queue : List (QueuedEvent R)
  engine : Option (JourneyStep R)
  restores : Nat → Option (RestoreRequest × DurableLifecycle R)
  publications : List Publication

def Journey.empty : Journey R :=
  { store := .empty
    stopsReached := fun _ => []
    unobservedStops := none
    queue := []
    engine := none
    restores := fun _ => none
    publications := [] }

inductive JourneyLabel (R : Type) where
  | enqueue (event : EngineEvent R) (replayed : Bool)
  /-- The engine takes up the next event. -/
  | read
  | advance (ambient : Ambient)
  /-- A write fails and the event is given up. -/
  | lose
  /-- A crash, or a handoff to an engine with a queue of its own. -/
  | handoff
  | restore (pid : Nat) (request : RestoreRequest)
  | publishRestore (pid : Nat)
  /-- Any other writer of the documents. -/
  | document (next : Firestore R)
  /-- A start or a return takes the node for a ride. -/
  | claim (live : LiveBus R)
  /-- Any other writer of the node. -/
  | rewrite (live : LiveBus R)
  | remove

namespace Journey

variable (journey : Journey R) (nodeKey : String)

def node : Option (LiveBus R) :=
  journey.store.live nodeKey

def snapshot : Option (LiveBus R × Option UnobservedStops) :=
  (journey.node nodeKey).map fun live => (live, journey.unobservedStops)

/-- What the engine reads for an event. -/
def snapshotOf (queued : QueuedEvent R) :
    Option (LiveBus R × Option UnobservedStops) :=
  queued.snapshot.or (journey.snapshot nodeKey)

def shown (sessionId : String) : List Nat :=
  recordedStops journey.unobservedStops (some sessionId)

def marked (sessionId : String) : List Nat :=
  unobservedIn (journey.stopsReached sessionId)

def write (after : Option (LiveBus R)) : Journey R :=
  { journey with
    store := journey.store.updateLive nodeKey fun _ => after
    unobservedStops := if after.isSome then journey.unobservedStops else none }

def published : Journey R :=
  match journey.node nodeKey with
  | none => journey
  | some live =>
    match live.sessionId with
    | none => journey
    | some sessionId =>
      { journey with
        publications :=
          { sessionId
            currentStopIndex := live.currentStopIndex.getD 0
            unobservedStops := journey.shown sessionId
            passedUnobserved := journey.marked sessionId } ::
            journey.publications }

/-- Append to the history of a session. -/
def remember (sessionId : String)
    (entries : List (StopReached (TripRouteStop R))) : Journey R :=
  { journey with
    stopsReached :=
      Function.update journey.stopsReached sessionId
        (journey.stopsReached sessionId ++ entries) }

def lifecycleHistory (update : JourneyUpdate R)
    (checkpoint : RideCheckpoint R) (sessionId : String) :
    List (StopReached (TripRouteStop R)) :=
  if journey.store.isOpen sessionId then
    missingStopHistory update.event.stops checkpoint.tripState
      checkpoint.currentStopIndex (journey.stopsReached sessionId)
      update.data.currentStopIndex update.skippedStopIndices
      update.unobservedStopIndices
  else []

def persist (update : JourneyUpdate R) : Journey R :=
  match persistActiveRideLifecycle update.toEngineUpdate journey.store with
  | (_, none) => { journey with engine := some (.publish update) }
  | (store, some checkpoint) =>
    let remembered :=
      match update.data.sessionId with
      | none => journey
      | some sessionId =>
        journey.remember sessionId
          (journey.lifecycleHistory update checkpoint sessionId)
    { remembered with
      store
      engine :=
        some
          (.publish
            { update with
              toEngineUpdate :=
                update.toEngineUpdate.withCheckpoint (some checkpoint) }) }

def publish (update : JourneyUpdate R) (otherwise : Bool) : Journey R :=
  let done := { journey with engine := none }
  match journey.node nodeKey with
  | none => done
  | some live =>
    if !update.liveStateChanged otherwise || update.refused live then done
    else
      { done.write nodeKey (publishProgress update.toEngineUpdate
          (some live)) with
        unobservedStops :=
          update.data.sessionId.bind fun sessionId =>
            if update.unobservedStops.isEmpty then none
            else
              some
                { sessionId
                  indices := update.unobservedStops } }.published nodeKey

def completionHistory (update : JourneyUpdate R) (sessionId : String) :
    List (StopReached (TripRouteStop R)) :=
  if journey.store.isOpen sessionId then
    missingStopHistory update.event.stops update.tripState
      update.progress.currentStopIndex (journey.stopsReached sessionId)
      update.data.currentStopIndex [] []
  else []

def complete (config : RideConfig R) (update : JourneyUpdate R) (now : Nat) :
    Journey R :=
  match completeSession config update.toEngineUpdate now journey.store with
  | none => { journey with engine := none }
  | some (store, completion) =>
    let remembered :=
      match update.data.sessionId with
      | none => journey
      | some sessionId =>
        journey.remember sessionId
          (journey.completionHistory update sessionId)
    { remembered with
      store
      engine := some (.publishCompletion update completion) }

def publishCompletion (update : JourneyUpdate R) (completion : Completion) :
    Journey R :=
  let done := { journey with engine := none }
  match journey.node nodeKey with
  | none => done
  | some live =>
    if live.sessionId != update.data.sessionId then done
    else
      (done.write nodeKey (Eki.publishCompletion update.toEngineUpdate
        completion (some live))).published nodeKey

def advance (config : RideConfig R) (ambient : Ambient) :
    JourneyStep R → Journey R
  | .persist update => journey.persist update
  | .publish update => journey.publish nodeKey update ambient.observed
  | .complete update => journey.complete config update ambient.now
  | .publishCompletion update completion =>
    journey.publishCompletion nodeKey update completion

/-- Other writers of the node keep its session and its index, or take the
session off it. -/
def keeps (before after : LiveBus R) : Bool :=
  after.sessionId.isNone ||
    (after.sessionId == before.sessionId &&
      after.currentStopIndex == before.currentStopIndex)

def step (config : RideConfig R) (nodeKey : String) :
    System (Journey R) (JourneyLabel R) :=
  fun journey label =>
    match label with
    | .enqueue event replayed =>
      if event.nodeKey != nodeKey || (journey.node nodeKey).isNone then none
      else
        some
          { journey with
            queue :=
              journey.queue ++
                [{ event
                   snapshot :=
                     if replayed then none else journey.snapshot nodeKey }] }
    | .read =>
      match journey.engine, journey.queue with
      | none, queued :: rest =>
        some
          { journey with
            queue := rest
            engine :=
              ((journey.snapshotOf nodeKey queued).bind
                fun (data, record) =>
                  readJourney config queued.event record data).map
                JourneyUpdate.begin }
      | _, _ => none
    | .advance ambient =>
      journey.engine.map (journey.advance nodeKey config ambient)
    | .lose => some { journey with engine := none }
    | .handoff =>
      some
        { journey with
          queue := []
          engine := none }
    | .restore pid request =>
      if request.nodeKey != nodeKey then none
      else
        some
          { journey with
            restores :=
              Function.update journey.restores pid
                ((readLifecycle request journey.store).map fun lifecycle =>
                  (request, lifecycle)) }
    | .publishRestore pid =>
      (journey.restores pid).map fun (request, lifecycle) =>
        let done :=
          { journey with
            restores := Function.update journey.restores pid none }
        match publishLifecycle request lifecycle (journey.node nodeKey) with
        | none => done
        | some live => (done.write nodeKey (some live)).published nodeKey
    | .document next =>
      some
        { journey with
          store := { journey.store with toFirestore := next } }
    | .claim live =>
      some ((journey.write nodeKey (some live)).published nodeKey)
    | .rewrite live =>
      if (journey.node nodeKey).any fun before => keeps before live then
        some (journey.write nodeKey (some live))
      else none
    | .remove => some (journey.write nodeKey none)

end Journey

end Eki
