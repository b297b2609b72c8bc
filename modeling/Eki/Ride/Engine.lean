import Eki.Ride.Records
import Eki.Trip.Progress

/-!
# The trip-state engine

One live snapshot at a time: the engine reduces it, makes its progress durable
and publishes it, or completes the ride; it arms the return of a completed
ride, and it restores a ride that only the durable records still know.
-/

namespace Eki

variable {R : Type} [JsNumber R]

def liveGnssGapSince (data : LiveBus R) : Option R :=
  (data.gnssGap.filter fun gap => data.sessionId == some gap.sessionId).map
    GnssGap.since

/-- What the engine carries from a live node into `reduceTripState`. -/
def LiveBus.progress (data : LiveBus R) : RideProgress R :=
  { tripState := data.tripState.getD .preDeparture
    currentStopIndex := data.currentStopIndex.getD 0
    hasDepartedOrigin := data.hasDepartedOrigin
    terminalArrival := data.terminalArrival
    gnssGapSince := liveGnssGapSince data }

/-- A live event: the node, the fix that it reported and the route's stops as
the engine has them cached.  A replayed event brings no new telemetry, and one
of a swept receiver is not made durable. -/
structure EngineEvent (R : Type) where
  nodeKey : String
  sample : TelemetrySample R
  stops : List (TripRouteStop R)
  endpointVersion : Option String
  isNewTelemetry : Bool := true
  offlineReplay : Bool := false

/-- A snapshot that the engine has reduced. -/
structure EngineUpdate (R : Type) where
  event : EngineEvent R
  data : LiveBus R
  direction : RideDirection
  tripState : TripState
  progress : RideProgress R

/-- The reduced snapshot; `none` where the engine has nothing to advance. -/
def processLiveSnapshot (config : RideConfig R) (event : EngineEvent R)
    (data : LiveBus R) : Option (EngineUpdate R) :=
  if data.tripState == some .completed || data.status == .offline then none
  else
    match data.direction with
    | none => none
    | some direction =>
      if event.isNewTelemetry then
        let progress :=
          (reduceTripState config.terminalArrivalConfirmationMs
            (event.sample.toInput event.stops data.progress)).carried
        some
          { event, data, direction, progress
            tripState := progress.tripState }
      else
        data.tripState.map fun tripState =>
          { event, data, direction, tripState
            progress := data.progress }

/-- The durable lifecycle that a live event committed. -/
structure RideCheckpoint (R : Type) where
  tripState : TripState
  currentStopIndex : Int
  hasDepartedOrigin : Bool
  terminalArrival : Option (TerminalArrivalEvidence R)
  lastRouteVersion : Nat

/-- The stored index, where it is one of the event's stops. -/
def durableIndex (stops : List (TripRouteStop R))
    (durable : ActiveRide R) : Int :=
  if 0 ≤ durable.currentStopIndex ∧
      durable.currentStopIndex < stops.length then
    durable.currentStopIndex
  else 0

namespace EngineUpdate

variable (update : EngineUpdate R)

def rideKey : String :=
  activeRideId update.data.busId update.data.routeId

def checkpoint (durable : Option (ActiveRide R)) : RideCheckpoint R :=
  let own := durable.filter fun ride =>
    update.data.sessionId == some ride.sessionId
  let progress := update.progress
  match own with
  | none =>
    { tripState := progress.tripState
      currentStopIndex := max progress.currentStopIndex 0
      hasDepartedOrigin := progress.hasDepartedOrigin
      terminalArrival := progress.terminalArrival
      lastRouteVersion := update.data.routeVersion }
  | some ride =>
    { tripState :=
        if ride.tripState == .inService then .inService
        else progress.tripState
      currentStopIndex :=
        max progress.currentStopIndex
          (durableIndex update.event.stops ride)
      hasDepartedOrigin :=
        progress.hasDepartedOrigin || ride.hasDepartedOrigin
      terminalArrival :=
        match ride.terminalArrival, update.event.sample.timestamp with
        | some evidence, some timestamp =>
          if evidence.lastSampledAt > timestamp then some evidence
          else progress.terminalArrival
        | _, _ => progress.terminalArrival
      lastRouteVersion :=
        max update.data.routeVersion ride.lastRouteVersion }

def document (sessionId driverId : String) (durable : Option (ActiveRide R)) :
    ActiveRide R :=
  let checkpoint := update.checkpoint durable
  let delay :=
    match durable with
    | none => update.data.toDelay
    | some ride => update.data.toDelay.newer ride.toDelay
  { toServiceAssignment :=
      { driverId
        busId := update.data.busId
        routeId := update.data.routeId }
    toDelay := delay
    sessionId
    direction := update.direction
    tripState := checkpoint.tripState
    currentStopIndex := checkpoint.currentStopIndex
    hasDepartedOrigin := checkpoint.hasDepartedOrigin
    terminalArrival := checkpoint.terminalArrival
    gnssGapSince := update.progress.gnssGapSince
    lastRouteVersion := checkpoint.lastRouteVersion
    automaticTurnaround := durable.any ActiveRide.automaticTurnaround
    previousSessionId := durable.bind ActiveRide.previousSessionId }

end EngineUpdate

/-- `persistActiveRideLifecycle`; without a checkpoint nothing was written. -/
def persistActiveRideLifecycle (update : EngineUpdate R) (store : Store R) :
    Store R × Option (RideCheckpoint R) :=
  let data := update.data
  match data.sessionId, data.driverId with
  | some sessionId, some driverId =>
    if data.status != .active ||
        lockSession (store.locks data.busId) != some sessionId then
      (store, none)
    else
      let durable := store.activeRides update.rideKey
      let checkpoint := update.checkpoint durable
      ({ store with
          sessions :=
            match store.sessions sessionId with
            | none => store.sessions
            | some session =>
              if !session.status.terminal &&
                  checkpoint.tripState == .inService then
                Function.update store.sessions sessionId
                  (some { session with status := .active })
              else store.sessions
          activeRides :=
            Function.update store.activeRides update.rideKey
              (some (update.document sessionId driverId durable)) },
        some checkpoint)
  | _, _ => (store, none)

def publishProgress (update : EngineUpdate R) (node : Option (LiveBus R)) :
    Option (LiveBus R) :=
  node.map fun live =>
    if (update.data.sessionId.isSome &&
          live.sessionId != update.data.sessionId) ||
        live.direction != some update.direction ||
        live.tripState == some .completed ||
        live.deviceState == .offline then
      live
    else
      { live with
        tripState := some update.progress.tripState
        currentStopIndex := some update.progress.currentStopIndex
        hasDepartedOrigin := update.progress.hasDepartedOrigin
        terminalArrival := update.progress.terminalArrival
        gnssGap :=
          match update.data.sessionId, update.progress.gnssGapSince with
          | some sessionId, some since => some { sessionId, since }
          | _, _ => none }

/-- When a ride was completed and when its return may leave. -/
structure Completion where
  completedAtMs : Nat
  eligibleAt : Nat
  deriving DecidableEq

/-- The completion of a session that is already completed: what the first one
stored, if the records are still its own. -/
def recoverCompletion (config : RideConfig R) (update : EngineUpdate R)
    (sessionId : String) (store : Store R) : Option Completion :=
  let data := update.data
  match store.completedTrips sessionId with
  | none => none
  | some completed =>
    if completed.sessionId != some sessionId ||
        completed.busId != data.busId || completed.routeId != data.routeId ||
        completed.direction != update.direction ||
        ((store.locks data.busId).isSome &&
          lockSession (store.locks data.busId) != some sessionId) ||
        (store.activeRides update.rideKey).any (fun ride =>
          ride.sessionId != sessionId) then
      none
    else
      some
        { completedAtMs := completed.completedAt
          eligibleAt :=
            completed.automaticTurnaroundEligibleAt.getD
              (completed.completedAt + config.automaticTurnaroundDwellMs) }

def EngineUpdate.completedTrip (update : EngineUpdate R)
    (completion : Completion) : CompletedTrip :=
  { busId := update.data.busId
    driverId := update.data.driverId
    routeId := update.data.routeId
    direction := update.direction
    completedAt := completion.completedAtMs
    automaticTurnaroundEligibleAt := some completion.eligibleAt
    sessionId := update.data.sessionId }

/-- The checkpoint that an automatic return may consume. -/
def EngineUpdate.terminalJourney (update : EngineUpdate R)
    (completion : Completion) (driverId sessionId : String) :
    TerminalJourney :=
  { driverId
    busId := update.data.busId
    routeId := update.data.routeId
    sessionId
    direction := update.direction
    directionEndpointVersion := update.event.endpointVersion
    completedAt := completion.completedAtMs
    turnaroundEligibleAt := completion.eligibleAt
    consumedBy := none
    currentStopIndex := update.progress.currentStopIndex }

/-- The writes of a first completion. -/
def recordCompletion (update : EngineUpdate R) (completion : Completion)
    (store : Store R) : Store R :=
  let data := update.data
  let completionId := data.sessionId.getD update.event.nodeKey
  let recorded :=
    { store with
      completedTrips :=
        Function.update store.completedTrips completionId
          (some (update.completedTrip completion)) }
  match data.sessionId with
  | none => recorded
  | some sessionId =>
    { recorded with
      sessions :=
        Function.update store.sessions sessionId
          ((store.sessions sessionId).map fun session =>
            { session with
              status := .completed
              terminalArrivalConfirmedAt := some completion.completedAtMs })
      activeRides :=
        if (store.activeRides update.rideKey).map ActiveRide.sessionId ==
            some sessionId then
          Function.update store.activeRides update.rideKey none
        else store.activeRides
      locks :=
        if lockSession (store.locks data.busId) == some sessionId then
          Function.update store.locks data.busId none
        else store.locks
      busLocations :=
        match data.driverId with
        | none => store.busLocations
        | some driverId =>
          Function.update store.busLocations data.busId
            { store.busLocations data.busId with
              terminalJourney :=
                some (update.terminalJourney completion driverId sessionId) } }

/-- The completion transaction; `none` when another writer has won. -/
def completeSession (config : RideConfig R) (update : EngineUpdate R)
    (now : Nat) (store : Store R) : Option (Store R × Completion) :=
  let data := update.data
  let completion : Completion :=
    { completedAtMs := now
      eligibleAt := now + config.automaticTurnaroundDwellMs }
  match data.sessionId with
  | none => some (recordCompletion update completion store, completion)
  | some sessionId =>
    if store.statusOf sessionId == some .completed then
      (recoverCompletion config update sessionId store).map fun stored =>
        (store, stored)
    else if !store.isOpen sessionId ||
        lockSession (store.locks data.busId) != some sessionId then
      none
    else some (recordCompletion update completion store, completion)

def publishCompletion (update : EngineUpdate R) (completion : Completion)
    (node : Option (LiveBus R)) : Option (LiveBus R) :=
  node.map fun live =>
    if live.sessionId != update.data.sessionId then live
    else
      { live with
        tripState := some update.progress.tripState
        currentStopIndex := some update.progress.currentStopIndex
        hasDepartedOrigin := update.progress.hasDepartedOrigin
        terminalArrival := none
        gnssGap := none
        completedAt := some completion.completedAtMs
        turnaroundEligibleAt := some completion.eligibleAt
        turnaroundClaimId := none
        turnaroundClaimedAt := none }

def retireCompleted (sessionId : Option String) (node : Option (LiveBus R)) :
    Option (LiveBus R) :=
  node.map fun live =>
    if live.tripState == some .completed && live.sessionId == sessionId then
      { live with
        status := .offline
        deviceState := .offline }
    else live

inductive EngineStep (R : Type) where
  | read (event : EngineEvent R)
  | persist (update : EngineUpdate R)
  | publish (update : EngineUpdate R)
  | complete (update : EngineUpdate R)
  | publishCompletion (update : EngineUpdate R) (completion : Completion)
  | retire (nodeKey : String) (sessionId : Option String)

/-- Take over the checkpoint that the durable write answered. -/
def EngineUpdate.withCheckpoint (update : EngineUpdate R) :
    Option (RideCheckpoint R) → EngineUpdate R
  | none => update
  | some checkpoint =>
    { update with
      progress :=
        { update.progress with
          tripState := checkpoint.tripState
          currentStopIndex := checkpoint.currentStopIndex
          hasDepartedOrigin := checkpoint.hasDepartedOrigin
          terminalArrival := checkpoint.terminalArrival } }

def EngineStep.advance (config : RideConfig R) (ambient : Ambient)
    (store : Store R) : EngineStep R → Outcome R (EngineStep R)
  | .read event =>
    match (store.live event.nodeKey).bind
        (processLiveSnapshot config event) with
    | none => { store }
    | some update =>
      { store
        next :=
          some
            (if update.tripState == .completed then .complete update
            else if event.offlineReplay then .publish update
            else .persist update) }
  | .persist update =>
    let (next, checkpoint) := persistActiveRideLifecycle update store
    -- The observed check is that a published field differs.
    { store := next
      next :=
        if ambient.observed then
          some (.publish (update.withCheckpoint checkpoint))
        else none }
  | .publish update =>
    { store :=
        store.updateLive update.event.nodeKey (publishProgress update) }
  | .complete update =>
    match completeSession config update ambient.now store with
    | none => { store }
    | some (next, completion) =>
      { store := next
        next := some (.publishCompletion update completion) }
  | .publishCompletion update completion =>
    let nodeKey := update.event.nodeKey
    let sessionId := update.data.sessionId
    { store :=
        store.updateLive nodeKey (Eki.publishCompletion update completion)
      next := some (.retire nodeKey sessionId)
      events :=
        match sessionId with
        | none => []
        | some published =>
          if (store.live nodeKey).any fun live =>
              live.sessionId == sessionId then
            [.completionPublished published completion.completedAtMs
              completion.eligibleAt]
          else [] }
  | .retire nodeKey sessionId =>
    { store := store.updateLive nodeKey (retireCompleted sessionId) }

end Eki
