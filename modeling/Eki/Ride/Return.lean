import Eki.Ride.Records

/-!
# Returns and restores

The automatic turnaround of a completed ride: a claim on the live node, the
creation of the return session and its activation.  The restore of a live node
from the durable records: a ride that holds its lock, or the unconsumed
checkpoint of a completed one.
-/

namespace Eki

open Function (update)

variable {R : Type}

def turnaroundClaimStaleMs : Nat := 60000

/-- What the turnaround read from the completed node, and the id of the
session that it may create. -/
structure Turnaround where
  nodeKey : String
  assignment : ServiceAssignment
  previousSessionId : String
  previousDirection : RideDirection
  endpointVersion : Option String
  sessionRef : String
  now : Nat

/-- The first checks of `maybeArmAutomaticTurnaround`; whether the bus is ready
at the endpoint is the step's observation. -/
def readTurnaround (nodeKey : String) (endpointVersion : Option String)
    (ambient : Ambient) (data : LiveBus R) : Option Turnaround :=
  match data.direction, data.sessionId.filter (safeId ·),
      data.driverId.filter (safeId ·) with
  | some previousDirection, some previousSessionId, some driverId =>
    if data.tripState != some .completed || !ambient.observed then none
    else
      some
        { nodeKey
          assignment :=
            { driverId
              busId := data.busId
              routeId := data.routeId }
          previousSessionId, previousDirection, endpointVersion
          sessionRef := ambient.autoId
          now := ambient.now }
  | _, _, _ => none

namespace Turnaround

variable (turnaround : Turnaround)

/-- The claim on the live node; `none` when the transaction aborts. -/
def claim (ready : Bool) (live : LiveBus R) : Option (LiveBus R) :=
  let claimIsFresh :=
    live.turnaroundClaimId.isSome &&
      live.turnaroundClaimedAt.any fun claimedAt =>
        decide (turnaround.now < claimedAt + turnaroundClaimStaleMs)
  if live.sessionId != some turnaround.previousSessionId ||
      live.tripState != some .completed || claimIsFresh || !ready then
    none
  else
    some
      { live with
        turnaroundClaimId := some turnaround.sessionRef
        turnaroundClaimedAt := some turnaround.now }

/-- The checkpoint is this ride's and unconsumed. -/
def mayConsume (journey : TerminalJourney) : Bool :=
  journey.sessionId == turnaround.previousSessionId &&
    journey.direction == turnaround.previousDirection &&
    journey.consumedBy.isNone &&
    journey.directionEndpointVersion == turnaround.endpointVersion

def follows (completed : RideSession) : Bool :=
  completed.status == .completed &&
    completed.direction == some turnaround.previousDirection &&
    completed.terminalArrivalConfirmedAt.isSome &&
    completed.toServiceAssignment == turnaround.assignment

/-- The transaction that creates the return session; `none` when it answers
false or throws. -/
def create (store : Store R) : Option (Store R) :=
  let assignment := turnaround.assignment
  let busId := assignment.busId
  let sessionId := turnaround.sessionRef
  let direction := oppositeRideDirection turnaround.previousDirection
  match (store.busLocations busId).terminalJourney with
  | none => none
  | some journey =>
    if (store.locks busId).isSome ||
        !(store.sessions turnaround.previousSessionId).any
          turnaround.follows ||
        !turnaround.mayConsume journey ||
        !(store.registry.driver assignment.driverId).any (fun driver =>
          driver.assignedBusId == some busId) ||
        !store.registry.serves busId assignment.routeId ||
        !isAutoId sessionId || (store.sessions sessionId).isSome then
      none
    else
      some
        { store with
          sessions :=
            update store.sessions sessionId
              (some
                { toServiceAssignment := assignment
                  status := .armed
                  direction := some direction
                  automaticTurnaround := true
                  previousSessionId := some turnaround.previousSessionId })
          locks :=
            update store.locks busId
              (some
                (.ride
                  { toServiceAssignment := assignment
                    sessionId
                    direction := some direction }))
          activeRides :=
            update store.activeRides assignment.rideId
              (some
                { toServiceAssignment := assignment
                  toDelay := .zero
                  sessionId
                  direction
                  tripState := .preDeparture
                  currentStopIndex := 0
                  hasDepartedOrigin := false
                  automaticTurnaround := true
                  previousSessionId :=
                    some turnaround.previousSessionId })
          busLocations :=
            update store.busLocations busId
              { store.busLocations busId with
                terminalJourney :=
                  some { journey with consumedBy := some sessionId } } }

def activate (node : Option (LiveBus R)) : Option (LiveBus R) :=
  node.map fun live =>
    if live.sessionId != some turnaround.previousSessionId ||
        live.tripState != some .completed ||
        live.turnaroundClaimId != some turnaround.sessionRef then
      live
    else
      { live with
        toDelay := .zero
        sessionId := some turnaround.sessionRef
        driverId := some turnaround.assignment.driverId
        direction := some (oppositeRideDirection turnaround.previousDirection)
        status := .active
        deviceState := .online
        tripState := some .preDeparture
        currentStopIndex := some 0
        hasDepartedOrigin := false
        terminalArrival := none
        gnssGap := none
        routeVersion := 0
        automaticTurnaround := true
        previousSessionId := some turnaround.previousSessionId
        completedAt := none
        turnaroundEligibleAt := none
        turnaroundClaimId := none
        turnaroundClaimedAt := none }

/-- Give the claim back. -/
def release (node : Option (LiveBus R)) : Option (LiveBus R) :=
  node.map fun live =>
    if live.turnaroundClaimId == some turnaround.sessionRef then
      { live with
        turnaroundClaimId := none
        turnaroundClaimedAt := none }
    else live

end Turnaround

inductive TurnaroundStep where
  | read (nodeKey : String) (endpointVersion : Option String)
  | claim (turnaround : Turnaround)
  | create (turnaround : Turnaround)
  | activate (turnaround : Turnaround)
  | release (turnaround : Turnaround)

def TurnaroundStep.advance (ambient : Ambient) (store : Store R) :
    TurnaroundStep → Outcome R TurnaroundStep
  | .read nodeKey endpointVersion =>
    { store
      next :=
        ((store.live nodeKey).bind
          (readTurnaround nodeKey endpointVersion ambient)).map
            .claim }
  | .claim turnaround =>
    match (store.live turnaround.nodeKey).bind
        (turnaround.claim ambient.observed) with
    | none => { store }
    | some live =>
      { store :=
          store.updateLive turnaround.nodeKey fun _ => some live
        next := some (.create turnaround) }
  | .create turnaround =>
    match turnaround.create store with
    | none =>
      { store
        next := some (.release turnaround) }
    | some next =>
      { store := next
        next := some (.activate turnaround)
        events :=
          [.created turnaround.sessionRef turnaround.assignment.busId
            (.turnaround turnaround.previousSessionId)] }
  | .activate turnaround =>
    { store :=
        store.updateLive turnaround.nodeKey turnaround.activate }
  | .release turnaround =>
    { store :=
        store.updateLive turnaround.nodeKey turnaround.release }

/-- A restore for a bus and route; only device telemetry recovers a completed
ride. -/
structure RestoreRequest where
  busId : String
  routeId : String
  recoverTerminal : Bool

def RestoreRequest.nodeKey (request : RestoreRequest) : String :=
  activeRideId request.busId request.routeId

/-- What a restore publishes. -/
inductive DurableLifecycle (R : Type) where
  | ride (ride : ActiveRide R)
  | terminal (journey : TerminalJourney)

def ownsBus (request : RestoreRequest) (store : Store R)
    (ride : ActiveRide R) : Bool :=
  let owned (assignment : ServiceAssignment) :=
    assignment.busId == request.busId &&
      assignment.routeId == request.routeId &&
      assignment.driverId == ride.driverId
  (match store.locks request.busId with
    | some (.ride owner) =>
      owner.sessionId == ride.sessionId && owned owner.toServiceAssignment
    | _ => false) &&
    (store.sessions ride.sessionId).any fun record =>
      owned record.toServiceAssignment && !record.status.terminal

/-- The checkpoint may be shown again: its session is completed, no ride holds
the bus and the configuration has not moved on. -/
def mayRecover (request : RestoreRequest) (store : Store R)
    (journey : TerminalJourney) : Bool :=
  let owned (assignment : ServiceAssignment) :=
    assignment.busId == request.busId && assignment.routeId == request.routeId
  journey.consumedBy.isNone && journey.directionEndpointVersion.isSome &&
    (store.locks request.busId).isNone &&
    (store.sessions journey.sessionId).any (fun record =>
      record.status == .completed && owned record.toServiceAssignment &&
        record.driverId == journey.driverId &&
        record.terminalArrivalConfirmedAt.isSome) &&
    owned journey.toServiceAssignment &&
    (store.registry.driver journey.driverId).any (fun driver =>
      driver.assignedBusId == some request.busId) &&
    store.registry.serves request.busId request.routeId &&
    ((store.registry.routes request.routeId).bind
        RouteDocument.endpointSnapshotVersion ==
      journey.directionEndpointVersion)

/-- The Firestore part of `performDurableRideRestore`. -/
def readLifecycle (request : RestoreRequest) (store : Store R) :
    Option (DurableLifecycle R) :=
  match (store.activeRides request.nodeKey).filter fun ride =>
      ride.tripState != .completed with
  | some ride =>
    if ownsBus request store ride then some (.ride ride) else none
  | none =>
    if !request.recoverTerminal then none
    else
      match (store.busLocations request.busId).terminalJourney with
      | none => none
      | some journey =>
        if mayRecover request store journey then some (.terminal journey)
        else none

def replaceable (live : LiveBus R) (ride : ActiveRide R) : Bool :=
  live.tripState == some .completed && ride.automaticTurnaround &&
    ride.previousSessionId == live.sessionId &&
    (live.turnaroundClaimId.isNone ||
      live.turnaroundClaimId == some ride.sessionId)

/-- The live write of a restore; `none` when the transaction aborts. -/
def publishLifecycle (request : RestoreRequest)
    (lifecycle : DurableLifecycle R) (node : Option (LiveBus R)) :
    Option (LiveBus R) :=
  let live := node.getD (.blank request.busId request.routeId)
  match lifecycle with
  | .terminal journey =>
    if live.sessionId.isSome || live.retiredAssignmentRevision.isSome then
      none
    else
      some
        { live with
          busId := request.busId
          routeId := request.routeId
          driverId := some journey.driverId
          sessionId := some journey.sessionId
          status := .offline
          deviceState :=
            if node.isNone then .offline else live.deviceState
          tripState := some .completed
          direction := some journey.direction
          currentStopIndex := some journey.currentStopIndex
          hasDepartedOrigin := true
          terminalArrival := none
          routeVersion := 0
          completedAt := some journey.completedAt
          turnaroundEligibleAt := some journey.turnaroundEligibleAt
          turnaroundClaimId := none
          turnaroundClaimedAt := none }
  | .ride ride =>
    let sameSession := live.sessionId == some ride.sessionId
    if (sameSession && live.status == .active &&
          (live.tripState == some .preDeparture ||
            live.tripState == some .inService)) ||
        (live.sessionId.isSome && !sameSession && !replaceable live ride) ||
        (sameSession && live.tripState == some .completed) then
      none
    else
      some
        { live with
          toDelay :=
            if sameSession then live.toDelay.newer ride.toDelay
            else ride.toDelay
          busId := request.busId
          routeId := request.routeId
          driverId := some ride.driverId
          sessionId := some ride.sessionId
          status := .active
          tripState := some ride.tripState
          direction := some ride.direction
          currentStopIndex := some ride.currentStopIndex
          hasDepartedOrigin := ride.hasDepartedOrigin
          terminalArrival := ride.terminalArrival
          gnssGap :=
            ride.gnssGapSince.map fun since =>
              { sessionId := ride.sessionId
                since }
          routeVersion :=
            if 0 < ride.lastRouteVersion then ride.lastRouteVersion + 1
            else if sameSession then live.routeVersion
            else 0
          automaticTurnaround := ride.automaticTurnaround
          previousSessionId := ride.previousSessionId
          completedAt := none
          turnaroundEligibleAt := none
          turnaroundClaimId := none
          turnaroundClaimedAt := none }

inductive RestoreStep (R : Type) where
  | read
  | publish (lifecycle : DurableLifecycle R)

structure RestoreProcess (R : Type) where
  request : RestoreRequest
  step : RestoreStep R

def RestoreProcess.advance (process : RestoreProcess R) (store : Store R) :
    Outcome R (RestoreProcess R) :=
  let request := process.request
  match process.step with
  | .read =>
    { store
      next :=
        (readLifecycle request store).map fun lifecycle =>
          { request
            step := .publish lifecycle } }
  | .publish lifecycle =>
    match publishLifecycle request lifecycle
        (store.live request.nodeKey) with
    | none => { store }
    | some live =>
      { store := store.updateLive request.nodeKey fun _ => some live }

end Eki
