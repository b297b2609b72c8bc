import Eki.Ride.Records

/-!
# Stops, delays, reconciliation and reservations

The other requests that touch a ride: the manual stop, the operator's delay,
the abandoned-ride reconciler, the firmware reservation of a bus and the rearm
of automatic service.
-/

namespace Eki

open Function (update)

variable {R : Type}

/-- A manual stop of a session; an admin may leave the driver out. -/
structure StopRequest where
  driverId : Option String
  busId : String
  routeId : String
  sessionId : String

namespace StopRequest

def nodeKey (request : StopRequest) : String :=
  activeRideId request.busId request.routeId

def names (request : StopRequest) (session : RideSession) : Bool :=
  session.busId == request.busId && session.routeId == request.routeId &&
    request.driverId.all fun driverId => session.driverId == driverId

end StopRequest

/-- The transaction of the stop handler; `none` unless it interrupts the ride
or finds it interrupted.  The flag tells whether it pauses automatic service. -/
def stopSession (request : StopRequest) (store : Store R) :
    Option (Store R × Bool) :=
  match store.sessions request.sessionId with
  | none => none
  | some current =>
    if !request.names current || current.status == .completed ||
        current.status == .failed then
      none
    else
      let lock := store.locks request.busId
      let rideSession :=
        (store.activeRides request.nodeKey).map ActiveRide.sessionId
      let pauses :=
        lockSession lock == some request.sessionId ||
          (lock.isNone && rideSession == some request.sessionId)
      some
        ({ store with
            sessions :=
              update store.sessions request.sessionId
                (some { current with status := .interrupted })
            activeRides :=
              if rideSession == some request.sessionId then
                update store.activeRides request.nodeKey none
              else store.activeRides
            locks :=
              if lockSession lock == some request.sessionId then
                update store.locks request.busId none
              else store.locks
            busLocations :=
              if pauses then
                update store.busLocations request.busId
                  { store.busLocations request.busId with
                    automaticServicePaused := true }
              else store.busLocations },
          pauses)

def retireRideLifecycle (live : LiveBus R) : LiveBus R :=
  { live with
    toDelay := .zero
    driverId := none
    sessionId := none
    status := .offline
    tripState := none
    direction := none
    currentStopIndex := none
    hasDepartedOrigin := false
    gnssGap := none
    routeVersion := 0
    automaticServicePaused := true
    serviceSetupPending := false
    automaticTurnaround := false
    previousSessionId := none
    completedAt := none
    turnaroundEligibleAt := none
    turnaroundClaimId := none
    turnaroundClaimedAt := none }

/-- The live write of the stop handler. -/
def retireLive (sessionId : String) (node : Option (LiveBus R)) :
    Option (LiveBus R) :=
  node.map fun live =>
    if live.sessionId == some sessionId then retireRideLifecycle live else live

inductive StopStep where
  | read
  | commit
  | retire

/-- A manual stop in flight. -/
structure StopProcess where
  request : StopRequest
  step : StopStep

def StopProcess.advance (process : StopProcess) (store : Store R) :
    Outcome R StopProcess :=
  let request := process.request
  match process.step with
  | .read =>
    let found := (store.sessions request.sessionId).any fun session =>
      request.names session && session.status != .completed
    { store
      next := if found then some { request, step := .commit } else none }
  | .commit =>
    match stopSession request store with
    | none => { store }
    | some (next, pauses) =>
      { store := next
        next := some { request, step := .retire }
        events :=
          [.stopped request.sessionId request.busId request.routeId pauses] }
  | .retire =>
    { store :=
        store.updateLive request.nodeKey (retireLive request.sessionId) }

/-- An operator's delay, for the ride that the node carries or for one
session. -/
structure DelayRequest where
  assignment : ServiceAssignment
  delayMinutes : Nat
  expectedSessionId : Option String

/-- The delay with its revision and the session it was announced for; `none`
when the live transaction aborts. -/
def announcedDelay (request : DelayRequest) (requestedAt : Nat)
    (current : LiveBus R) : Option (String × Delay) :=
  let assignment := request.assignment
  if request.delayMinutes > 1440 || current.busId != assignment.busId ||
      current.routeId != assignment.routeId ||
      current.driverId != some assignment.driverId ||
      current.status != .active ||
      !(current.tripState == some .preDeparture ||
        current.tripState == some .inService) then
    none
  else
    (current.sessionId.filter fun sessionId =>
      safeId sessionId &&
        request.expectedSessionId.all fun expected =>
          sessionId == expected).map fun sessionId =>
      (sessionId,
        { delayMinutes := request.delayMinutes
          delayUpdatedAt := max requestedAt (current.delayUpdatedAt + 1) })

def persistDelay (rideKey sessionId : String) (delay : Delay)
    (store : Store R) : Store R :=
  match store.activeRides rideKey with
  | none => store
  | some activeRide =>
    if activeRide.sessionId != sessionId ||
        activeRide.delayUpdatedAt > delay.delayUpdatedAt then
      store
    else
      { store with
        activeRides :=
          update store.activeRides rideKey
            (some { activeRide with toDelay := delay }) }

inductive DelayStep where
  | announce
  | persist (sessionId : String) (delay : Delay)

/-- `updateDelay` in flight. -/
structure DelayProcess where
  request : DelayRequest
  step : DelayStep

def DelayProcess.advance (process : DelayProcess) (ambient : Ambient)
    (store : Store R) : Outcome R DelayProcess :=
  let request := process.request
  let nodeKey := request.assignment.rideId
  match process.step with
  | .announce =>
    match store.live nodeKey with
    | none => { store }
    | some current =>
      match announcedDelay request ambient.now current with
      | none => { store }
      | some (sessionId, delay) =>
        { store :=
            store.updateLive nodeKey fun _ =>
              some { current with toDelay := delay }
          next := some { request, step := .persist sessionId delay }
          events := [.delayAnnounced delay] }
  | .persist sessionId delay =>
    { store := persistDelay nodeKey sessionId delay store }

inductive ReconcileStep where
  | read
  | retireLive (busId routeId : String)
  | commit (busId routeId : String)

/-- The reconciliation of one session in flight. -/
structure ReconcileProcess where
  sessionId : String
  step : ReconcileStep

/-- The transaction of the reconciler.  A session is stale when it has not
ended and the latest activity of its records is old; that check on times is
the step's observation, and an active ride it covers is deleted with it. -/
def reconcileSession (sessionId busId routeId : String) (inactive : Bool)
    (store : Store R) : Store R :=
  let rideKey := activeRideId busId routeId
  match store.sessions sessionId with
  | none => store
  | some session =>
    if session.status.terminal || !inactive then store
    else
      { store with
        sessions :=
          update store.sessions sessionId
            (some { session with status := .interrupted })
        activeRides :=
          if (store.activeRides rideKey).map ActiveRide.sessionId ==
              some sessionId then
            update store.activeRides rideKey none
          else store.activeRides
        locks :=
          if lockSession (store.locks busId) == some sessionId then
            update store.locks busId none
          else store.locks }

def ReconcileProcess.advance (process : ReconcileProcess) (ambient : Ambient)
    (store : Store R) : Outcome R ReconcileProcess :=
  let sessionId := process.sessionId
  match process.step with
  | .read =>
    match store.sessions sessionId with
    | none => { store }
    | some session =>
      if session.status.terminal || !ambient.observed ||
          !safeId session.busId || !safeId session.routeId then
        { store }
      else
        { store
          next :=
            some
              { sessionId
                step := .retireLive session.busId session.routeId } }
  | .retireLive busId routeId =>
    let nodeKey := activeRideId busId routeId
    let matching := (store.live nodeKey).any fun live =>
      live.sessionId == some sessionId
    -- The observed check is that a matching node has been silent.
    if matching && !ambient.observed then { store }
    else
      { store :=
          if matching then store.updateLive nodeKey fun _ => none
          else store
        next := some { sessionId, step := .commit busId routeId } }
  | .commit busId routeId =>
    { store :=
        reconcileSession sessionId busId routeId ambient.observed store }

inductive FirmwareAction where
  | acquire
  | release
  deriving DecidableEq

structure FirmwareRequest where
  action : FirmwareAction
  deviceId : String
  busId : String
  routeId : String

def BusLock.ownMaintenance (deviceId : String) : BusLock → Bool
  | .firmware owner _ => owner == deviceId
  | .ride _ => false

def firmwareMaintenance (request : FirmwareRequest) (store : Store R) :
    Store R :=
  let lock := store.locks request.busId
  match request.action with
  | .release =>
    if lock.any (BusLock.ownMaintenance request.deviceId) then
      { store with
        locks := update store.locks request.busId none }
    else store
  | .acquire =>
    let device := store.registry.devices request.deviceId
    if (store.activeRides
          (activeRideId request.busId request.routeId)).isSome ||
        lock.isSome ||
        !device.any (fun registered =>
          registered.enabled && registered.busId == request.busId &&
            registered.routeId == request.routeId) then
      store
    else
      { store with
        locks :=
          update store.locks request.busId
            (some (.firmware request.deviceId request.routeId)) }

/-- `rearmAfterEarlyEnd`: a compare and swap on the epoch, and on the return
marker when one is released. -/
structure RearmRequest where
  busId : String
  generation : Nat
  consumedBy : Option String

inductive Rearm where
  | rearmed
  | raced
  | refused
  deriving DecidableEq

def rearmAfterEarlyEnd (request : RearmRequest) (store : Store R) :
    Store R × Rearm :=
  let data := store.busLocations request.busId
  if data.automaticServicePaused then (store, .refused)
  else if data.automaticServiceEpoch != request.generation then
    (store, .raced)
  else if request.consumedBy.isSome &&
      data.terminalJourney.bind TerminalJourney.consumedBy !=
        request.consumedBy then
    (store, .raced)
  else
    ({ store with
        busLocations :=
          update store.busLocations request.busId
            { data with
              automaticServiceEpoch := data.automaticServiceEpoch + 1
              terminalJourney :=
                if request.consumedBy.isSome then none
                else data.terminalJourney } },
      .rearmed)

/-- A device's telemetry on the node of its assignment; it creates the node or
keeps the ride that the node carries. -/
structure TelemetryRequest where
  busId : String
  routeId : String
  assignmentRevision : Nat

def persistTelemetry (request : TelemetryRequest)
    (node : Option (LiveBus R)) : Option (LiveBus R) :=
  let live := node.getD (.blank request.busId request.routeId)
  if live.retiredAssignmentRevision.any fun retired =>
      decide (request.assignmentRevision < retired) then
    node
  else
    some
      { live with
        busId := request.busId
        routeId := request.routeId
        assignmentRevision := request.assignmentRevision
        retiredAssignmentRevision := none
        deviceState := .online }

/-- The stale sweep removes a silent node without an active ride and marks one
with a ride offline. -/
def sweepStale (node : Option (LiveBus R)) : Option (LiveBus R) :=
  node.bind fun live =>
    if live.status == .active &&
        (live.tripState == some .preDeparture ||
          live.tripState == some .inService) then
      some { live with deviceState := .offline }
    else none

/-- `retiredDevicePresence`: the tombstone of a device's old assignment. -/
def retireAssignment (revision : Nat) (node : Option (LiveBus R)) :
    Option (LiveBus R) :=
  node.map fun live =>
    if decide (live.assignmentRevision ≥ revision) ||
        (live.status == .active && live.sessionId.isSome) then
      live
    else
      { live with
        retiredAssignmentRevision := some revision
        deviceState := .offline }

/-- Telemetry resolves the direction of a node whose ride has none and has not
departed; without a match the direction stays open. -/
def resolvePendingDirection (direction : Option RideDirection)
    (node : Option (LiveBus R)) : Option (LiveBus R) :=
  node.map fun live =>
    if live.tripState == some .completed ||
        (live.sessionId.isSome &&
          (live.direction.isSome ||
            !(live.status == .active &&
              live.tripState == some .preDeparture))) then
      live
    else { live with direction }

/-- A durable refusal reopens the direction of a ride before departure. -/
def resetRefusedDirection (node : Option (LiveBus R)) :
    Option (LiveBus R) :=
  node.map fun live =>
    if live.tripState == some .preDeparture then
      { live with direction := none }
    else live

structure DirectionRequest where
  assignment : ServiceAssignment
  sessionId : String
  direction : RideDirection

def persistResolvedSessionDirection (request : DirectionRequest)
    (store : Store R) : Store R :=
  let busId := request.assignment.busId
  match store.sessions request.sessionId, store.locks busId with
  | some session, some (.ride lock) =>
    if lock.sessionId != request.sessionId ||
        session.toServiceAssignment != request.assignment ||
        session.status.terminal ||
        session.direction.any (fun stored => stored != request.direction)
    then
      store
    else
      { store with
        sessions :=
          update store.sessions request.sessionId
            (some { session with direction := some request.direction })
        locks :=
          update store.locks busId
            (some (.ride { lock with direction := some request.direction })) }
  | _, _ => store

end Eki
