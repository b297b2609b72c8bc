import Eki.Ride.Records

/-!
# Starting and resuming a ride

`startAssignedService` as a process: one step is one read of a store, one
transaction or one plain write, and any other step may fall between two of its
own.  A step that throws or returns ends the process.
-/

namespace Eki

open Function (update)

variable {R : Type}

/-- What a device admission read before it starts a service. -/
structure Admission where
  deviceId : String
  assignmentRevision : Nat
  generation : Nat
  endpointVersion : String
  deriving DecidableEq

/-- An operator starts a ride, with or without an idempotency key; a device
starts one for its admission. -/
inductive StartOrigin where
  | manual (uid : String) (idempotencyKey : Option String)
  | automatic (admission : Admission)
  deriving DecidableEq

structure StartRequest where
  assignment : ServiceAssignment
  origin : StartOrigin
  deriving DecidableEq

/-- The admission's transaction check: the assignment is current and automatic
service is neither paused nor awaiting a return. -/
def Admission.verify (admission : Admission) (assignment : ServiceAssignment)
    (store : Store R) : Bool :=
  let registry := store.registry
  let lifecycle := store.busLocations assignment.busId
  (registry.devices admission.deviceId).any (fun device =>
      device.enabled && device.busId == assignment.busId &&
        device.routeId == assignment.routeId &&
        device.assignmentRevision == admission.assignmentRevision) &&
    (registry.buses assignment.busId).any (fun fleet =>
      fleet.active && fleet.assignedRoutes.contains assignment.routeId &&
        fleet.automaticServiceEnabled) &&
    (match registry.drivers.filter (fun driver =>
        driver.assignedBusId == some assignment.busId) with
      | [driver] =>
        driver.id == assignment.driverId && driver.enabled && driver.active
      | _ => false) &&
    ((registry.routes assignment.routeId).bind
        RouteDocument.endpointSnapshotVersion ==
      some admission.endpointVersion) &&
    !lifecycle.automaticServicePaused &&
    decide (lifecycle.automaticServiceEpoch = admission.generation) &&
    lifecycle.terminalJourney.isNone

namespace StartRequest

variable (request : StartRequest)

def automatic : Bool :=
  match request.origin with
  | .manual _ _ => false
  | .automatic _ => true

def assignmentRevision : Nat :=
  match request.origin with
  | .manual _ _ => 0
  | .automatic admission => admission.assignmentRevision

def principalScope : String :=
  match request.origin with
  | .manual uid _ => uid
  | .automatic admission =>
    "device:" ++ admission.deviceId ++ ":" ++
      toString admission.assignmentRevision ++ ":" ++
      toString admission.generation

def idempotencyKey : Option String :=
  match request.origin with
  | .manual _ key => key
  | .automatic _ => some "automatic-service-v1"

/-- The id of the request's document in `_ride_session_creation_keys`. -/
def keyRef (config : RideConfig R) : Option String :=
  request.idempotencyKey.map fun key =>
    config.createHash (request.principalScope ++ "\x00" ++ key)

def verify (store : Store R) : Bool :=
  match request.origin with
  | .manual _ _ => true
  | .automatic admission => admission.verify request.assignment store

def nodeKey : String := request.assignment.rideId

def creationOrigin : CreationOrigin :=
  match request.origin with
  | .manual _ _ => .manual
  | .automatic admission =>
    .automatic admission.deviceId admission.assignmentRevision
      admission.generation

def bindKey (config : RideConfig R) (sessionId : String)
    (keys : String → Option CreationBinding) :
    String → Option CreationBinding :=
  match request.keyRef config with
  | none => keys
  | some key =>
    if (keys key).isSome then keys
    else
      update keys key
        (some { toServiceAssignment := request.assignment, sessionId })

def resumeAutomaticService (location : BusLocation) : BusLocation :=
  if request.automatic then location
  else
    { location with
      automaticServicePaused := false
      automaticServiceEpoch := location.automaticServiceEpoch + 1 }

end StartRequest

/-- What a start holds after its lock transaction. -/
structure LockClaim where
  sessionId : String
  status : SessionStatus
  created : Bool
  direction : Option RideDirection

/-- The lifecycle that a start publishes on the live node. -/
structure ClaimedLifecycle extends Delay where
  tripState : TripState
  currentStopIndex : Int
  hasDepartedOrigin : Bool

structure RideProjection extends ClaimedLifecycle where
  direction : RideDirection

/-- The writes that make Firestore agree with the live node.  A resumed
session's document also gets the assignment. -/
structure Projection where
  sessionId : String
  assignment : ServiceAssignment
  resumed : Bool
  status : SessionStatus
  direction : Option RideDirection
  ride : Option RideProjection

namespace Projection

/-- Merge the session's part into its document. -/
def mergeSession (projection : Projection) :
    Option RideSession → Option RideSession
  | some session =>
    some
      { session with
        toServiceAssignment :=
          if projection.resumed then projection.assignment
          else session.toServiceAssignment
        status := projection.status
        direction := projection.direction }
  | none =>
    if projection.resumed then
      some
        { toServiceAssignment := projection.assignment
          status := projection.status
          direction := projection.direction }
    else none

def document (projection : Projection) (ride : RideProjection) :
    ActiveRide R :=
  { toServiceAssignment := projection.assignment
    toDelay := ride.toDelay
    sessionId := projection.sessionId
    direction := ride.direction
    tripState := ride.tripState
    currentStopIndex := ride.currentStopIndex
    hasDepartedOrigin := ride.hasDepartedOrigin }

def mergeRide (projection : Projection) (ride : RideProjection) :
    Option (ActiveRide R) → ActiveRide R
  | some stored =>
    { stored with
      toServiceAssignment := projection.assignment
      toDelay := ride.toDelay
      sessionId := projection.sessionId
      direction := ride.direction
      tripState := ride.tripState
      currentStopIndex := ride.currentStopIndex
      hasDepartedOrigin := ride.hasDepartedOrigin }
  | none => projection.document ride

def overSession (projection : Projection) (stored : RideSession) :
    Projection :=
  { projection with
    status :=
      if stored.status == .active then .active
      else if stored.status == .armed && projection.status == .pending then
        .armed
      else projection.status
    direction := stored.direction.or projection.direction }

end Projection

def RideProjection.overRide (ride : RideProjection)
    (stored : Option (ActiveRide R)) (live : LiveBus R) : RideProjection :=
  match stored with
  | none => { ride with toDelay := ride.toDelay.newer live.toDelay }
  | some active =>
    { ride with
      toDelay := (ride.toDelay.newer active.toDelay).newer live.toDelay
      tripState :=
        if active.tripState == .inService then .inService else ride.tripState
      currentStopIndex := max ride.currentStopIndex active.currentStopIndex
      hasDepartedOrigin := ride.hasDepartedOrigin || active.hasDepartedOrigin }

/-- The transaction of `commitCreationProjections`, with the live node that it
read; `none` when it throws. -/
def commitCreationProjections (request : StartRequest)
    (projection : Projection) (nodeKey : String) (live : Option (LiveBus R))
    (store : Store R) : Option (Store R) :=
  match store.sessions projection.sessionId, live with
  | some stored, some live =>
    let rideKey := projection.assignment.rideId
    let activeRide := store.activeRides rideKey
    if !request.verify store || stored.status.terminal ||
        nodeKey != stored.rideId ||
        live.sessionId != some projection.sessionId || !live.riding ||
        (projection.ride.isSome && activeRide.any fun active =>
          active.sessionId != projection.sessionId) then
      none
    else
      let merged := projection.overSession stored
      some
        { store with
          sessions :=
            update store.sessions projection.sessionId
              (merged.mergeSession (some stored))
          activeRides :=
            match projection.ride with
            | none => store.activeRides
            | some ride =>
              update store.activeRides rideKey
                (some (projection.mergeRide
                  (ride.overRide activeRide live) activeRide)) }
  | _, _ => none

def reuseLock (config : RideConfig R) (request : StartRequest)
    (requestedDirection : Option RideDirection) (held : RideLock)
    (store : Store R) : Option (Store R × LockClaim) :=
  let assignment := request.assignment
  if held.driverId != assignment.driverId ||
      held.routeId != assignment.routeId || !safeId held.sessionId then
    none
  else
    match store.sessions held.sessionId with
    | none => none
    | some session =>
      let direction := session.direction.or requestedDirection
      if session.status.terminal ||
          requestedDirection.any fun requested =>
            direction != some requested then
        none
      else
        let resolves := session.direction.isNone && direction.isSome
        some
          ({ store with
              creationKeys :=
                request.bindKey config held.sessionId store.creationKeys
              sessions :=
                if resolves then
                  update store.sessions held.sessionId
                    (some { session with direction })
                else store.sessions
              locks :=
                if resolves then
                  update store.locks assignment.busId
                    (some (.ride { held with direction }))
                else store.locks
              busLocations :=
                update store.busLocations assignment.busId
                  (request.resumeAutomaticService
                    (store.busLocations assignment.busId)) },
            { sessionId := held.sessionId
              status := session.status
              created := false
              direction })

def createSession (config : RideConfig R) (request : StartRequest)
    (direction : Option RideDirection) (sessionId : String)
    (store : Store R) : Option (Store R × LockClaim) :=
  let assignment := request.assignment
  if !isAutoId sessionId || (store.sessions sessionId).isSome then none
  else
    some
      ({ store with
          creationKeys := request.bindKey config sessionId store.creationKeys
          sessions :=
            update store.sessions sessionId
              (some
                { toServiceAssignment := assignment
                  status := .pending
                  direction })
          locks :=
            update store.locks assignment.busId
              (some
                (.ride
                  { toServiceAssignment := assignment
                    sessionId
                    direction }))
          busLocations :=
            update store.busLocations assignment.busId
              { request.resumeAutomaticService
                  (store.busLocations assignment.busId) with
                terminalJourney := none } },
        { sessionId
          status := .pending
          created := true
          direction })

/-- The transaction that claims the bus lock; `none` when it throws or
answers null. -/
def claimLock (config : RideConfig R) (request : StartRequest)
    (pinnedSessionId : Option String) (current : Option (LiveBus R))
    (route : RouteDocument) (requestedDirection : Option RideDirection)
    (proposedSessionId : String) (store : Store R) :
    Option (Store R × LockClaim) :=
  let lock := store.locks request.assignment.busId
  let keyRef := request.keyRef config
  if !request.verify store ||
      store.registry.routes request.assignment.routeId != some route ||
      ((keyRef.bind store.creationKeys).any fun binding =>
        binding.toServiceAssignment != request.assignment ||
          some binding.sessionId != lockSession lock) ||
      (pinnedSessionId.isSome && lockSession lock != pinnedSessionId) ||
      (keyRef.isSome && lock.isSome &&
        (current.bind LiveBus.tripState) == some .completed &&
        lockSession lock == current.bind LiveBus.sessionId) then
    none
  else
    match lock with
    | some (.firmware _ _) => none
    | some (.ride held) =>
      reuseLock config request requestedDirection held store
    | none =>
      createSession config request requestedDirection proposedSessionId store

def resumeLock (config : RideConfig R) (request : StartRequest)
    (current : LiveBus R) (sessionId : String) (store : Store R) :
    Option (Store R) :=
  let assignment := request.assignment
  let keyRef := request.keyRef config
  let lock := store.locks assignment.busId
  if !request.verify store ||
      ((keyRef.bind store.creationKeys).any fun binding =>
        binding.toServiceAssignment != assignment ||
          binding.sessionId != sessionId) ||
      (keyRef.isSome && (store.sessions sessionId).isNone) ||
      store.hasEnded sessionId ||
      (lock.isSome && lockSession lock != some sessionId) then
    none
  else
    some
      { store with
        creationKeys := request.bindKey config sessionId store.creationKeys
        locks :=
          update store.locks assignment.busId
            (some
              (.ride
                { toServiceAssignment := assignment
                  sessionId
                  direction := current.direction })) }

def resumeProjection (request : StartRequest) (current : LiveBus R)
    (sessionId : String) : Projection :=
  { sessionId
    assignment := request.assignment
    resumed := true
    status :=
      if current.direction.isNone then .pending
      else if current.tripState == some .preDeparture then .armed
      else .active
    direction := current.direction
    ride :=
      current.direction.map fun direction =>
        { toDelay := current.toDelay
          tripState :=
            if current.tripState == some .inService then .inService
            else .preDeparture
          currentStopIndex := current.currentStopIndex.getD 0
          hasDepartedOrigin := current.hasDepartedOrigin
          direction } }

def claimProjection (request : StartRequest) (claim : LockClaim)
    (lifecycle : ClaimedLifecycle) : Projection :=
  { sessionId := claim.sessionId
    assignment := request.assignment
    resumed := false
    status :=
      if claim.direction.isNone then .pending
      else if lifecycle.tripState == .inService then .active
      else .armed
    direction := claim.direction
    ride :=
      claim.direction.map fun direction =>
        { toClaimedLifecycle := lifecycle
          direction } }

/-- Claim the live vehicle; `none` when the transaction aborts. -/
def claimLive (config : RideConfig R) (request : StartRequest)
    (current : Option (LiveBus R)) (claim : LockClaim)
    (lifecycle : ClaimedLifecycle) (node : Option (LiveBus R)) :
    Option (LiveBus R) :=
  let live :=
    node.getD (.blank request.assignment.busId request.assignment.routeId)
  let currentRevision :=
    (current.map LiveBus.assignmentRevision).getD 0
  if (request.automatic &&
        (live.tripState == some .completed || live.automaticServicePaused ||
          live.retiredAssignmentRevision.isSome ||
          live.assignmentRevision != currentRevision)) ||
      ((request.keyRef config).isSome &&
        live.sessionId == some claim.sessionId &&
        live.tripState == some .completed) ||
      (live.riding && live.sessionId.isSome) then
    none
  else
    some
      { live with
        toDelay := lifecycle.toDelay
        busId := request.assignment.busId
        driverId := some request.assignment.driverId
        routeId := request.assignment.routeId
        direction := claim.direction
        sessionId := some claim.sessionId
        status := .active
        deviceState := .online
        automaticServicePaused := false
        serviceSetupPending := request.automatic
        tripState := some lifecycle.tripState
        hasDepartedOrigin := lifecycle.hasDepartedOrigin
        currentStopIndex := some lifecycle.currentStopIndex
        routeVersion := 0
        automaticTurnaround := false
        previousSessionId := none
        completedAt := none
        turnaroundEligibleAt := none
        turnaroundClaimId := none
        turnaroundClaimedAt := none }

/-- Fail a created session whose claim lost, and free its bus, in one
commit. -/
def failCreation (request : StartRequest) (sessionId : String)
    (store : Store R) : Store R :=
  let busId := request.assignment.busId
  { store with
    sessions :=
      update store.sessions sessionId
        ((store.sessions sessionId).map fun session =>
          { session with status := .failed })
    locks :=
      if lockSession (store.locks busId) == some sessionId then
        update store.locks busId none
      else store.locks }

/-- Both projections of a claim without a key, in one batch. -/
def commitBatch (projection : Projection) (store : Store R) : Store R :=
  { store with
    sessions :=
      update store.sessions projection.sessionId
        (projection.mergeSession (store.sessions projection.sessionId))
    activeRides :=
      match projection.ride with
      | none => store.activeRides
      | some ride =>
        update store.activeRides projection.assignment.rideId
          (some (projection.document ride)) }

def mergeSession (projection : Projection) (store : Store R) : Store R :=
  { store with
    sessions :=
      update store.sessions projection.sessionId
        (projection.mergeSession (store.sessions projection.sessionId)) }

def mergeRide (projection : Projection) (store : Store R) : Store R :=
  { store with
    activeRides :=
      match projection.ride with
      | none => store.activeRides
      | some ride =>
        let rideKey := projection.assignment.rideId
        update store.activeRides rideKey
          (some (projection.mergeRide ride (store.activeRides rideKey))) }

/-- `completeAutomaticSetup` on the live node. -/
def completeAutomaticSetup (request : StartRequest) (sessionId : String)
    (node : Option (LiveBus R)) : Option (LiveBus R) :=
  node.map fun live =>
    if request.automatic && live.sessionId == some sessionId &&
        live.serviceSetupPending then
      { live with serviceSetupPending := false }
    else live

/-- The lifecycle that a claim publishes; `none` when the existing ride awaits
its recovery. -/
def claimedLifecycle (request : StartRequest) (current : Option (LiveBus R))
    (claim : LockClaim) (store : Store R) : Option ClaimedLifecycle :=
  if !claim.created && claim.status != .pending then
    match store.activeRides request.nodeKey with
    | none => none
    | some recovery =>
      if recovery.sessionId != claim.sessionId then none
      else
        some
          { toDelay := recovery.toDelay
            tripState :=
              if recovery.tripState == .inService then .inService
              else .preDeparture
            currentStopIndex := recovery.currentStopIndex
            hasDepartedOrigin := recovery.hasDepartedOrigin }
  else
    some
      { toDelay := .zero
        tripState :=
          if claim.direction.isSome && !request.automatic &&
              !current.any LiveBus.automaticServicePaused then
            .inService
          else .preDeparture
        currentStopIndex := 0
        hasDepartedOrigin := false }

inductive StartStep (R : Type) where
  | authorize
  | lookupKey
  | readPinned (sessionId : String)
  | readLive (pinnedSessionId : Option String)
  | resumeLock (current : LiveBus R) (sessionId : String)
  | mergeSession (projection : Projection) (rideToo : Bool)
  | mergeRide (projection : Projection) (sessionToo : Bool)
  | readRoute (pinnedSessionId : Option String)
      (current : Option (LiveBus R))
  | claimLock (pinnedSessionId : Option String)
      (current : Option (LiveBus R)) (route : RouteDocument)
      (direction : Option RideDirection)
  | readRecovery (current : Option (LiveBus R)) (claim : LockClaim)
  | claimLive (current : Option (LiveBus R)) (claim : LockClaim)
      (lifecycle : ClaimedLifecycle)
  | failCreation (sessionId : String)
  | commitBatch (projection : Projection)
  | readProjectionLive (projection : Projection)
  | commitProjections (projection : Projection) (nodeKey : String)
      (live : Option (LiveBus R))
  | completeSetup (sessionId : String)

structure StartProcess (R : Type) where
  request : StartRequest
  step : StartStep R

namespace StartProcess

variable (request : StartRequest)

def goOn (store : Store R) (step : StartStep R) :
    Outcome R (StartProcess R) :=
  { store
    next := some { request, step } }

def afterLiveRead (config : RideConfig R) (pinnedSessionId : Option String)
    (current : Option (LiveBus R)) : Option (StartStep R) :=
  let live :=
    current.getD (.blank request.assignment.busId request.assignment.routeId)
  if request.automatic &&
      (live.tripState == some .completed || live.automaticServicePaused ||
        live.retiredAssignmentRevision.isSome ||
        live.assignmentRevision != request.assignmentRevision) then
    none
  else if (request.keyRef config).isSome && pinnedSessionId.isSome &&
      pinnedSessionId == live.sessionId &&
      live.tripState == some .completed then
    none
  else if pinnedSessionId.isSome && live.riding &&
      live.sessionId != pinnedSessionId then
    none
  else
    match (live.sessionId.filter fun sessionId =>
        live.riding && safeId sessionId) with
    | some sessionId =>
      if live.driverId == some request.assignment.driverId then
        some (.resumeLock live sessionId)
      else none
    | none => some (.readRoute pinnedSessionId current)

/-- One step of `startAssignedService`.  A manual start is first authorized by `readOperatorAssignment`. -/
def advance (config : RideConfig R) (process : StartProcess R)
    (ambient : Ambient) (store : Store R) :
    Outcome R (StartProcess R) :=
  let request := process.request
  let assignment := request.assignment
  let goOn := goOn request
  let stop (store : Store R) : Outcome R (StartProcess R) := { store }
  match process.step with
  | .authorize =>
    if request.automatic ||
        (safeId assignment.driverId && safeId assignment.busId &&
          safeId assignment.routeId &&
          (store.registry.driver assignment.driverId).any (fun driver =>
            driver.assignedBusId == some assignment.busId) &&
          store.registry.serves assignment.busId assignment.routeId) then
      goOn store .lookupKey
    else stop store
  | .lookupKey =>
    match (request.keyRef config).bind store.creationKeys with
    | none => goOn store (.readLive none)
    | some prior =>
      if prior.toServiceAssignment != assignment then stop store
      else goOn store (.readPinned prior.sessionId)
  | .readPinned sessionId =>
    if store.isOpen sessionId then
      goOn store (.readLive (some sessionId))
    else stop store
  | .readLive pinnedSessionId =>
    match afterLiveRead request config pinnedSessionId
        (store.live request.nodeKey) with
    | none => stop store
    | some step => goOn store step
  | .resumeLock current sessionId =>
    match Eki.resumeLock config request current sessionId store with
    | none => stop store
    | some next =>
      let projection := resumeProjection request current sessionId
      if (request.keyRef config).isSome then
        goOn next (.readProjectionLive projection)
      else if ambient.observed then
        goOn next (.mergeSession projection true)
      else goOn next (.mergeRide projection true)
  | .mergeSession projection rideToo =>
    let next := Eki.mergeSession projection store
    if rideToo then goOn next (.mergeRide projection false)
    else stop next
  | .mergeRide projection sessionToo =>
    let next := Eki.mergeRide projection store
    if sessionToo then goOn next (.mergeSession projection false)
    else stop next
  | .readRoute pinnedSessionId current =>
    match store.registry.routes assignment.routeId with
    | none => stop store
    | some route =>
      -- The observed check is a fresh hardware fix.
      if route.endpointSnapshotVersion.isNone || !ambient.observed then
        stop store
      else
        goOn store
          (.claimLock pinnedSessionId current route ambient.direction)
  | .claimLock pinnedSessionId current route direction =>
    match Eki.claimLock config request pinnedSessionId current route
        direction ambient.autoId store with
    | none => stop store
    | some (next, claim) =>
      { goOn next (.readRecovery current claim) with
        events :=
          (if claim.created then
            [.created claim.sessionId assignment.busId request.creationOrigin]
          else []) ++
            if request.automatic then []
            else [.serviceResumed assignment.busId] }
  | .readRecovery current claim =>
    match claimedLifecycle request current claim store with
    | none => stop store
    | some lifecycle =>
      goOn store (.claimLive current claim lifecycle)
  | .claimLive current claim lifecycle =>
    let winner := store.live request.nodeKey
    match Eki.claimLive config request current claim lifecycle winner with
    | some live =>
      let projection := claimProjection request claim lifecycle
      let next := store.updateLive request.nodeKey fun _ => some live
      if (request.keyRef config).isSome then
        goOn next (.readProjectionLive projection)
      else goOn next (.commitBatch projection)
    | none =>
      let own := winner.any fun live =>
        live.sessionId == some claim.sessionId &&
          (live.driverId == some assignment.driverId ||
            ((request.keyRef config).isSome &&
              live.tripState == some .completed))
      if !own && claim.created then
        goOn store (.failCreation claim.sessionId)
      else stop store
  | .failCreation sessionId =>
    stop (Eki.failCreation request sessionId store)
  | .commitBatch projection =>
    stop (Eki.commitBatch projection store)
  | .readProjectionLive projection =>
    match store.sessions projection.sessionId with
    | none => stop store
    | some stored =>
      goOn store
        (.commitProjections projection stored.rideId
          (store.live stored.rideId))
  | .commitProjections projection nodeKey live =>
    match commitCreationProjections request projection nodeKey live
        store with
    | none => stop store
    | some next => goOn next (.completeSetup projection.sessionId)
  | .completeSetup sessionId =>
    stop
      (store.updateLive request.nodeKey
        (completeAutomaticSetup request sessionId))

end StartProcess

end Eki
