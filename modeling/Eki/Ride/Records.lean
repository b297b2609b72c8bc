import Eki.Trip.Reducer

/-!
# The records of a ride

A ride is spread over two stores.  Firestore holds its session, the lock of its
bus, its active ride and the key that created it; the realtime database holds
one live node for each bus and route.  A record keeps the fields that some
operation of a ride reads; a field absent from a document reads as its default.
-/

namespace Eki

inductive RideDirection where
  | forward
  | reverse
  deriving DecidableEq, Repr

def oppositeRideDirection : RideDirection → RideDirection
  | .forward => .reverse
  | .reverse => .forward

def safeId (value : String) : Bool :=
  (value.toList.all fun c => c.isAlphanum || c == '_' || c == '-') &&
    decide (1 ≤ value.toList.length) && decide (value.toList.length ≤ 128)

/-- An identifier that the database generates for a new document. -/
def isAutoId (value : String) : Bool :=
  (value.toList.all Char.isAlphanum) && decide (value.toList.length = 20)

/-- The key of a bus and a route: the id of its active ride and of its live
node.  Identifiers may contain the separator. -/
def activeRideId (busId routeId : String) : String :=
  busId ++ "_" ++ routeId

structure ServiceAssignment where
  driverId : String
  busId : String
  routeId : String
  deriving DecidableEq, Repr

def ServiceAssignment.rideId (assignment : ServiceAssignment) : String :=
  activeRideId assignment.busId assignment.routeId

inductive SessionStatus where
  | pending
  | armed
  | active
  | completed
  | interrupted
  | failed
  deriving DecidableEq, Repr

def SessionStatus.terminal : SessionStatus → Bool
  | .pending | .armed | .active => false
  | .completed | .interrupted | .failed => true

/-- A document of `ride_sessions`. -/
structure RideSession extends ServiceAssignment where
  status : SessionStatus
  direction : Option RideDirection
  terminalArrivalConfirmedAt : Option Nat := none
  automaticTurnaround : Bool := false
  previousSessionId : Option String := none

/-- A ride's lock in `_active_bus_locks`. -/
structure RideLock extends ServiceAssignment where
  sessionId : String
  direction : Option RideDirection

inductive BusLock where
  | ride (lock : RideLock)
  | firmware (deviceId routeId : String)

def BusLock.sessionId : BusLock → Option String
  | .ride lock => some lock.sessionId
  | .firmware _ _ => none

/-- `lock.data()?.sessionId`. -/
def lockSession (lock : Option BusLock) : Option String :=
  lock.bind BusLock.sessionId

structure Delay where
  delayMinutes : Nat
  delayUpdatedAt : Nat
  deriving DecidableEq, Repr

def Delay.zero : Delay :=
  { delayMinutes := 0
    delayUpdatedAt := 0 }

/-- The delay with the higher revision; the first one on a tie. -/
def Delay.newer (delay other : Delay) : Delay :=
  if other.delayUpdatedAt > delay.delayUpdatedAt then other else delay

/-- A document of `active_rides`; its status is always `active`. -/
structure ActiveRide (R : Type) extends ServiceAssignment, Delay where
  sessionId : String
  direction : RideDirection
  tripState : TripState
  currentStopIndex : Int
  hasDepartedOrigin : Bool
  terminalArrival : Option (TerminalArrivalEvidence R) := none
  gnssGapSince : Option R := none
  lastRouteVersion : Nat := 0
  automaticTurnaround : Bool := false
  previousSessionId : Option String := none

/-- A document of `_ride_session_creation_keys`. -/
structure CreationBinding extends ServiceAssignment where
  sessionId : String

/-- The checkpoint of a completed ride that an automatic return may consume. -/
structure TerminalJourney extends ServiceAssignment where
  sessionId : String
  direction : RideDirection
  directionEndpointVersion : Option String
  completedAt : Nat
  turnaroundEligibleAt : Nat
  consumedBy : Option String
  currentStopIndex : Int

/-- A document of `bus_locations`. -/
structure BusLocation where
  automaticServicePaused : Bool := false
  automaticServiceEpoch : Nat := 0
  terminalJourney : Option TerminalJourney := none

/-- A document of `completed_trips`. -/
structure CompletedTrip where
  busId : String
  driverId : Option String
  routeId : String
  direction : RideDirection
  completedAt : Nat
  automaticTurnaroundEligibleAt : Option Nat
  sessionId : Option String

inductive LiveStatus where
  | active
  | offline
  deriving DecidableEq, Repr

inductive DeviceState where
  | online
  | offline
  deriving DecidableEq, Repr

structure GnssGap (R : Type) where
  sessionId : String
  since : R

/-- A node of `activeBuses`. -/
structure LiveBus (R : Type) extends Delay where
  busId : String
  routeId : String
  driverId : Option String := none
  sessionId : Option String := none
  status : LiveStatus := .offline
  deviceState : DeviceState := .online
  tripState : Option TripState := none
  direction : Option RideDirection := none
  currentStopIndex : Option Int := none
  hasDepartedOrigin : Bool := false
  terminalArrival : Option (TerminalArrivalEvidence R) := none
  gnssGap : Option (GnssGap R) := none
  routeVersion : Nat := 0
  assignmentRevision : Nat := 0
  retiredAssignmentRevision : Option Nat := none
  automaticServicePaused : Bool := false
  serviceSetupPending : Bool := false
  automaticTurnaround : Bool := false
  previousSessionId : Option String := none
  completedAt : Option Nat := none
  turnaroundEligibleAt : Option Nat := none
  turnaroundClaimId : Option String := none
  turnaroundClaimedAt : Option Nat := none

/-- The node of a bus that has never reported. -/
def LiveBus.blank {R : Type} (busId routeId : String) : LiveBus R :=
  { Delay.zero with
    busId
    routeId }

/-- The node carries a session as an active, non-terminal ride. -/
def LiveBus.riding {R : Type} (live : LiveBus R) : Bool :=
  live.status == .active && live.tripState != some .completed

structure Driver where
  id : String
  assignedBusId : Option String
  enabled : Bool := true
  active : Bool := true

structure Bus where
  assignedRoutes : List String
  active : Bool := true
  automaticServiceEnabled : Bool := true

structure Device where
  enabled : Bool := true
  busId : String
  routeId : String
  assignmentRevision : Nat := 0

/-- A route, as far as its version and its end points are compared. -/
structure RouteDocument where
  version : Nat
  endpointSnapshotVersion : Option String
  deriving DecidableEq

/-- The fleet's configuration, which operators change at any time. -/
structure Registry where
  drivers : List Driver
  buses : String → Option Bus
  devices : String → Option Device
  routes : String → Option RouteDocument

def Registry.empty : Registry :=
  { drivers := []
    buses := fun _ => none
    devices := fun _ => none
    routes := fun _ => none }

def Registry.driver (registry : Registry) (driverId : String) :
    Option Driver :=
  registry.drivers.find? fun driver => driver.id == driverId

def Registry.serves (registry : Registry) (busId routeId : String) : Bool :=
  (registry.buses busId).any fun bus => bus.assignedRoutes.contains routeId

structure Firestore (R : Type) where
  sessions : String → Option RideSession
  locks : String → Option BusLock
  activeRides : String → Option (ActiveRide R)
  creationKeys : String → Option CreationBinding
  busLocations : String → BusLocation
  completedTrips : String → Option CompletedTrip

/-- Both stores: the documents, the live nodes and the configuration. -/
structure Store (R : Type) extends Firestore R where
  live : String → Option (LiveBus R)
  registry : Registry

def Store.empty {R : Type} : Store R :=
  { sessions := fun _ => none
    locks := fun _ => none
    activeRides := fun _ => none
    creationKeys := fun _ => none
    busLocations := fun _ => {}
    completedTrips := fun _ => none
    live := fun _ => none
    registry := .empty }

def Store.updateLive {R : Type} (store : Store R) (nodeKey : String)
    (update : Option (LiveBus R) → Option (LiveBus R)) : Store R :=
  { store with
    live := Function.update store.live nodeKey (update (store.live nodeKey)) }

/-- What the deployment fixes. -/
structure RideConfig (R : Type) where
  createHash : String → String
  automaticTurnaroundDwellMs : Nat
  terminalArrivalConfirmationMs : R

/-- What one step takes from outside both stores: the clock, the id that the
database proposes, the direction read off telemetry, and the outcome of the
one check on times or positions that the step makes. -/
structure Ambient where
  now : Nat := 0
  autoId : String := ""
  direction : Option RideDirection := none
  observed : Bool := true

/-- How a session came to be created. -/
inductive CreationOrigin where
  | manual
  | automatic (deviceId : String) (assignmentRevision generation : Nat)
  | turnaround (previousSessionId : String)
  deriving DecidableEq, Repr

/-- What a step did, for statements about whole runs; no step reads it. -/
inductive Event where
  | created (sessionId busId : String) (origin : CreationOrigin)
  | stopped (sessionId busId routeId : String) (pausedService : Bool)
  | delayAnnounced (delay : Delay)
  | completionPublished (sessionId : String) (completedAt eligibleAt : Nat)
  | rearmed (busId : String) (generation : Nat)
  | serviceResumed (busId : String)
  deriving DecidableEq, Repr

/-- A step leaves both stores, the rest of its request and what it did. -/
structure Outcome (R Request : Type) where
  store : Store R
  next : Option Request := none
  events : List Event := []

namespace Firestore

variable {R : Type} (firestore : Firestore R)

def statusOf (sessionId : String) : Option SessionStatus :=
  (firestore.sessions sessionId).map RideSession.status

/-- The session is stored and has not ended. -/
def isOpen (sessionId : String) : Bool :=
  (firestore.sessions sessionId).any fun session => !session.status.terminal

def hasEnded (sessionId : String) : Bool :=
  (firestore.sessions sessionId).any fun session => session.status.terminal

end Firestore

end Eki
