import Eki.Library.Documents
import Eki.Ride.Records
import Eki.Routing.RouteSaves

/-!
# Services and the fleet's documents

The documents that rides, route edits and fleet edits share, and the
transactions that create, list and complete a ride.  A session keeps the end
points of its route from the moment its direction is known; a start compares
the route that it read with the one stored when it claims the lock of the bus,
while a return takes its stops from the worker's memory.
-/

namespace Eki.Fleet

open Documents

variable {R : Type}

/-! ## End points -/

/-- One stop in an endpoint version: its id and its position to six decimals. -/
structure EndpointPart where
  id : String
  lat : String
  lng : String
  deriving DecidableEq

/-- The parts of an endpoint version.  The source joins them to one text, which
determines them: a stop's id has no separator in it. -/
abbrev EndpointVersion := List EndpointPart

/-- `toFixed` writes a number to six decimals. -/
def endpointSnapshotVersion [JsNumber R] (toFixed : R → String)
    (stops : List (RouteStop R)) : Option EndpointVersion :=
  if stops.length < 2 then none
  else if stops.all fun stop =>
      JsNumber.isFinite stop.lat && JsNumber.isFinite stop.lng then
    some (stops.map fun stop =>
      { id := stop.id, lat := toFixed stop.lat, lng := toFixed stop.lng })
  else none

def stopsInRideDirection {α : Type} (stops : List α) : RideDirection → List α
  | .forward => stops
  | .reverse => stops.reverse

/-- What a session, a lock or an active ride keeps of its route. -/
structure Endpoints where
  originStopId : Option String := none
  destinationStopId : Option String := none
  directionEndpointVersion : Option EndpointVersion := none
  deriving DecidableEq

/-- The end points of a route in a direction; there are none while the
direction is pending. -/
def endpointsIn [JsNumber R] (toFixed : R → String)
    (naturalStops : List (RouteStop R)) : Option RideDirection → Endpoints
  | none => { }
  | some direction =>
    let stops := stopsInRideDirection naturalStops direction
    { originStopId := stops.head?.map RouteStop.id
      destinationStopId := stops.getLast?.map RouteStop.id
      directionEndpointVersion :=
        endpointSnapshotVersion toFixed naturalStops }

variable {toFixed : R → String}

variable {version : EndpointVersion}

theorem ids_of_endpointSnapshotVersion [JsNumber R]
    {stops : List (RouteStop R)}
    (has : endpointSnapshotVersion toFixed stops = some version) :
    stops.map RouteStop.id = version.map EndpointPart.id := by
  unfold endpointSnapshotVersion at has
  split at has
  · cases has
  · split at has
    · cases has
      rw [List.map_map]
      rfl
    · cases has

theorem endpointsIn_congr [JsNumber R] {first second : List (RouteStop R)}
    (left : endpointSnapshotVersion toFixed first = some version)
    (right : endpointSnapshotVersion toFixed second = some version)
    (direction : Option RideDirection) :
    endpointsIn toFixed first direction =
      endpointsIn toFixed second direction := by
  have ids : first.map RouteStop.id = second.map RouteStop.id := by
    rw [ids_of_endpointSnapshotVersion left,
      ids_of_endpointSnapshotVersion right]
  have heads := congrArg List.head? ids
  have lasts := congrArg List.getLast? ids
  rw [List.head?_map, List.head?_map] at heads
  rw [List.getLast?_map, List.getLast?_map] at lasts
  cases direction with
  | none => rfl
  | some direction =>
    cases direction with
    | forward =>
      simp only [endpointsIn, stopsInRideDirection, left, right, heads, lasts]
    | reverse =>
      simp only [endpointsIn, stopsInRideDirection, left, right,
        List.head?_reverse, List.getLast?_reverse, heads, lasts]

/-! ## Documents -/

/-- A document of `buses`; `assignedRouteId` is an older form. -/
structure BusDocument where
  name : String
  assignedRoutes : Option (List String)
  assignedRouteId : Option String := none
  deriving DecidableEq

def BusDocument.routes (bus : BusDocument) : List String :=
  bus.assignedRoutes.getD bus.assignedRouteId.toList

/-- A document of `drivers`. -/
structure DriverDocument where
  name : String
  authUid : String
  assignedBusId : Option String
  deriving DecidableEq

/-- A document of `devices`, as far as its assignment is read. -/
structure DeviceDocument where
  busId : String
  routeId : String

/-- A document of `ride_sessions`. -/
structure ServiceSession extends ServiceAssignment, Endpoints where
  status : SessionStatus
  direction : Option RideDirection
  terminalArrivalConfirmedAt : Option Nat := none

/-- A document of `active_rides`. -/
structure ServiceRide extends ServiceAssignment, Endpoints where
  sessionId : String
  direction : RideDirection

/-- The checkpoint of a completed ride in `bus_locations`. -/
structure ReturnCheckpoint extends ServiceAssignment where
  sessionId : String
  direction : RideDirection
  directionEndpointVersion : Option EndpointVersion
  consumedBy : Option String := none

/-- The route that a lock of either kind names. -/
def lockedRoute : BusLock → String
  | .ride lock => lock.routeId
  | .firmware _ routeId => routeId

structure ServiceStore where
  buses : Collection BusDocument
  drivers : Collection DriverDocument
  devices : Collection DeviceDocument
  sessions : Collection ServiceSession
  locks : Collection BusLock
  activeRides : Collection ServiceRide
  checkpoints : Collection ReturnCheckpoint

namespace ServiceStore

variable (store : ServiceStore)

def empty : ServiceStore where
  buses := ∅
  drivers := ∅
  devices := ∅
  sessions := ∅
  locks := ∅
  activeRides := ∅
  checkpoints := ∅

def serves (busId routeId : String) : Bool :=
  (store.buses.lookup busId).any fun bus => bus.routes.contains routeId

def operates (driverId busId : String) : Bool :=
  (store.drivers.lookup driverId).any fun driver =>
    driver.assignedBusId == some busId

def isOpen (sessionId : String) : Bool :=
  (store.sessions.lookup sessionId).any fun session =>
    !session.status.terminal

end ServiceStore

/-! ## Starts -/

structure RouteRead (R : Type) where
  configVersion : Nat
  naturalStops : List (RouteStop R)

/-- The read before the lock transaction; `none` when it throws. -/
def readRoute [JsNumber R] (toFixed : R → String)
    (route : Option (RouteData R)) : Option (RouteRead R) :=
  route.bind fun data =>
    if (endpointSnapshotVersion toFixed data.stops).isNone then none
    else
      some
        { configVersion := routeDocumentVersion route
          naturalStops := data.stops }

/-- What a start holds after its lock transaction. -/
structure StartClaim where
  sessionId : String
  created : Bool
  direction : Option RideDirection

def RouteRead.holds [JsNumber R] (toFixed : R → String) (read : RouteRead R)
    (latest : Option (RouteData R)) : Bool :=
  routeDocumentVersion latest == read.configVersion &&
    endpointSnapshotVersion toFixed (latest.elim [] RouteData.stops) ==
      endpointSnapshotVersion toFixed read.naturalStops

variable {read : RouteRead R}

theorem endpoints_of_readRoute [JsNumber R] {route : Option (RouteData R)}
    (reads : readRoute toFixed route = some read) :
    (endpointSnapshotVersion toFixed read.naturalStops).isSome = true := by
  obtain ⟨data, _, reads⟩ := Option.bind_eq_some_iff.mp reads
  split at reads
  · cases reads
  · rename_i valid
    cases reads
    rw [Option.isNone_iff_eq_none] at valid
    exact Option.isSome_iff_ne_none.mpr valid

variable {latest : Option (RouteData R)}

theorem RouteRead.endpoints_of_holds [JsNumber R]
    (valid : (endpointSnapshotVersion toFixed read.naturalStops).isSome = true)
    (holds : read.holds toFixed latest = true) :
    ∃ route, latest = some route ∧ ∀ direction,
      endpointsIn toFixed read.naturalStops direction =
        endpointsIn toFixed route.stops direction := by
  unfold RouteRead.holds at holds
  rw [Bool.and_eq_true, beq_iff_eq, beq_iff_eq] at holds
  obtain ⟨_, same⟩ := holds
  obtain ⟨version, has⟩ := Option.isSome_iff_exists.mp valid
  cases latest with
  | none =>
    rw [has] at same
    cases same
  | some route =>
    refine ⟨route, rfl, ?_⟩
    intro direction
    rw [has] at same
    exact endpointsIn_congr has same direction

def createSession (assignment : ServiceAssignment) (endpoints : Endpoints)
    (direction : Option RideDirection) (sessionId : String)
    (store : ServiceStore) : Option (ServiceStore × StartClaim) :=
  if (store.sessions.lookup sessionId).isSome then none
  else
    some
      ({ store with
          sessions := store.sessions.insert sessionId
            { toServiceAssignment := assignment
              toEndpoints := endpoints
              status := .pending
              direction }
          locks := store.locks.insert assignment.busId
            (.ride { toServiceAssignment := assignment, sessionId, direction })
          checkpoints := store.checkpoints.erase assignment.busId },
        { sessionId, created := true, direction })

/-- The ride that holds the lock is taken up again, and learns its direction
when it had none. -/
def reuseLock [JsNumber R] (toFixed : R → String)
    (assignment : ServiceAssignment) (naturalStops : List (RouteStop R))
    (requested : Option RideDirection) (lock : RideLock)
    (store : ServiceStore) : Option (ServiceStore × StartClaim) :=
  if lock.driverId != assignment.driverId ||
      lock.routeId != assignment.routeId then none
  else
    match store.sessions.lookup lock.sessionId with
    | none => none
    | some session =>
      if session.status.terminal ||
          (session.direction.isSome && requested.isSome &&
            session.direction != requested) then none
      else if session.direction.isNone && requested.isSome then
        some
          ({ store with
              sessions := store.sessions.insert lock.sessionId
                { session with
                  toEndpoints := endpointsIn toFixed naturalStops requested
                  direction := requested }
              locks := store.locks.insert assignment.busId
                (.ride { lock with direction := requested }) },
            { sessionId := lock.sessionId
              created := false
              direction := requested })
      else
        some (store,
          { sessionId := lock.sessionId
            created := false
            direction := session.direction })

/-- The lock transaction of `startAssignedService`; `none` when it throws or
answers null.  What its idempotency key, its admission and the live node may
refuse besides changes nothing. -/
def claimLock [JsNumber R] (toFixed : R → String)
    (assignment : ServiceAssignment) (read : RouteRead R)
    (requested : Option RideDirection) (sessionId : String)
    (latest : Option (RouteData R)) (store : ServiceStore) :
    Option (ServiceStore × StartClaim) :=
  if !read.holds toFixed latest then none
  else
    match store.locks.lookup assignment.busId with
    | none =>
      createSession assignment
        (endpointsIn toFixed read.naturalStops requested) requested sessionId
        store
    | some (.firmware _ _) => none
    | some (.ride lock) =>
      reuseLock toFixed assignment read.naturalStops requested lock store

variable {store next : ServiceStore}

theorem session_of_claimLock [JsNumber R] {assignment : ServiceAssignment}
    {requested : Option RideDirection} {sessionId : String}
    {claim : StartClaim}
    (claims : claimLock toFixed assignment read requested sessionId latest
      store = some (next, claim)) (created : claim.created = true) :
    read.holds toFixed latest = true ∧
      ∀ session, next.sessions.lookup claim.sessionId = some session →
        session.toEndpoints =
          endpointsIn toFixed read.naturalStops session.direction := by
  unfold claimLock at claims
  split at claims
  · cases claims
  · rename_i holds
    refine ⟨by simpa using holds, ?_⟩
    split at claims
    · unfold createSession at claims
      split at claims
      · cases claims
      · cases claims
        intro session stored
        rw [AList.lookup_insert] at stored
        cases stored
        rfl
    · cases claims
    · -- A lock that is taken up again creates nothing.
      unfold reuseLock at claims
      split at claims
      · cases claims
      · split at claims
        · cases claims
        · split at claims
          · cases claims
          · split at claims <;> cases claims <;> cases created

/-- The writes at the end of a start. -/
structure ServiceProjection extends ServiceAssignment, Endpoints where
  sessionId : String
  status : SessionStatus
  direction : Option RideDirection

def StartClaim.projection [JsNumber R] (toFixed : R → String)
    (assignment : ServiceAssignment) (read : RouteRead R) (inService : Bool)
    (claim : StartClaim) : ServiceProjection where
  toServiceAssignment := assignment
  toEndpoints := endpointsIn toFixed read.naturalStops claim.direction
  sessionId := claim.sessionId
  status :=
    if claim.direction.isNone then .pending
    else if inService then .active
    else .armed
  direction := claim.direction

namespace ServiceProjection

variable (projection : ServiceProjection)

/-- The active ride, once the direction is known. -/
def listed (rides : Collection ServiceRide) : Collection ServiceRide :=
  match projection.direction with
  | none => rides
  | some direction =>
    rides.insert projection.rideId
      { toServiceAssignment := projection.toServiceAssignment
        toEndpoints := projection.toEndpoints
        sessionId := projection.sessionId
        direction }

/-- `batch.commit()`, for a start without an idempotency key. -/
def commitBatch (store : ServiceStore) : ServiceStore :=
  { store with
    sessions := store.sessions.modify projection.sessionId fun session =>
      { session with
        toEndpoints := projection.toEndpoints
        status := projection.status
        direction := projection.direction }
    activeRides := projection.listed store.activeRides }

/-- `commitCreationProjections`: an ended session or another session's ride
refuses it, and what the session has already become survives. -/
def commitCreationProjections (store : ServiceStore) : Option ServiceStore :=
  match store.sessions.lookup projection.sessionId with
  | none => none
  | some session =>
    if session.status.terminal ||
        (projection.direction.isSome &&
          (store.activeRides.lookup projection.rideId).any fun ride =>
            ride.sessionId != projection.sessionId) then none
    else
      some
        { store with
          sessions := store.sessions.insert projection.sessionId
            { session with
              toEndpoints :=
                if session.direction.isSome then session.toEndpoints
                else projection.toEndpoints
              status :=
                if session.status == .active then .active
                else if session.status == .armed &&
                    projection.status == .pending then .armed
                else projection.status
              direction := session.direction <|> projection.direction }
          activeRides := projection.listed store.activeRides }

end ServiceProjection

/-! ## Completions and returns -/

/-- What the engine holds of a ride at its last stop. -/
structure ArrivedService extends ServiceAssignment where
  sessionId : String
  direction : RideDirection

/-- The completion transaction; `none` when another one has won. -/
def completeRide [JsNumber R] (toFixed : R → String)
    (naturalStops : List (RouteStop R)) (arrived : ArrivedService) (now : Nat)
    (store : ServiceStore) : Option ServiceStore :=
  match store.sessions.lookup arrived.sessionId with
  | none => none
  | some session =>
    if lockSession (store.locks.lookup arrived.busId) !=
          some arrived.sessionId ||
        session.status.terminal then none
    else
      let ride := store.activeRides.lookup arrived.rideId
      some
        { store with
          sessions := store.sessions.insert arrived.sessionId
            { session with
              status := .completed
              terminalArrivalConfirmedAt := some now }
          activeRides :=
            if ride.any (·.sessionId == arrived.sessionId) then
              store.activeRides.erase arrived.rideId
            else store.activeRides
          locks := store.locks.erase arrived.busId
          checkpoints := store.checkpoints.insert arrived.busId
            { toServiceAssignment := arrived.toServiceAssignment
              sessionId := arrived.sessionId
              direction := arrived.direction
              directionEndpointVersion :=
                endpointSnapshotVersion toFixed naturalStops } }

/-- A return in flight: the completed ride, the stops that the worker had in
memory and the id of the session to come. -/
structure Turnaround (R : Type) extends ServiceAssignment where
  previousSessionId : String
  previousDirection : RideDirection
  naturalStops : List (RouteStop R)
  sessionId : String

namespace Turnaround

variable [JsNumber R] (toFixed : R → String) (turnaround : Turnaround R)

def direction : RideDirection :=
  oppositeRideDirection turnaround.previousDirection

def follows (completed : ServiceSession) : Bool :=
  completed.status == .completed &&
    completed.direction == some turnaround.previousDirection &&
    completed.terminalArrivalConfirmedAt.isSome &&
    completed.toServiceAssignment == turnaround.toServiceAssignment

/-- The checkpoint is this ride's, unconsumed and of these stops. -/
def mayConsume (checkpoint : ReturnCheckpoint) : Bool :=
  checkpoint.sessionId == turnaround.previousSessionId &&
    checkpoint.direction == turnaround.previousDirection &&
    checkpoint.consumedBy.isNone &&
    checkpoint.directionEndpointVersion ==
      endpointSnapshotVersion toFixed turnaround.naturalStops

/-- The session that the return creates. -/
def session : ServiceSession where
  toServiceAssignment := turnaround.toServiceAssignment
  toEndpoints :=
    endpointsIn toFixed turnaround.naturalStops (some turnaround.direction)
  status := .armed
  direction := some turnaround.direction

/-- The checks of the transaction that creates the session. -/
def mayReturn (store : ServiceStore) : Bool :=
  (store.checkpoints.lookup turnaround.busId).any
      (turnaround.mayConsume toFixed) &&
    (store.locks.lookup turnaround.busId).isNone &&
    (store.sessions.lookup turnaround.previousSessionId).any
      turnaround.follows &&
    store.operates turnaround.driverId turnaround.busId &&
    store.serves turnaround.busId turnaround.routeId &&
    (store.sessions.lookup turnaround.sessionId).isNone

/-- The transaction of `maybeArmAutomaticTurnaround`; `none` when it answers
false. -/
def create (store : ServiceStore) : Option ServiceStore :=
  if turnaround.mayReturn toFixed store then
    some
      { store with
        sessions := store.sessions.insert turnaround.sessionId
          (turnaround.session toFixed)
        locks := store.locks.insert turnaround.busId
          (.ride
            { toServiceAssignment := turnaround.toServiceAssignment
              sessionId := turnaround.sessionId
              direction := some turnaround.direction })
        activeRides := store.activeRides.insert turnaround.rideId
          { toServiceAssignment := turnaround.toServiceAssignment
            toEndpoints := (turnaround.session toFixed).toEndpoints
            sessionId := turnaround.sessionId
            direction := turnaround.direction }
        checkpoints := store.checkpoints.modify turnaround.busId
          fun checkpoint =>
            { checkpoint with consumedBy := some turnaround.sessionId } }
  else none

variable {toFixed} {turnaround}

theorem session_of_create
    (creates : turnaround.create toFixed store = some next) :
    turnaround.mayReturn toFixed store = true ∧
      next.sessions.lookup turnaround.sessionId =
        some (turnaround.session toFixed) := by
  unfold create at creates
  split at creates
  · rename_i may
    cases creates
    exact ⟨may, AList.lookup_insert _⟩
  · cases creates

end Turnaround

end Eki.Fleet
