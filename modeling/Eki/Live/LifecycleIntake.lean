import Eki.Fleet.KnownLocations
import Eki.Fleet.Services
import Eki.Live.LiveTransactions

/-!
# The lifecycle intake

Every change of a live node is an event for the lifecycle engine.  The intake
drops an event whose fields have the fingerprint of the last one, and the
engine derives all that it does from the node of an event that it takes up:
what it asks the documents to keep, what it writes back to the node and what
it remembers of the fix.
-/

namespace Eki.Intake

open Fleet Live

variable {R : Type} [JsNumber R]

/-! ## The filter -/

/-- The fields that the filter compares. -/
def lifecycleFields : List String :=
  ["busId", "routeId", "driverId", "sessionId", "status", "tripState",
    "timestamp", "seq", "lat", "lng", "deviceState", "motionState",
    "direction", "currentStopIndex", "hasDepartedOrigin", "originStopId",
    "destinationStopId", "delayMinutes", "delayUpdatedAt",
    "turnaroundClaimId", "turnaroundEligibleAt", "turnaroundSampledAt",
    "gpsHdop", "speed", "terminalArrival", "gnssGap", "atStop",
    "unobservedStops"]

/-- The values whose text is the fingerprint of a node. -/
def lifecycleIntakeFingerprint (value : JsRecord R) : List (JsValue R) :=
  lifecycleFields.map fun field => (value.get field).orElse .null

/-- A live node as the database returns it: a field without a value is not
there. -/
structure LiveNode (R : Type) where
  fields : JsRecord R
  stored : ∀ field, fields.get field ≠ .null

/-! ## What the engine reads -/

structure NormalizedLiveBusData (R : Type) where
  busId : String
  routeId : String
  data : JsRecord R

def afterStart (start text : String) : Option String :=
  if start.toList.isPrefixOf text.toList then
    some (String.ofList (text.toList.drop start.toList.length))
  else none

def beforeEnd (ending text : String) : Option String :=
  if ending.toList.isSuffixOf text.toList then
    some (String.ofList
      (text.toList.take (text.toList.length - ending.toList.length)))
  else none

def identifierOf (text : Option String) : Option String :=
  text.bind fun found => normalizeIdentifier (R := R) (.string found)

def normalizeLiveBusData (value : JsRecord R) (nodeKey : String) :
    Option (NormalizedLiveBusData R) :=
  let ownBusId := normalizeIdentifier (value.get "busId")
  let ownRouteId := normalizeIdentifier (value.get "routeId")
  let busId := ownBusId.or (ownRouteId.bind fun routeId =>
    identifierOf (R := R) (beforeEnd ("_" ++ routeId) nodeKey))
  let routeId := ownRouteId.or (ownBusId.bind fun busId =>
    identifierOf (R := R) (afterStart (busId ++ "_") nodeKey))
  match busId, routeId with
  | some busId, some routeId =>
    some
      { busId
        routeId
        data :=
          if (value.get "busId").isText busId &&
              (value.get "routeId").isText routeId then
            value
          else
            value.spread
              [("busId", .string busId), ("routeId", .string routeId)] }
  | _, _ => none

def lifecycleDirection (data : JsRecord R) : Option RideDirection :=
  if (data.get "direction").isText "forward" then some .forward
  else if (data.get "direction").isText "reverse" then some .reverse
  else none

/-- `typeof value === "string" ? value : null` -/
def textOf : JsValue R → Option String
  | .string text => some text
  | _ => none

/-- `value === true` -/
def isTrue : JsValue R → Bool
  | .bool value => value
  | _ => false

/-- `value || other` -/
def orFalsy (value other : JsValue R) : JsValue R :=
  if value.truthy then value else other

def finiteOf : JsValue R → Option R
  | .number value => if JsNumber.isFinite value then some value else none
  | _ => none

def countOf (accepted : R → Bool) : JsValue R → R
  | .number value =>
    if JsNumber.isSafeInteger value && accepted value then value else 0
  | _ => 0

def delayRevision (value : JsValue R) : R :=
  countOf (fun revision => decide (revision ≥ 0)) value

def normalizedDelayMinutes (value : JsValue R) : R :=
  countOf (fun minutes => decide (minutes ≥ 0) && decide (minutes ≤ 1440))
    value

def lastRouteVersion (data : JsRecord R) : R :=
  countOf (fun version => decide (version > 0)) (data.get "routeVersion")

/-- Both coordinates are finite numbers. -/
def located (data : JsRecord R) : Option (TripRouteStop R) :=
  match finiteOf (data.get "lat"), finiteOf (data.get "lng") with
  | some lat, some lng => some { lat, lng }
  | _, _ => none

def liveGnssGapSince (data : JsRecord R) : Option R :=
  let gap := data.get "gnssGap"
  if (data.get "sessionId").isString &&
      (gap.field "sessionId").strictEq (data.get "sessionId") then
    finiteOf (gap.field "since")
  else none

/-- An index that a route can have. -/
def stopIndexOf (value : JsValue R) : Option R :=
  match value with
  | .number index =>
    if JsNumber.isSafeInteger index && decide (index ≥ 0) then some index
    else none
  | _ => none

def mergedStopIndices (existing : List (JsValue R)) (added : List R)
    (stopCount : Nat) : List R :=
  (((existing ++ added.map JsValue.number).filterMap stopIndexOf).filter
    fun index => decide (index < JsNumber.ofNat stopCount)).eraseDups
    |>.insertionSort (· ≤ ·)

def itemsOf : JsValue R → List (JsValue R)
  | .array items => items
  | .object fields => fields.map Prod.snd
  | _ => []

def liveUnobservedStops (data : JsRecord R) (stopCount : Nat) : List R :=
  let stops := data.get "unobservedStops"
  if (data.get "sessionId").isString &&
      (stops.field "sessionId").strictEq (data.get "sessionId") then
    mergedStopIndices (itemsOf (stops.field "indices")) [] stopCount
  else []

def liveAtStopIndex (data : JsRecord R) : Option R :=
  let stop := data.get "atStop"
  if (data.get "sessionId").isString &&
      (stop.field "sessionId").strictEq (data.get "sessionId") then
    stopIndexOf (stop.field "index")
  else none

/-! ## What the engine asks for -/

structure FleetLifecycleState where
  sessionId : Option String
  routeId : Option String
  driverId : Option String
  status : String
  deviceState : String
  tripState : String
  direction : Option RideDirection
  motionState : Option String
  deriving DecidableEq

def fleetLifecycleState (data : JsRecord R) : FleetLifecycleState :=
  { sessionId := normalizeIdentifier (data.get "sessionId")
    routeId := normalizeIdentifier (data.get "routeId")
    driverId := textOf (data.get "driverId")
    status := (textOf (data.get "status")).getD "active"
    deviceState := (textOf (data.get "deviceState")).getD "online"
    tripState := (textOf (data.get "tripState")).getD "pre_departure"
    direction := lifecycleDirection data
    motionState := textOf (data.get "motionState") }

/-- `persistFleetState`: the fix is kept for an offline receiver. -/
structure FleetWrite (R : Type) where
  busId : String
  sessionId : String
  state : FleetLifecycleState
  location : Option (KnownLocation R)

def fleetWrite (data : JsRecord R) : Option (FleetWrite R) :=
  match normalizeIdentifier (data.get "busId"),
    normalizeIdentifier (data.get "sessionId") with
  | some busId, some sessionId =>
    some
      { busId
        sessionId
        state := fleetLifecycleState data
        location :=
          if (data.get "deviceState").isText "offline" then
            journeyLocation data
          else none }
  | _, _ => none

/-- `persistOfflineFleetState` -/
structure OfflineWrite (R : Type) where
  busId : String
  sessionId : Option String
  state : FleetLifecycleState
  recordSignalLoss : Bool
  location : Option (KnownLocation R)

def offlineWrite (data : JsRecord R) : Option (OfflineWrite R) :=
  (normalizeIdentifier (data.get "busId")).map fun busId =>
    { busId
      sessionId := normalizeIdentifier (data.get "sessionId")
      state :=
        { fleetLifecycleState data with
          status := "offline"
          deviceState := "offline" }
      recordSignalLoss := (data.get "signalState").isText "lost"
      location := journeyLocation data }

/-- `restoreDurableRide` for a completed node. -/
structure RestoreAsk where
  busId : String
  routeId : String
  turnaroundClaimId : Option String
  deriving DecidableEq

/-- The return that a completed node is ready for. -/
structure TurnaroundAsk (R : Type) where
  busId : String
  routeId : String
  driverId : String
  previousSessionId : String
  previousDirection : RideDirection
  completedDestination : RouteStop R

structure ProcessedFix (R : Type) where
  timestamp : R
  position : TripRouteStop R
  gpsHdop : JsValue R
  motionState : JsValue R
  sessionId : JsValue R
  direction : RideDirection

/-- The input of the lifecycle reducer, before it is looked at. -/
structure ReducerInput (R : Type) where
  position : TripRouteStop R
  previousPosition : Option (ProcessedFix R)
  motionState : JsValue R
  currentTripState : JsValue R
  currentStopIndex : JsValue R
  stops : List (RouteStop R)
  hasDepartedOrigin : Bool
  terminalArrival : JsValue R
  gnssGapSince : Option R
  timestamp : R
  now : R
  gpsHdop : JsValue R
  speed : JsValue R
  heading : Option R

/-- The lifecycle of a ride, as reduced or as the node has it. -/
structure Reduced (R : Type) where
  tripState : JsValue R
  currentStopIndex : JsValue R
  hasDepartedOrigin : Bool
  terminalArrival : JsValue R
  gnssGapSince : Option R
  skippedStopIndices : List R
  unobservedStopIndices : List R

structure ActiveRideState (R : Type) where
  sessionId : String
  busId : JsValue R
  driverId : String
  routeId : JsValue R
  direction : RideDirection
  originStopId : Option String
  destinationStopId : Option String
  tripState : JsValue R
  currentStopIndex : JsValue R
  hasDepartedOrigin : Bool
  terminalArrival : JsValue R
  gnssGapSince : Option R
  hasTelemetry : Bool
  lastRouteVersion : R
  delayMinutes : R
  delayUpdatedAt : R

/-- `persistActiveRideLifecycle`, with what its transaction reads besides the
state. -/
structure ActiveRideWrite (R : Type) where
  documentId : String
  state : ActiveRideState R
  stops : List (RouteStop R)
  sampledAt : R
  previousStopIndex : R
  skippedStopIndices : List R
  unobservedStopIndices : List R
  location : Option (KnownLocation R)

/-- What the transaction of an active ride answers. -/
structure CommittedRide (R : Type) where
  tripState : JsValue R
  currentStopIndex : JsValue R
  hasDepartedOrigin : Bool
  terminalArrival : JsValue R

/-- What shows the stop that the bus is at. -/
structure VisitInput (R : Type) where
  position : TripRouteStop R
  motionState : JsValue R
  gpsHdop : JsValue R
  stops : List (RouteStop R)
  tripState : JsValue R
  currentStopIndex : JsValue R
  hasDepartedOrigin : Bool
  unobservedStopIndices : List R

/-- The guarded write of the live lifecycle fields. -/
structure LiveWrite (R : Type) where
  sessionId : Option String
  direction : RideDirection
  tripState : JsValue R
  currentStopIndex : JsValue R
  hasDepartedOrigin : Bool
  terminalArrival : JsValue R
  gnssGap : Option R
  atStop : Option R
  unobservedStops : List R

structure CompletionWrite (R : Type) where
  completionId : String
  documentId : Option String
  busId : String
  routeId : String
  driverId : JsValue R
  sessionId : Option String
  direction : RideDirection
  originStopId : Option String
  destinationStopId : Option String
  checkpointDriverId : Option String
  checkpointSessionId : Option String
  sampledAt : R
  previousStopIndex : R
  progress : Reduced R
  location : Option (KnownLocation R)

/-- Everything that the engine derives from the node of one event. -/
structure Processing (R : Type) where
  offline : Option (OfflineWrite R) := none
  restore : Option RestoreAsk := none
  turnaround : Option (TurnaroundAsk R) := none
  reducerInput : Option (ReducerInput R) := none
  activeRide : Option (ActiveRideWrite R) := none
  live : Option (LiveWrite R) := none
  completion : Option (CompletionWrite R) := none
  processed : Option (ProcessedFix R) := none
  fleet : Option (FleetWrite R) := none

/-- What the engine has besides the node: the clock, its route cache and the
last fix of the node, and how the documents answer. -/
structure EngineContext (R : Type) where
  nodeKey : String
  now : R
  routeStops : String → List (RouteStop R)
  processedTelemetry : Option (ProcessedFix R)
  restores : RestoreAsk → Bool
  arms : TurnaroundAsk R → Bool
  commit : ActiveRideWrite R → Option (CommittedRide R)
  completes : CompletionWrite R → Bool
  /-- `Number(value)` of a value that is no number. -/
  convert : JsValue R → R
  /-- `JSON.stringify(value)` -/
  stringify : JsValue R → String
  reduceTripState : ReducerInput R → Reduced R
  visitedStopIndex : VisitInput R → Option R

namespace EngineContext

variable (context : EngineContext R)

/-- `Number(value)` -/
def number (value : JsValue R) : R :=
  toNumber context.convert value

/-! ## Completed nodes -/

/-- A fresh, reliable and stopped fix at the destination after the dwell. -/
def automaticTurnaroundIsReady (data : JsRecord R)
    (destination : RouteStop R) : Bool :=
  let timestamp := context.number (data.get "timestamp")
  let eligibleAt := context.number (data.get "turnaroundEligibleAt")
  let minimumSample := context.number
    ((data.get "turnaroundSampledAt").orElse (data.get "turnaroundEligibleAt"))
  let position : TripRouteStop R :=
    { lat := context.number (data.get "lat")
      lng := context.number (data.get "lng") }
  JsNumber.isFinite context.now && JsNumber.isFinite timestamp &&
    JsNumber.isFinite eligibleAt && decide (eligibleAt > 0) &&
    decide (context.now ≥ eligibleAt) &&
    decide (timestamp ≥
      if JsNumber.isFinite minimumSample then minimumSample else eligibleAt) &&
    decide (timestamp ≤ context.now + 10000) &&
    decide (context.now - timestamp ≤ 60000) &&
    (data.get "motionState").isText "stopped" &&
    ((finiteOf (data.get "gpsHdop")).any fun hdop =>
      decide (hdop ≥ 0) && decide (hdop ≤ 4)) &&
    [position.lat, position.lng, destination.lat, destination.lng].all
      JsNumber.isFinite &&
    decide (haversineMeters position destination.toTripRouteStop ≤ 75)

/-- `maybeArmAutomaticTurnaround`, up to its claim. -/
def turnaround (data : JsRecord R) (naturalStops : List (RouteStop R)) :
    Option (TurnaroundAsk R) :=
  match lifecycleDirection data, normalizeIdentifier (data.get "sessionId"),
    normalizeIdentifier (data.get "busId"),
    normalizeIdentifier (data.get "routeId"),
    normalizeIdentifier (data.get "driverId") with
  | some previousDirection, some previousSessionId, some busId, some routeId,
      some driverId =>
      ((stopsInRideDirection naturalStops previousDirection).getLast?.filter
          (context.automaticTurnaroundIsReady data)).map
        fun completedDestination =>
          { busId, routeId, driverId, previousSessionId, previousDirection
            completedDestination }
  | _, _, _, _, _ => none

def restoreAsk (live : NormalizedLiveBusData R) : RestoreAsk :=
  { busId := live.busId
    routeId := live.routeId
    turnaroundClaimId := textOf (live.data.get "turnaroundClaimId") }

/-- The return that a completed node is asked to begin, unless its ride is
restored. -/
def nextReturn (live : NormalizedLiveBusData R) : Option (TurnaroundAsk R) :=
  if context.restores (restoreAsk live) || (located live.data).isNone then none
  else context.turnaround live.data (context.routeStops live.routeId)

/-- A completed node neither restores a ride nor begins its return. -/
def retires (live : NormalizedLiveBusData R) : Bool :=
  !context.restores (restoreAsk live) &&
    !(context.nextReturn live).any context.arms

def processCompleted (live : NormalizedLiveBusData R) : Processing R :=
  { restore := some (restoreAsk live)
    turnaround := context.nextReturn live
    offline :=
      if context.retires live then offlineWrite live.data else none }

/-! ## Rides -/

section Ride

variable (data : JsRecord R) (position : TripRouteStop R)
  (direction : RideDirection) (stops : List (RouteStop R))

/-- The last fix, if it is of the same ride. -/
def previousTelemetry : Option (ProcessedFix R) :=
  context.processedTelemetry.filter fun fix =>
    fix.sessionId.strictEq (data.get "sessionId") &&
      fix.direction == direction

def telemetryTimestamp : R :=
  context.number (data.get "timestamp")

def isNewTelemetry : Bool :=
  JsNumber.isFinite (context.telemetryTimestamp data) &&
    (context.previousTelemetry data direction).all fun previous =>
      decide (context.telemetryTimestamp data > previous.timestamp)

/-- `Number.isInteger(value) ? value : 0` -/
def integerOr0 (value : JsValue R) : JsValue R :=
  if value.isInteger then value else .number 0

def reducerInput : ReducerInput R :=
  let previous := context.previousTelemetry data direction
  { position
    previousPosition := previous
    motionState := orFalsy (data.get "motionState") (.string "moving")
    currentTripState := orFalsy (data.get "tripState") (.string "pre_departure")
    currentStopIndex := integerOr0 (data.get "currentStopIndex")
    stops
    hasDepartedOrigin := isTrue (data.get "hasDepartedOrigin")
    terminalArrival := data.get "terminalArrival"
    gnssGapSince :=
      (liveGnssGapSince data).or
        (if previous.isNone && (data.get "tripState").isText "in_service" then
          some (context.telemetryTimestamp data)
        else none)
    timestamp := context.telemetryTimestamp data
    now := context.now
    gpsHdop := data.get "gpsHdop"
    speed := data.get "speed"
    heading := finiteOf (data.get "heading") }

/-- The lifecycle that the node has. -/
def unreduced : Reduced R :=
  { tripState := data.get "tripState"
    currentStopIndex := data.get "currentStopIndex"
    hasDepartedOrigin := isTrue (data.get "hasDepartedOrigin")
    terminalArrival := (data.get "terminalArrival").orElse .null
    gnssGapSince := liveGnssGapSince data
    skippedStopIndices := []
    unobservedStopIndices := [] }

def reduced : Reduced R :=
  if context.isNewTelemetry data direction then
    context.reduceTripState
      (context.reducerInput data position direction stops)
  else unreduced data

def freshFix : Bool :=
  JsNumber.isFinite (context.telemetryTimestamp data) &&
    decide (JsNumber.abs (context.now - context.telemetryTimestamp data) ≤
      60000)

/-- The old fix of a receiver that was swept offline. -/
def offlineReplay : Bool :=
  (data.get "deviceState").isText "offline" && !context.freshFix data

/-- `persistActiveRideLifecycle` -/
def activeRideWrite (progress : Reduced R) : Option (ActiveRideWrite R) :=
  match normalizeIdentifier (data.get "busId"),
    normalizeIdentifier (data.get "routeId"),
    normalizeIdentifier (data.get "sessionId"), textOf (data.get "driverId"),
    lifecycleDirection data with
  | some busId, some routeId, some sessionId, some driverId, some direction =>
    if !(data.get "status").isText "active" then none
    else
      some
        { documentId := busId ++ "_" ++ routeId
          state :=
            { sessionId
              busId := data.get "busId"
              driverId
              routeId := data.get "routeId"
              direction
              originStopId := normalizeIdentifier (data.get "originStopId")
              destinationStopId :=
                normalizeIdentifier (data.get "destinationStopId")
              tripState := progress.tripState
              currentStopIndex := progress.currentStopIndex
              hasDepartedOrigin := progress.hasDepartedOrigin
              terminalArrival := progress.terminalArrival.orElse .null
              gnssGapSince := progress.gnssGapSince
              hasTelemetry := (journeyLocation data).isSome
              lastRouteVersion := lastRouteVersion data
              delayMinutes := normalizedDelayMinutes (data.get "delayMinutes")
              delayUpdatedAt := delayRevision (data.get "delayUpdatedAt") }
          stops
          sampledAt := context.telemetryTimestamp data
          previousStopIndex := context.number (data.get "currentStopIndex")
          skippedStopIndices := progress.skippedStopIndices
          unobservedStopIndices := progress.unobservedStopIndices
          location := journeyLocation data }
  | _, _, _, _, _ => none

/-- The ride is written durably: it is under way, and not replayed from an old
fix. -/
def commits (progress : Reduced R) : Bool :=
  (progress.tripState.isText "pre_departure" ||
      progress.tripState.isText "in_service") &&
    !context.offlineReplay data

def durableWrite (progress : Reduced R) : Option (ActiveRideWrite R) :=
  if context.commits data progress then
    context.activeRideWrite data stops progress
  else none

def committed (progress : Reduced R) : Reduced R :=
  match (context.durableWrite data stops progress).bind context.commit with
  | none => progress
  | some checkpoint =>
    { progress with
      tripState := checkpoint.tripState
      currentStopIndex := checkpoint.currentStopIndex
      hasDepartedOrigin := checkpoint.hasDepartedOrigin
      terminalArrival := checkpoint.terminalArrival }

def unobservedStops (progress : Reduced R) : List R :=
  (mergedStopIndices
      ((liveUnobservedStops data stops.length).map JsValue.number)
      (progress.skippedStopIndices ++ progress.unobservedStopIndices)
      stops.length).filter fun index =>
    decide (index < context.number progress.currentStopIndex)

def atStopIndex (progress : Reduced R) : Option R :=
  if context.freshFix data then
    context.visitedStopIndex
      { position
        motionState := orFalsy (data.get "motionState") (.string "moving")
        gpsHdop := data.get "gpsHdop"
        stops
        tripState := progress.tripState
        currentStopIndex := progress.currentStopIndex
        hasDepartedOrigin := progress.hasDepartedOrigin
        unobservedStopIndices := context.unobservedStops data stops progress }
  else none

def liveStateChanged (progress : Reduced R) : Bool :=
  !progress.tripState.strictEq (data.get "tripState") ||
    !progress.currentStopIndex.strictEq (data.get "currentStopIndex") ||
    progress.hasDepartedOrigin != isTrue (data.get "hasDepartedOrigin") ||
    context.stringify (progress.terminalArrival.orElse .null) !=
      context.stringify ((data.get "terminalArrival").orElse .null) ||
    progress.gnssGapSince != liveGnssGapSince data ||
    context.atStopIndex data position stops progress !=
      liveAtStopIndex data ||
    context.unobservedStops data stops progress !=
      liveUnobservedStops data stops.length

def liveWrite (progress : Reduced R) : Option (LiveWrite R) :=
  if !context.liveStateChanged data position stops progress ||
      progress.tripState.isText "completed" then
    none
  else
    let sessionId := textOf (data.get "sessionId")
    some
      { sessionId
        direction
        tripState := progress.tripState
        currentStopIndex := progress.currentStopIndex
        hasDepartedOrigin := progress.hasDepartedOrigin
        terminalArrival := progress.terminalArrival.orElse .null
        gnssGap := sessionId.bind fun _ => progress.gnssGapSince
        atStop :=
          sessionId.bind fun _ =>
            context.atStopIndex data position stops progress
        unobservedStops :=
          if sessionId.isSome then
            context.unobservedStops data stops progress
          else [] }

end Ride

def completionWrite (live : NormalizedLiveBusData R)
    (direction : RideDirection) (stops : List (RouteStop R))
    (progress : Reduced R) : Option (CompletionWrite R) :=
  let data := live.data
  if !progress.tripState.isText "completed" then none
  else
    let sessionId := textOf (data.get "sessionId")
    some
      { completionId := (sessionId.filter (· != "")).getD context.nodeKey
        documentId :=
          match normalizeIdentifier (data.get "busId"),
            normalizeIdentifier (data.get "routeId") with
          | some busId, some routeId => some (busId ++ "_" ++ routeId)
          | _, _ => none
        busId := live.busId
        routeId := live.routeId
        driverId := orFalsy (data.get "driverId") (.string "unknown")
        sessionId
        direction
        originStopId :=
          (normalizeIdentifier (data.get "originStopId")).or
            (stops.head?.map RouteStop.id)
        destinationStopId :=
          (normalizeIdentifier (data.get "destinationStopId")).or
            (stops.getLast?.map RouteStop.id)
        checkpointDriverId := normalizeIdentifier (data.get "driverId")
        checkpointSessionId := normalizeIdentifier (data.get "sessionId")
        sampledAt := context.number (data.get "timestamp")
        previousStopIndex := context.number (data.get "currentStopIndex")
        progress
        location := journeyLocation data }

def processedFix (data : JsRecord R) (position : TripRouteStop R)
    (direction : RideDirection) : Option (ProcessedFix R) :=
  if context.isNewTelemetry data direction then
    some
      { timestamp := context.telemetryTimestamp data
        position
        gpsHdop := data.get "gpsHdop"
        motionState := data.get "motionState"
        sessionId := data.get "sessionId"
        direction }
  else none

def processRide (live : NormalizedLiveBusData R)
    (position : TripRouteStop R) (direction : RideDirection) : Processing R :=
  let data := live.data
  let stops :=
    stopsInRideDirection (context.routeStops live.routeId) direction
  let reduced := context.reduced data position direction stops
  let progress := context.committed data stops reduced
  let completion := context.completionWrite live direction stops progress
  let ride : Processing R :=
    { reducerInput :=
        if context.isNewTelemetry data direction then
          some (context.reducerInput data position direction stops)
        else none
      activeRide := context.durableWrite data stops reduced
      live := context.liveWrite data position direction stops progress
      completion }
  if completion.all context.completes then
    { ride with
      processed := context.processedFix data position direction
      fleet := fleetWrite (data.spread [("tripState", progress.tripState)]) }
  else ride

/-! ## Events -/

/-- The node is out of service. -/
def isOffline (data : JsRecord R) : Bool :=
  (data.get "status").isText "offline" &&
    !(data.get "tripState").isText "completed"

/-- `processLiveSnapshot`, of a node whose identifiers are known. -/
def processLive (live : NormalizedLiveBusData R) : Processing R :=
  if isOffline live.data then { offline := offlineWrite live.data }
  else if (live.data.get "tripState").isText "completed" then
    context.processCompleted live
  else
    match located live.data, lifecycleDirection live.data with
    | none, _ => { }
    | some _, none => { fleet := fleetWrite live.data }
    | some position, some direction =>
      context.processRide live position direction

def processLiveSnapshot (value : JsRecord R) : Processing R :=
  match normalizeLiveBusData value context.nodeKey with
  | none => { }
  | some live => context.processLive live

def after (value : JsRecord R) : EngineContext R :=
  { context with
    processedTelemetry :=
      (context.processLiveSnapshot value).processed.or
        context.processedTelemetry }

end EngineContext

end Eki.Intake
