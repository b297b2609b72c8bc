import Eki.Library.ColdCache
import Eki.Ride.Records
import Eki.Trip.JsValue

/-!
# Transactions of live nodes

The callbacks with which live nodes are updated, over values of any shape.
-/

namespace Eki.Live

variable {R : Type} [JsNumber R]

/-! ## Values -/

/-- `Number(value)`; only numbers are converted here. -/
def toNumber (convert : JsValue R → R) : JsValue R → R
  | .number value => value
  | other => convert other

/-- The fields that `{ ...value }` has. -/
def ownFields : JsValue R → JsRecord R
  | .object fields => fields
  | .array items =>
    items.zipIdx.map fun item => (toString item.2, item.1)
  | .string text =>
    text.toList.zipIdx.map fun char => (toString char.2,
      .string (String.singleton char.1))
  | _ => []

/-- `typeof value === "object"` -/
def isObject : JsValue R → Bool
  | .null | .array _ | .object _ => true
  | _ => false

def isNull : JsValue R → Bool
  | .null => true
  | _ => false

/-- The text of a string that passes `SAFE_ID`. -/
def isSafeText : JsValue R → Bool
  | .string text => safeId text
  | _ => false

/-- `Number.isSafeInteger(value)` -/
def isSafeInteger : JsValue R → Bool
  | .number value => JsNumber.isSafeInteger value
  | _ => false

/-- `{ ".sv": "timestamp" }` -/
def serverTimestamp : JsValue R :=
  .object [(".sv", .string "timestamp")]

/-! ## An operator's delay -/

structure DelayUpdate (R : Type) where
  busId : String
  routeId : String
  driverId : String
  delayMinutes : R
  requestedAt : R
  expectedSessionId : Option String

/-- `current.status === "active"`, before or in service. -/
def servesRide (current : JsValue R) : Bool :=
  (current.field "status").isText "active" &&
    ((current.field "tripState").isText "pre_departure" ||
      (current.field "tripState").isText "in_service")

def updateDelay (request : DelayUpdate R) (value : JsValue R) :
    Option (JsValue R) :=
  if isNull value then some .null
  else if !value.truthy ||
      !(value.field "busId").isText request.busId ||
      !(value.field "routeId").isText request.routeId ||
      !(value.field "driverId").isText request.driverId ||
      !servesRide value || !isSafeText (value.field "sessionId") ||
      request.expectedSessionId.any fun expected =>
        expected != "" && !(value.field "sessionId").isText expected then
    none
  else
    let previousRevision : R :=
      match value.field "delayUpdatedAt" with
      | .number revision =>
        if JsNumber.isSafeInteger revision && decide (revision ≥ 0) &&
            decide (revision < JsNumber.ofNat 9007199254740991) then revision
        else 0
      | _ => 0
    some (.object ((ownFields value).spread [
      ("delayMinutes", .number request.delayMinutes),
      ("delayUpdatedAt", .number
        (JsNumber.max request.requestedAt (previousRevision + 1)))]))

/-! ## The end of a ride -/

def rideLifecycleFields : List String :=
  ["sessionId", "driverId", "direction", "directionState",
    "directionEndpointVersion", "directionFirestoreSynced", "originStopId",
    "destinationStopId", "tripState", "currentStopIndex",
    "hasDepartedOrigin", "gnssGap", "delayMinutes", "delayUpdatedAt",
    "automaticTurnaround", "previousSessionId", "completedAt",
    "turnaroundEligibleAt", "turnaroundSampledAt", "turnaroundClaimId",
    "turnaroundClaimedAt", "passengers", "stopsReached"]

def retireRideLifecycle (value : JsRecord R) : JsRecord R :=
  (value.withoutLiveRouteContext.without rideLifecycleFields).spread [
    ("status", .string "offline"),
    ("automaticServicePaused", .bool true),
    ("serviceSetupPending", .bool false),
    ("automaticServiceState", .string "paused"),
    ("lifecycleUpdatedAt", serverTimestamp)]

/-- The live update of a manual stop. -/
def retireStopped (sessionId : String) (value : JsValue R) :
    Option (JsValue R) :=
  if isNull value then some .null
  else if !isObject value then none
  else if !(value.field "sessionId").isText sessionId then none
  else some (.object (retireRideLifecycle (ownFields value)))

/-! ## Assignments -/

/-- The node is gone, belongs to another device or a later assignment, or
serves a ride. -/
def retirementRefused (convert : JsValue R → R) (deviceId : String)
    (revision : R) (current : JsValue R) : Bool :=
  !current.truthy ||
    ((current.field "deviceId").isString &&
      !(current.field "deviceId").isText deviceId) ||
    decide (toNumber convert
      ((current.field "assignmentRevision").orElse (.number 0)) ≥ revision) ||
    ((current.field "status").isText "active" &&
      (current.field "sessionId").isString &&
        (current.field "sessionId").truthy)

def retiredDevicePresence (convert : JsValue R → R) (deviceId : String)
    (revision : R) (current : JsValue R) : Option (JsValue R) :=
  if retirementRefused convert deviceId revision current then none
  else some (.object ((ownFields current).spread [
    ("deviceId", .string deviceId),
    ("retiredAssignmentRevision", .number revision),
    ("deviceState", .string "offline")]))

structure BlockedAssignment (R : Type) where
  busId : String
  routeId : String
  assignmentRevision : JsValue R

/-- The node is gone, has a ride, is another's, or says so already. -/
def blockedRefused (convert : JsValue R → R) (assignment : BlockedAssignment R)
    (state : String) (value : JsValue R) : Bool :=
  !value.truthy || (value.field "sessionId").truthy ||
    !(value.field "busId").isText assignment.busId ||
    !(value.field "routeId").isText assignment.routeId ||
    decide (toNumber convert (value.field "retiredAssignmentRevision") >
      toNumber convert (assignment.assignmentRevision.orElse (.number 0))) ||
    (value.field "automaticServiceState").isText state

def publishBlocked (convert : JsValue R → R) (assignment : BlockedAssignment R)
    (state : String) (value : JsValue R) : Option (JsValue R) :=
  if blockedRefused convert assignment state value then none
  else some (.object ((ownFields value).spread [
    ("automaticServiceState", .string state)]))

/-! ## Transactions of the worker -/

/-- A leadership; generations are counted from zero. -/
structure Fence (R : Type) [JsNumber R] where
  generation : R
  generation_nonneg : ¬ (0 : R) > generation
  /-- Whether `assert` passes. -/
  held : Bool

def workerRtdbTransaction (convert : JsValue R → R) (fence : Option (Fence R))
    (update : JsValue R → Option (JsValue R)) (current : JsValue R) :
    Option (JsValue R) :=
  match fence with
  | none => update current
  | some fence =>
    if !fence.held then none
    else if toNumber convert ((current.field "_workerGeneration").orElse
        (.number 0)) > fence.generation then none
    else
      (update current).map fun next =>
        if next.truthy && isObject next then
          .object ((ownFields next).spread [
            ("_workerGeneration", .number fence.generation)])
        else next

/-- Below this, a number counts seconds. -/
def secondsToMillisecondsCutoff : R :=
  JsNumber.ofNat 100000000000

/-- `timestampMillis` of a value that was read from a live node. -/
def timestampMillis (value : JsValue R) : Option R :=
  match value with
  | .number value =>
    if !JsNumber.isFinite value then none
    else if JsNumber.abs value < secondsToMillisecondsCutoff then
      some (value * 1000)
    else some value
  | .array _ | .object _ =>
    match (value.field "seconds").orElse (value.field "_seconds"),
        ((value.field "nanoseconds").orElse
          (value.field "_nanoseconds")).orElse (.number 0) with
    | .number seconds, .number nanoseconds =>
      if JsNumber.isFinite seconds && JsNumber.isFinite nanoseconds then
        some (seconds * 1000 + nanoseconds / 1000000)
      else none
    | _, _ => none
  | _ => none

def latestLiveBusActivity (record : JsValue R) : Option R :=
  let times := [record.field "timestamp", record.field "receivedAt",
    record.field "lifecycleUpdatedAt"].filterMap timestampMillis
  match times with
  | [] => none
  | first :: rest => some (rest.foldl JsNumber.max first)

def retireAbandoned (sessionId : String) (cutoff : R) (value : JsValue R) :
    Option (JsValue R) :=
  if isNull value then some .null
  else if !isObject value then none
  else if !(value.field "sessionId").isText sessionId then none
  else
    match latestLiveBusActivity value with
    | none => none
    | some activity => if activity > cutoff then none else some .null

def IDENTITY_FIELDS : List String :=
  ["timestamp", "seq", "backendReceivedAt", "busId", "routeId", "driverId",
    "sessionId", "status", "tripState"]

/-- The sweep of a node that was read as `data`. -/
def sweepStale (stopped : Bool) (data : JsRecord R) (current : JsValue R) :
    Option (JsValue R) :=
  if stopped then none
  else if isNull current then some .null
  else if !current.truthy || IDENTITY_FIELDS.any fun field =>
      !(current.field field).strictEq (data.get field) then none
  else if servesRide (.object data) then
    if (current.field "deviceState").isText "offline" then none
    else some (.object ((ownFields current).spread [
      ("deviceState", .string "offline"),
      ("signalState", .string "lost"),
      ("lifecycleUpdatedAt", serverTimestamp)]))
  else some .null

/-! ## Reroutes -/

structure RerouteRetry (R : Type) where
  failures : R
  nextAttemptAt : R

def readRerouteRetry (value : JsValue R) (context : String) :
    Option (RerouteRetry R) :=
  if !value.truthy || !isObject value then none
  else
    match value.field "failures", value.field "nextAttemptAt" with
    | .number failures, .number nextAttemptAt =>
      if (value.field "context").isText context &&
          (JsValue.number failures).isInteger && decide (failures > 0) &&
          decide (failures ≤ 32) && JsNumber.isSafeInteger nextAttemptAt &&
          decide (nextAttemptAt ≥ 0) then
        some ⟨failures, nextAttemptAt⟩
      else none
    | _, _ => none

/-- `2 ** exponent`, of a whole number up to 30. -/
def powerOfTwo (exponent : R) : R :=
  ((List.range 31).find? fun n => JsNumber.ofNat n == exponent).elim 1
    fun n => JsNumber.ofNat (Nat.pow 2 n)

/-- `Math.ceil` -/
def ceil (value : R) : R :=
  -JsNumber.floor (-value)

def rerouteBackoffMs (failures random : R) : R :=
  let ceiling := JsNumber.min 300000 (10000 *
    powerOfTwo (JsNumber.min 30 (JsNumber.max 0 (failures - 1))))
  ceil (ceiling * (1 / 2 + JsNumber.max 0 (JsNumber.min 1 random) * (1 / 2)))

structure RerouteClaim (R : Type) where
  context : String
  snapshotIsCurrent : Bool
  expectedVersion : R
  expectedSessionId : String
  direction : RideDirection
  requestId : String
  now : R
  jitter : R

def resolvedDirection : JsValue R → Option RideDirection
  | .string "forward" => some .forward
  | .string "reverse" => some .reverse
  | _ => none

def claimReroute (claim : RerouteClaim R) (current : JsValue R) :
    Option (JsValue R) :=
  if isNull current then some .null
  else
    let retry := readRerouteRetry (current.field "rerouteRetry") claim.context
    if !current.truthy || !claim.snapshotIsCurrent ||
        !(current.field "routeState").isText "OFF_ROUTE" ||
        !(current.field "routeVersion").strictEq
          (.number claim.expectedVersion) ||
        !(current.field "status").isText "active" ||
        !(current.field "tripState").isText "in_service" ||
        !(current.field "sessionId").isText claim.expectedSessionId ||
        resolvedDirection (current.field "direction") !=
          some claim.direction ||
        retry.any fun retry => decide (claim.now < retry.nextAttemptAt) then
      none
    else
      let failures := ((retry.map RerouteRetry.failures).getD 0) + 1
      some (.object ((ownFields current).spread [
        ("routeState", .string "REROUTING"),
        ("rerouteRequestId", .string claim.requestId),
        ("lastRerouteAttemptAt", .number claim.now),
        ("rerouteError", .null),
        ("rerouteRetry", .object [
          ("context", .string claim.context),
          ("failures", .number (JsNumber.min 32 failures)),
          ("nextAttemptAt", .number
            (claim.now + rerouteBackoffMs failures claim.jitter))])]))

end Eki.Live
