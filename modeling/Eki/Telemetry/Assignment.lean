import Mathlib.Data.List.AList
import Eki.Library.Transition
import Eki.Telemetry.Presence

/-!
# Device assignments

The registry assigns each device to a bus and a route under a revision.  A
reassignment records the old assignment as a pending retirement; after the
transaction the handler leaves a tombstone on the old live node and then clears
the record.  A telemetry request commits under the assignment that its
credentials were checked against, however long ago that was.
-/

namespace Eki

open Transition
open Function (update)

/-- The assignment that a device has left, and the revision that replaced
it. -/
structure AssignmentRetirement where
  busId : String
  routeId : String
  revision : Nat
  deriving DecidableEq

def AssignmentRetirement.nodeKey (retirement : AssignmentRetirement) : String :=
  activeRideId retirement.busId retirement.routeId

/-- A document of `devices`; every writer of one sets its bus and route. -/
structure RegisteredDevice where
  busId : String
  routeId : String
  enabled : Bool := true
  assignmentRevision : Option Nat := none
  pendingAssignmentRetirement : Option AssignmentRetirement := none
  deriving DecidableEq

abbrev DeviceRegistry := AList fun _ : String => RegisteredDevice

/-- `Number.MAX_SAFE_INTEGER`. -/
def maxSafeRevision : Nat := 9007199254740991

/-- A revision that is missing or not a safe integer counts as none. -/
def RegisteredDevice.revision (device : RegisteredDevice) : Nat :=
  (device.assignmentRevision.filter fun revision =>
    decide (revision ≤ maxSafeRevision)).getD 0

structure AssignmentRequest where
  deviceId : String
  busId : String
  routeId : String
  requestedEnabled : Option Bool

/-- What the transaction reads outside the registry. -/
structure AssignmentReads where
  /-- The bus and the route exist and the route is assigned to the bus. -/
  validAssignment : Bool
  targetRide : Bool
  targetLock : Bool
  previousRide : Bool
  previousLock : Bool

inductive AssignmentRefusal where
  | invalidRequest
  | invalidAssignment
  | retirementPending
  | targetConflict
  | activePreviousRide
  | invalidRevision
  deriving DecidableEq

def targetOwnedByAnotherDevice (registry : DeviceRegistry)
    (deviceId busId routeId : String) : Bool :=
  registry.entries.any fun entry =>
    entry.2.busId == busId && entry.2.routeId == routeId && entry.1 != deviceId

/-- The transaction of the device assignment handler: the registry it leaves,
and the retirement that the handler goes on with. -/
def assignDevice (request : AssignmentRequest) (reads : AssignmentReads)
    (registry : DeviceRegistry) :
    Except AssignmentRefusal (DeviceRegistry × Option AssignmentRetirement) :=
  if !safeId request.deviceId || !safeId request.busId ||
      !safeId request.routeId then
    .error .invalidRequest
  else if !reads.validAssignment then .error .invalidAssignment
  else
    let previous := registry.lookup request.deviceId
    let enabled := request.requestedEnabled.getD
      ((previous.map (·.enabled)).getD true)
    let assignmentChanged := !previous.any fun device =>
      device.busId == request.busId && device.routeId == request.routeId
    let pending := previous.bind (·.pendingAssignmentRetirement)
    if assignmentChanged && pending.isSome then .error .retirementPending
    else if targetOwnedByAnotherDevice registry request.deviceId
          request.busId request.routeId ||
        (assignmentChanged && (reads.targetRide || reads.targetLock)) then
      .error .targetConflict
    else if previous.isSome && assignmentChanged &&
        (reads.previousRide || reads.previousLock) then
      .error .activePreviousRide
    else
      let current := (previous.map (·.revision)).getD 0
      let revision := if assignmentChanged then current + 1 else current
      if revision > maxSafeRevision then .error .invalidRevision
      else
        let retirement :=
          match previous with
          | some device =>
            if assignmentChanged then
              some ⟨device.busId, device.routeId, revision⟩
            else pending
          | none => pending
        .ok (registry.insert request.deviceId
          { busId := request.busId
            routeId := request.routeId
            enabled := enabled
            assignmentRevision := some revision
            pendingAssignmentRetirement := retirement.or pending }, retirement)

/-- The transaction of `provisionDevice`; it knows no revision. -/
def provisionDevice (deviceId busId routeId : String)
    (reads : AssignmentReads) (registry : DeviceRegistry) :
    Except AssignmentRefusal DeviceRegistry :=
  if !safeId deviceId || !safeId busId || !safeId routeId then
    .error .invalidRequest
  else if !reads.validAssignment then .error .invalidAssignment
  else if reads.targetRide || reads.targetLock ||
      targetOwnedByAnotherDevice registry deviceId busId routeId then
    .error .targetConflict
  else
    let previous := registry.lookup deviceId
    if previous.isSome && (reads.previousRide || reads.previousLock) then
      .error .activePreviousRide
    else .ok (registry.insert deviceId
      { busId := busId
        routeId := routeId
        enabled := true
        assignmentRevision := previous.bind (·.assignmentRevision)
        pendingAssignmentRetirement :=
          previous.bind (·.pendingAssignmentRetirement) })

def disableDevice (deviceId : String) (registry : DeviceRegistry) :
    DeviceRegistry :=
  match registry.lookup deviceId with
  | none => registry
  | some device => registry.insert deviceId { device with enabled := false }

/-- The last transaction of the handler. -/
def clearRetirement (deviceId : String) (retirement : AssignmentRetirement)
    (registry : DeviceRegistry) : DeviceRegistry :=
  match registry.lookup deviceId with
  | none => registry
  | some device =>
    if (device.pendingAssignmentRetirement.map (·.revision)) =
        some retirement.revision then
      registry.insert deviceId
        { device with pendingAssignmentRetirement := none }
    else registry

def reservedDocumentId (value : String) : Bool :=
  decide (4 ≤ value.toList.length) && "__".toList.isPrefixOf value.toList &&
    "__".toList.isSuffixOf value.toList

def assignmentFromDevice (deviceId : String) (device : RegisteredDevice) :
    Option DeviceAssignment :=
  if !device.enabled || !safeId device.busId ||
      reservedDocumentId device.busId || !safeId device.routeId ||
      reservedDocumentId device.routeId then
    none
  else some {
    busId := device.busId
    routeId := device.routeId
    deviceId := some deviceId
    assignmentRevision := device.assignmentRevision.filter fun revision =>
      decide (revision ≤ maxSafeRevision) }

/-- A handler after its registry transaction: it retires the old assignment on
its node, then clears the record. -/
inductive RetirementHandler where
  | retire (deviceId : String) (retirement : AssignmentRetirement)
  | clear (deviceId : String) (retirement : AssignmentRetirement)
  deriving DecidableEq

/-- What happens to the assignments of a node. -/
inductive NodeEvent where
  | retired (deviceId : String) (revision : Nat)
  | committed (deviceId : String) (revision : Nat)
  | deleted
  deriving DecidableEq

/-- The registry, the live nodes, the handlers and telemetry requests in
flight; and what was ever recorded as pending, and happened to each node, the
last event first. -/
structure AssignmentWorld (R : Type) where
  registry : DeviceRegistry
  nodes : String → Option (DevicePresence R)
  handlers : Nat → Option RetirementHandler
  /-- The device of a request and the assignment it was authenticated for. -/
  credentials : Nat → Option (String × DeviceAssignment)
  recorded : List (String × AssignmentRetirement)
  history : String → List NodeEvent

inductive AssignmentEvent (R : Type) where
  | assign (index : Nat) (request : AssignmentRequest) (reads : AssignmentReads)
  /-- The client library evaluates the callback on what it believes the node
  to be, and only a write is checked against the node. -/
  | retire (index : Nat) (believed : Option (DevicePresence R))
  | clear (index : Nat)
  | lose (index : Nat)
  | provision (deviceId busId routeId : String) (reads : AssignmentReads)
  | disable (deviceId : String)
  | authenticate (index : Nat) (deviceId : String)
  | deliver (index : Nat) (sample : TelemetryPayload R)
      (backendReceivedAt : Int)
  | lifecycle (nodeKey : String) (status : LiveStatus)
      (sessionId : Option String)
  | delete (nodeKey : String)

variable {R : Type} [JsNumber R]

namespace AssignmentWorld

/-- Nothing registered and nothing in flight, over any live nodes. -/
def first (nodes : String → Option (DevicePresence R)) :
    AssignmentWorld R where
  registry := ∅
  nodes := nodes
  handlers := fun _ => none
  credentials := fun _ => none
  recorded := []
  history := fun _ => []

/-- The tombstone transaction on the node. -/
def retireNode (world : AssignmentWorld R) (deviceId : String)
    (retirement : AssignmentRetirement)
    (believed : Option (DevicePresence R)) : AssignmentWorld R :=
  let nodeKey := retirement.nodeKey
  match retiredDevicePresence believed deviceId retirement.revision,
    retiredDevicePresence (world.nodes nodeKey) deviceId
      retirement.revision with
  | some _, some retired =>
    { world with
      nodes := update world.nodes nodeKey (some retired)
      history := update world.history nodeKey
        (.retired deviceId retirement.revision :: world.history nodeKey) }
  | _, _ => world

/-- `persistTelemetry`. -/
def commitTelemetry (world : AssignmentWorld R) (deviceId : String)
    (assignment : DeviceAssignment) (sample : TelemetryPayload R)
    (backendReceivedAt : Int) : AssignmentWorld R :=
  let nodeKey := activeRideId assignment.busId assignment.routeId
  match nextTelemetryValue (world.nodes nodeKey)
    { assignment with deviceId := some deviceId } sample
    backendReceivedAt with
  | none => world
  | some next =>
    { world with
      nodes := update world.nodes nodeKey (some next)
      history := update world.history nodeKey
        (.committed deviceId (assignment.assignmentRevision.getD 0) ::
          world.history nodeKey) }

def setHandler (world : AssignmentWorld R) (index : Nat)
    (handler : Option RetirementHandler) : AssignmentWorld R :=
  { world with handlers := update world.handlers index handler }

def step (world : AssignmentWorld R) :
    AssignmentEvent R → Option (AssignmentWorld R)
  | .assign index request reads =>
    match world.handlers index with
    | some _ => none
    | none =>
      match assignDevice request reads world.registry with
      | .error _ => some world
      | .ok (registry, none) => some { world with registry := registry }
      | .ok (registry, some retirement) => some
          { world with
            registry := registry
            handlers := update world.handlers index
              (some (.retire request.deviceId retirement))
            recorded := (request.deviceId, retirement) :: world.recorded }
  | .retire index believed =>
    match world.handlers index with
    | some (.retire deviceId retirement) =>
      -- `retireDeviceAssignment` throws on an invalid retirement.
      if safeId deviceId && safeId retirement.busId &&
          safeId retirement.routeId &&
          decide (1 ≤ retirement.revision) &&
          decide (retirement.revision ≤ maxSafeRevision) then
        some ((world.retireNode deviceId retirement believed).setHandler
          index (some (.clear deviceId retirement)))
      else some (world.setHandler index none)
    | _ => none
  | .clear index =>
    match world.handlers index with
    | some (.clear deviceId retirement) => some
        { world.setHandler index none with
          registry := clearRetirement deviceId retirement world.registry }
    | _ => none
  | .lose index => some (world.setHandler index none)
  | .provision deviceId busId routeId reads =>
    match provisionDevice deviceId busId routeId reads world.registry with
    | .error _ => some world
    | .ok registry => some { world with registry := registry }
  | .disable deviceId => some
      { world with registry := disableDevice deviceId world.registry }
  | .authenticate index deviceId => some
      { world with
        credentials := update world.credentials index
          (((world.registry.lookup deviceId).bind
            (assignmentFromDevice deviceId)).map fun assignment =>
              (deviceId, assignment)) }
  | .deliver index sample backendReceivedAt =>
    match world.credentials index with
    | none => none
    | some (deviceId, assignment) => some
        (world.commitTelemetry deviceId assignment sample backendReceivedAt)
  | .lifecycle nodeKey status sessionId => some
      { world with
        nodes := update world.nodes nodeKey
          (some { (world.nodes nodeKey).getD {} with
            status := status
            sessionId := sessionId }) }
  | .delete nodeKey => some
      { world with
        nodes := update world.nodes nodeKey none
        history := update world.history nodeKey
          (.deleted :: world.history nodeKey) }

end AssignmentWorld

def assignments : System (AssignmentWorld R) (AssignmentEvent R) :=
  AssignmentWorld.step

end Eki
