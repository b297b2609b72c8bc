import Eki.Ride.Records
import Eki.Telemetry.Motion

/-!
# Device presence

A device sample is validated, its capture time is clamped to the server's
clock, and one transaction on the live node of its bus and route decides
whether it is newer than the stored fix, which position it publishes and which
fix the next sample is judged against.  A node keeps the fields that telemetry
and assignment retirement read or write.
-/

namespace Eki

variable {R : Type} [JsNumber R]

structure TelemetryPayload (R : Type) extends QualifiedMotionSample R where
  heading : R
  seq : Int
  deviceSentAt : Int
  /-- The capture time of the device where it was ahead of the server. -/
  deviceTimestamp : Option Int := none

/-- The accepted field sets: the present one and the two before it. -/
inductive TelemetrySchema (R : Type) where
  | sequenced (gpsHdop : R) (seq deviceSentAt : Int)
  | previousSequenced (seq deviceSentAt : Int)
  | legacy

/-- A sample as the device sends it. -/
structure TelemetryRecord (R : Type) where
  lat : R
  lng : R
  speed : R
  heading : R
  motionState : MotionState
  timestamp : Int
  schema : TelemetrySchema R

namespace TelemetrySchema

def gpsHdop : TelemetrySchema R → Option R
  | .sequenced gpsHdop _ _ => some gpsHdop
  | _ => none

def seq : TelemetrySchema R → Option Int
  | .sequenced _ seq _ => some seq
  | .previousSequenced seq _ => some seq
  | .legacy => none

def deviceSentAt : TelemetrySchema R → Option Int
  | .sequenced _ _ deviceSentAt => some deviceSentAt
  | .previousSequenced _ deviceSentAt => some deviceSentAt
  | .legacy => none

end TelemetrySchema

/-- A measurement within bounds. -/
def finiteWithin (value minimum maximum : R) : Bool :=
  JsNumber.isFinite value && decide (value ≥ minimum) &&
    decide (value ≤ maximum)

def parseTelemetryValue (record : TelemetryRecord R) (now : Int) :
    Except String (TelemetryPayload R) :=
  if !finiteWithin record.lat (-90) 90 then .error "invalid_lat"
  else if !finiteWithin record.lng (-180) 180 then .error "invalid_lng"
  else if !finiteWithin record.speed 0 200 then .error "invalid_speed"
  else if !JsNumber.isFinite record.heading || decide (record.heading < 0) ||
      decide (record.heading ≥ 360) then
    .error "invalid_heading"
  else if record.schema.gpsHdop.any fun hdop => !finiteWithin hdop 0 99 then
    .error "invalid_gps_hdop"
  else if record.schema.seq.any fun seq =>
      !isSafeInteger seq || decide (seq ≤ 0) || decide (seq > 0xffffffff) then
    .error "invalid_sequence"
  else if !isSafeInteger record.timestamp ||
      decide (record.timestamp < now - 60000) ||
      decide (record.timestamp > now + 10000) then
    .error "stale_or_invalid_timestamp"
  else if record.schema.deviceSentAt.any fun sentAt =>
      !isSafeInteger sentAt || decide (sentAt < record.timestamp) ||
        decide (sentAt > now + 10000) then
    .error "invalid_device_sent_at"
  else
    let acceptedTimestamp := min record.timestamp now
    .ok {
      lat := record.lat
      lng := record.lng
      speed := record.speed
      heading := record.heading
      gpsHdop := record.schema.gpsHdop
      motionState := record.motionState
      seq := record.schema.seq.getD 1
      deviceSentAt :=
        (record.schema.deviceSentAt.map (min · now)).getD acceptedTimestamp
      timestamp := acceptedTimestamp
      deviceTimestamp :=
        if record.timestamp > acceptedTimestamp then some record.timestamp
        else none }

/-- The fix the next sample is judged against, as stored. -/
structure PlausibilityAnchor (R : Type) where
  lat : Option R
  lng : Option R
  speed : Option R
  gpsHdop : Option R
  timestamp : Option Int

structure RawLocation (R : Type) where
  lat : R
  lng : R
  speed : R
  heading : R
  gpsHdop : Option R
  motionState : MotionState
  seq : Int
  sampledAt : Int

inductive SignalState where
  | connected
  | gnssLost
  deriving DecidableEq

/-- A live node of `activeBuses`. -/
structure DevicePresence (R : Type) where
  status : LiveStatus := .offline
  sessionId : Option String := none
  lat : Option R := none
  lng : Option R := none
  speed : Option R := none
  heading : Option R := none
  gpsHdop : Option R := none
  motionState : Option MotionState := none
  timestamp : Option Int := none
  seq : Option Int := none
  deviceSentAt : Option Int := none
  deviceTimestamp : Option Int := none
  plausibilityReacquisition : Option OutageReacquisitionEvidence := none
  rawLocation : Option (RawLocation R) := none
  plausibilityAnchor : Option (PlausibilityAnchor R) := none
  busId : Option String := none
  routeId : Option String := none
  deviceId : Option String := none
  assignmentRevision : Option Nat := none
  retiredAssignmentRevision : Option Nat := none
  deviceState : Option DeviceState := none
  signalState : Option SignalState := none
  backendReceivedAt : Option Int := none

/-- What a device's credentials were found to be assigned to. -/
structure DeviceAssignment where
  busId : String
  routeId : String
  deviceId : Option String
  assignmentRevision : Option Nat
  deriving DecidableEq

def telemetrySampleIsNewer (existingTimestamp existingSequence : Option Int)
    (candidate : TelemetryPayload R)
    (existingDeviceTimestamp : Option Int) : Bool :=
  match existingTimestamp with
  | none => true
  | some timestamp =>
    let storedCapture := existingDeviceTimestamp.getD timestamp
    if existingSequence.any fun sequence =>
        isSafeInteger sequence && decide (candidate.seq < sequence) &&
          decide (candidate.deviceTimestamp.getD candidate.timestamp <
            storedCapture) then
      false
    else if candidate.timestamp ≠ timestamp then
      decide (candidate.timestamp > timestamp)
    else existingSequence.any fun sequence =>
      isSafeInteger sequence && decide (candidate.seq > sequence)

/-- An unknown dilution of the anchor is filled from the live fix. -/
def previousTelemetryGpsHdop (anchor : Option (PlausibilityAnchor R))
    (live : Option (DevicePresence R)) : Option R :=
  let finite (hdop : Option R) := hdop.filter JsNumber.isFinite
  (finite (anchor.bind (·.gpsHdop))).or (finite (live.bind (·.gpsHdop)))

/-- The fix that a node judges the next sample against. -/
def trustedFix (current : Option (DevicePresence R)) :
    Option (TelemetryMotionSample R) :=
  let anchor := current.bind (·.plausibilityAnchor)
  let finite (value : Option R) := value.filter JsNumber.isFinite
  match finite ((anchor.bind (·.lat)).or (current.bind (·.lat))),
    finite ((anchor.bind (·.lng)).or (current.bind (·.lng))),
    finite ((anchor.bind (·.speed)).or (current.bind (·.speed))),
    (anchor.bind (·.timestamp)).or (current.bind (·.timestamp)) with
  | some lat, some lng, some speed, some timestamp => some {
      lat := lat
      lng := lng
      speed := speed
      timestamp := timestamp
      gpsHdop := previousTelemetryGpsHdop anchor current }
  | _, _, _, _ => none

def RawLocation.candidate (raw : RawLocation R) : QualifiedMotionSample R where
  lat := raw.lat
  lng := raw.lng
  speed := raw.speed
  timestamp := raw.sampledAt
  gpsHdop := raw.gpsHdop
  motionState := raw.motionState

def TelemetryPayload.raw (sample : TelemetryPayload R) : RawLocation R where
  lat := sample.lat
  lng := sample.lng
  speed := sample.speed
  heading := sample.heading
  gpsHdop := sample.gpsHdop
  motionState := sample.motionState
  seq := sample.seq
  sampledAt := sample.timestamp

def TelemetryMotionSample.anchor (fix : TelemetryMotionSample R) :
    PlausibilityAnchor R where
  lat := some fix.lat
  lng := some fix.lng
  speed := some fix.speed
  gpsHdop := fix.gpsHdop
  timestamp := some fix.timestamp

/-- A sample that is held keeps the trusted position. -/
def heldSample (current : Option (DevicePresence R))
    (previous : TelemetryMotionSample R) (sample : TelemetryPayload R) :
    TelemetryPayload R :=
  { sample with
    lat := previous.lat
    lng := previous.lng
    speed := 0
    heading :=
      ((current.bind (·.heading)).filter JsNumber.isFinite).getD sample.heading
    motionState := .uncertain }

/-- The evaluation of three coherent fixes that a sample is part of. -/
def reacquisitionOf (current : Option (DevicePresence R))
    (sample : TelemetryPayload R) : OutageReacquisition :=
  let previous := trustedFix current
  if isPlausibleTelemetryTransition previous sample.toTelemetryMotionSample
  then { accepted := false }
  else evaluateOutageReacquisition previous sample.toQualifiedMotionSample
    ((current.bind (·.rawLocation)).map RawLocation.candidate)
    (current.bind (·.plausibilityReacquisition))

def transitionIsPlausible (current : Option (DevicePresence R))
    (sample : TelemetryPayload R) : Bool :=
  isPlausibleTelemetryTransition (trustedFix current)
      sample.toTelemetryMotionSample ||
    (reacquisitionOf current sample).accepted

def acceptedSample (current : Option (DevicePresence R))
    (sample : TelemetryPayload R) : TelemetryPayload R :=
  match trustedFix current with
  | none => sample
  | some previous =>
    if transitionIsPlausible current sample then sample
    else heldSample current previous sample

/-- A fix without usable positioning does not replace a trusted one. -/
def nextAnchor (current : Option (DevicePresence R))
    (sample : TelemetryPayload R) : TelemetryMotionSample R :=
  match trustedFix current with
  | none => sample.toTelemetryMotionSample
  | some previous =>
    if transitionIsPlausible current sample &&
        sample.motionState != .uncertain then
      sample.toTelemetryMotionSample
    else previous

def retiredSample (current : Option (DevicePresence R))
    (assignment : DeviceAssignment) : Bool :=
  current.any fun presence =>
    presence.retiredAssignmentRevision.any fun revision =>
      (assignment.deviceId.isNone ||
        assignment.deviceId == presence.deviceId) &&
        decide (assignment.assignmentRevision.getD 0 < revision)

/-- The node after a committed sample. -/
def telemetryPresence (current : Option (DevicePresence R))
    (assignment : DeviceAssignment) (sample : TelemetryPayload R)
    (backendReceivedAt : Int) : DevicePresence R :=
  let accepted := acceptedSample current sample
  { current.getD {} with
    lat := some accepted.lat
    lng := some accepted.lng
    speed := some accepted.speed
    heading := some accepted.heading
    gpsHdop := accepted.gpsHdop
    motionState := some accepted.motionState
    timestamp := some accepted.timestamp
    seq := some accepted.seq
    deviceSentAt := some accepted.deviceSentAt
    deviceTimestamp := accepted.deviceTimestamp
    plausibilityReacquisition := (reacquisitionOf current sample).pending
    rawLocation := some sample.raw
    plausibilityAnchor := some (nextAnchor current sample).anchor
    busId := some assignment.busId
    routeId := some assignment.routeId
    deviceId := assignment.deviceId.or (current.bind (·.deviceId))
    assignmentRevision :=
      assignment.assignmentRevision.or (current.bind (·.assignmentRevision))
    retiredAssignmentRevision := none
    deviceState := some .online
    signalState := some
      (if accepted.motionState = .uncertain then .gnssLost else .connected)
    backendReceivedAt := some backendReceivedAt }

def nextTelemetryValue (current : Option (DevicePresence R))
    (assignment : DeviceAssignment) (sample : TelemetryPayload R)
    (backendReceivedAt : Int) : Option (DevicePresence R) :=
  if retiredSample current assignment then none
  else if !telemetrySampleIsNewer (current.bind (·.timestamp))
      (current.bind (·.seq)) sample (current.bind (·.deviceTimestamp)) then
    none
  else some (telemetryPresence current assignment sample backendReceivedAt)

theorem nextTelemetryValue_eq_some {current : Option (DevicePresence R)}
    {assignment : DeviceAssignment} {sample : TelemetryPayload R}
    {backendReceivedAt : Int} {next : DevicePresence R} :
    nextTelemetryValue current assignment sample backendReceivedAt =
        some next ↔
      retiredSample current assignment = false ∧
        telemetrySampleIsNewer (current.bind (·.timestamp))
          (current.bind (·.seq)) sample
          (current.bind (·.deviceTimestamp)) = true ∧
        next = telemetryPresence current assignment sample
          backendReceivedAt := by
  unfold nextTelemetryValue
  split
  · rename_i retired
    simp [retired]
  · rename_i current_
    split
    · rename_i older
      simp only [Bool.not_eq_true'] at older
      simp [older]
    · rename_i newer
      simp only [Bool.not_eq_true', Bool.not_eq_false] at current_ newer
      simp [current_, newer, eq_comm]

/-- The tombstone of a retired assignment; nothing where the node is gone,
belongs to another device or a later assignment, or serves a ride. -/
def retiredDevicePresence (current : Option (DevicePresence R))
    (deviceId : String) (revision : Nat) : Option (DevicePresence R) :=
  match current with
  | none => none
  | some presence =>
    if (presence.deviceId.any fun other => other != deviceId) ||
        decide (presence.assignmentRevision.getD 0 ≥ revision) ||
        (presence.status == .active &&
          presence.sessionId.any fun sessionId => sessionId != "") then
      none
    else
      some { presence with
        deviceId := some deviceId
        retiredAssignmentRevision := some revision
        deviceState := some .offline }

end Eki
