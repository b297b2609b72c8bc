import Eki.Trip.Reducer

/-!
# Plausible motion

Whether a vehicle can have travelled from one fix to the next, and when three
coherent fixes may establish a position that a single one may not.  Times are
whole milliseconds; measurements are doubles.
-/

namespace Eki

variable {R : Type} [JsNumber R]

/-- A whole number as a double. -/
def JsNumber.ofInt : Int → R
  | .ofNat n => JsNumber.ofNat n
  | .negSucc n => -JsNumber.ofNat (n + 1)

/-- `Number.isSafeInteger` of a whole number. -/
def isSafeInteger (value : Int) : Bool :=
  decide (value.natAbs ≤ 9007199254740991)

def gnssErrorMinM : R := 15

def gnssErrorMaxM : R := 50

def telemetryMaxTransitionGapMs : Int := 60000

def telemetryReacquireAfterMs : Int := 5 * 60000

def clamp (value minimum maximum : R) : R :=
  JsNumber.max minimum (JsNumber.min maximum value)

/-- The fix quality as a bounded horizontal error; an unusable quality is the
largest one. -/
def adaptiveGnssErrorMeters (gpsHdop : Option R) (speedKmh previousSpeedKmh : R)
    (elapsedMs : Int) (accuracyMeters : Option R) : R :=
  let hdopError :=
    match gpsHdop with
    | some hdop =>
      if JsNumber.isFinite hdop && decide (hdop ≥ 0) &&
          decide (hdop ≤ 99) then
        gnssErrorMinM + hdop * 7
      else gnssErrorMaxM
    | none => gnssErrorMaxM
  let qualityError :=
    match accuracyMeters with
    | some accuracy =>
      if JsNumber.isFinite accuracy && decide (accuracy ≥ 0) then accuracy
      else hdopError
    | none => hdopError
  let stationary :=
    decide (JsNumber.max (JsNumber.max speedKmh previousSpeedKmh) 0 ≤
      gnssStationarySpeedKmh)
  let multipathAllowance : R := if stationary then 10 else 0
  let gapAllowance :=
    clamp (JsNumber.ofInt (max 0 (elapsedMs - 10000)) / 2000) 0 10
  clamp (qualityError + multipathAllowance + gapAllowance)
    gnssErrorMinM gnssErrorMaxM

structure TelemetryMotionSample (R : Type) where
  lat : R
  lng : R
  speed : R
  timestamp : Int
  gpsHdop : Option R

def TelemetryMotionSample.position (sample : TelemetryMotionSample R) :
    TripRouteStop R :=
  ⟨sample.lat, sample.lng⟩

def withinTravelEnvelope (previous next : TelemetryMotionSample R)
    (elapsedMs : Int) : Bool :=
  let maximumSpeedKmh :=
    clamp (JsNumber.max (JsNumber.max previous.speed next.speed) 0) 0 200
  let errorBudget := JsNumber.max
    (adaptiveGnssErrorMeters previous.gpsHdop previous.speed next.speed
      elapsedMs none)
    (adaptiveGnssErrorMeters next.gpsHdop next.speed previous.speed
      elapsedMs none)
  let reachableMeters :=
    errorBudget + maximumSpeedKmh / (36 / 10) *
      (JsNumber.ofInt elapsedMs / 1000)
  decide (haversineMeters previous.position next.position ≤ reachableMeters)

def withinOrdinaryEnvelope (previous next : TelemetryMotionSample R) : Bool :=
  withinTravelEnvelope previous next
    (min telemetryMaxTransitionGapMs
      (max 0 (next.timestamp - previous.timestamp)))

def isPlausibleTelemetryTransition (previous : Option (TelemetryMotionSample R))
    (next : TelemetryMotionSample R) : Bool :=
  match previous with
  | none => true
  | some previous =>
    decide (max 0 (next.timestamp - previous.timestamp) >
      telemetryReacquireAfterMs) || withinOrdinaryEnvelope previous next

/-- Progress towards three coherent fixes; `count` is one or two. -/
structure OutageReacquisitionEvidence where
  count : Nat
  startedAt : Int
  deriving DecidableEq

structure QualifiedMotionSample (R : Type) extends
    TelemetryMotionSample R where
  motionState : MotionState

def usableReacquisitionFix (sample : QualifiedMotionSample R) : Bool :=
  JsNumber.isFinite sample.lat && decide (JsNumber.abs sample.lat ≤ 90) &&
    JsNumber.isFinite sample.lng && decide (JsNumber.abs sample.lng ≤ 180) &&
    JsNumber.isFinite sample.speed && decide (sample.speed ≥ 0) &&
    decide (sample.speed ≤ 200) &&
    isSafeInteger sample.timestamp &&
    (sample.gpsHdop.any fun hdop =>
      JsNumber.isFinite hdop && decide (hdop ≥ 0) &&
        decide (hdop ≤ gnssHdopMax)) &&
    (sample.motionState == .moving || sample.motionState == .stopped)

/-- The outcome of an evaluation: accepted, or the evidence so far. -/
structure OutageReacquisition where
  accepted : Bool
  pending : Option OutageReacquisitionEvidence := none
  deriving DecidableEq

/-- `raw` is the fix committed last, where all its fields are usable. -/
def evaluateOutageReacquisition
    (previous : Option (TelemetryMotionSample R))
    (next : QualifiedMotionSample R)
    (raw : Option (QualifiedMotionSample R))
    (evidence : Option OutageReacquisitionEvidence) : OutageReacquisition :=
  match previous with
  | none => { accepted := false }
  | some previous =>
    let gap := next.timestamp - previous.timestamp
    if !usableReacquisitionFix next ||
        decide (gap ≤ telemetryMaxTransitionGapMs) ||
        decide (gap > telemetryReacquireAfterMs) ||
        !withinTravelEnvelope previous next.toTelemetryMotionSample gap then
      { accepted := false }
    else
      let first : OutageReacquisition :=
        { accepted := false, pending := some ⟨1, next.timestamp⟩ }
      match raw, evidence with
      | some candidate, some pending =>
        let candidateGap := next.timestamp - candidate.timestamp
        if !usableReacquisitionFix candidate ||
            decide (candidateGap < 500) || decide (candidateGap > 5000) ||
            !isPlausibleTelemetryTransition
              (some candidate.toTelemetryMotionSample)
              next.toTelemetryMotionSample ||
            (pending.count != 1 && pending.count != 2) ||
            !isSafeInteger pending.startedAt ||
            decide (pending.startedAt ≤ previous.timestamp) ||
            decide (pending.startedAt > candidate.timestamp) ||
            (pending.count == 1 && pending.startedAt != candidate.timestamp) ||
            (pending.count == 2 &&
              (decide (candidate.timestamp - pending.startedAt < 500) ||
                decide (candidate.timestamp - pending.startedAt > 5000))) then
          first
        else if pending.count == 2 then { accepted := true }
        else
          { accepted := false, pending := some ⟨2, pending.startedAt⟩ }
      | _, _ => first

end Eki
