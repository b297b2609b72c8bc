import Eki.Trip.Geometry

/-!
# The trip lifecycle reducer

`reduceTripState` decides one telemetry update of a ride.  The closures of the
source become functions of a `ServiceScope`, the local values that they
capture, and its loops become recursions over the stops they visit.
-/

namespace Eki

variable {R : Type} [JsNumber R]

inductive MotionState where
  | moving
  | stopped
  | uncertain
  deriving DecidableEq, Repr

inductive TripState where
  | preDeparture
  | inService
  | completed
  deriving DecidableEq, Repr

inductive LegacyTripState where
  | trip (state : TripState)
  | maintenance
  deriving DecidableEq, Repr

def LegacyTripState.settled : LegacyTripState → TripState
  | .trip state => state
  | .maintenance => .inService

structure TerminalArrivalEvidence (R : Type) where
  startedAt : R
  lastSampledAt : R

structure TripPosition (R : Type) extends TripRouteStop R where
  motionState : Option MotionState
  gpsHdop : Option R
  timestamp : Option R

structure TripStateInput (R : Type) where
  lat : R
  lng : R
  previousPosition : Option (TripPosition R)
  motionState : MotionState
  currentTripState : LegacyTripState
  currentStopIndex : Int
  stops : List (TripRouteStop R)
  hasDepartedOrigin : Bool
  timestamp : Option R
  now : Option R
  gpsHdop : Option R
  speed : Option R
  heading : Option R
  terminalArrival : Option (TerminalArrivalEvidence R)
  gnssGapSince : Option R

structure TripStateResult (R : Type) where
  tripState : TripState
  currentStopIndex : Int
  hasDepartedOrigin : Bool
  terminalArrival : Option (TerminalArrivalEvidence R) := none
  gnssGapSince : Option R := none
  skippedStopIndices : Option (List Nat) := none
  unobservedStopIndices : Option (List Nat) := none

def gnssHdopMax : R := 4

def gnssStationarySpeedKmh : R := 5 / 2

def stopArrivalGeofenceM : R := 15

def stopGeofenceM : R := stopArrivalGeofenceM

def sharedStopLocationM : R := 2 * stopArrivalGeofenceM

def samePinM : R := 5 / 2

def originDepartureM : R := 50

def minOriginDepartureM : R := 10

def maxUnobservedRecoveryStops : Nat := 2

def minRecoveryTravelM : R := 4

def sharedPassClearanceM : R := stopArrivalGeofenceM

def sharedPassSideMarginM : R := 5

def strictArrivalM : R := 8

def maxOffsideArrivalM : R := 6

def minHeadingSpeedKmh : R := 5

def maxTelemetrySegmentM : R := 250

def gnssGapMs : R := 10000

def maxRevisitSpeedMps : R := 25

def maxTerminalEvidenceGapMs : R := 60000

def maxFixAgeMs : R := 60000

def maxFixFutureMs : R := 10000

/-- `TERMINAL_ARRIVAL_CONFIRMATION_MS` from its configured value. -/
def terminalArrivalConfirmationMs (configured : R) : R :=
  if JsNumber.isFinite configured && decide (configured ≥ 1000) then
    JsNumber.floor configured
  else
    2000

/-- An absent quality measurement is accepted; a bad one never is. -/
def unreliableTripFix (motionState : Option MotionState)
    (gpsHdop : Option R) : Bool :=
  motionState == some .uncertain ||
    gpsHdop.any fun hdop =>
      !JsNumber.isFinite hdop || decide (hdop < 0) ||
        decide (hdop > gnssHdopMax)

def TripPosition.unreliable (position : TripPosition R) : Bool :=
  unreliableTripFix position.motionState position.gpsHdop

namespace TripStateInput

def position (input : TripStateInput R) : TripRouteStop R :=
  { lat := input.lat, lng := input.lng }

def unreliable (input : TripStateInput R) : Bool :=
  unreliableTripFix (some input.motionState) input.gpsHdop

/-- The fix is too old, too far in the future or has no usable time. -/
def staleFix (input : TripStateInput R) : Bool :=
  match input.now with
  | none => false
  | some now =>
    match input.timestamp with
    | none => true
    | some timestamp =>
      !JsNumber.isFinite timestamp ||
        decide (now - timestamp > maxFixAgeMs) ||
        decide (timestamp > now + maxFixFutureMs)

/-- The time between the previous fix and this one exceeds the gap bound.
It is unknown, and does not, when either fix has no usable time. -/
def spansGnssGap (input : TripStateInput R) (previous : TripPosition R) :
    Bool :=
  match previous.timestamp, input.timestamp with
  | some before, some timestamp =>
    JsNumber.isFinite before && JsNumber.isFinite timestamp &&
      decide (timestamp - before > gnssGapMs)
  | _, _ => false

/-- Sample time before the gap this update opens. -/
def detectedGnssGap (input : TripStateInput R) : Option R :=
  let missed := input.unreliable ||
    input.previousPosition.any fun previous =>
      previous.unreliable ||
        decide (haversineMeters previous.toTripRouteStop input.position >
          maxTelemetrySegmentM) ||
        input.spansGnssGap previous
  if missed then
    let since :=
      (input.previousPosition.bind (·.timestamp)).or input.timestamp
    some ((since.filter JsNumber.isFinite).getD 0)
  else
    none

def priorGap (input : TripStateInput R) : Option R :=
  input.gnssGapSince.filter JsNumber.isFinite

def gnssGap (input : TripStateInput R) : Option R :=
  input.priorGap.or
    (if input.staleFix then none else input.detectedGnssGap)

/-- The previous fix, when close enough in time for the straight segment from
it to show which stops were passed. -/
def segmentStart (input : TripStateInput R) : Option (TripPosition R) :=
  input.previousPosition.filter fun previous => !input.spansGnssGap previous

end TripStateInput

def originDepartureRadius (stops : List (TripRouteStop R)) : R :=
  if stops.length > 1 then
    JsNumber.min originDepartureM
      (JsNumber.max minOriginDepartureM
        (haversineMeters (stopAt stops 0) (stopAt stops 1) / 2))
  else
    originDepartureM

def wasStopReached (stop position : TripRouteStop R)
    (previousPosition : Option (TripPosition R)) : Bool :=
  if haversineMeters position stop ≤ stopGeofenceM then
    true
  else
    match previousPosition with
    | none => false
    | some previous =>
      if previous.unreliable ||
          decide (haversineMeters previous.toTripRouteStop position >
            maxTelemetrySegmentM) then
        false
      else
        decide (distanceToSegmentMeters stop previous.toTripRouteStop
          position ≤ stopGeofenceM)

/-- A pass through a location shared by two stops of the route. -/
inductive StopPass where
  | earlier
  | later
  deriving DecidableEq, Repr

structure PassEvidence (R : Type) where
  point : TripRouteStop R
  arriving : Bool

/-- `sort` by decreasing distance; there are at most two fixes to compare. -/
def farthestFirst (shared : TripRouteStop R) :
    List (PassEvidence R) → List (PassEvidence R)
  | [first, second] =>
    if haversineMeters second.point shared -
        haversineMeters first.point shared > 0 then
      [second, first]
    else
      [first, second]
  | evidence => evidence

def sideOf (stops : List (TripRouteStop R)) (earlier later : Nat)
    (evidence : PassEvidence R) : Option StopPass :=
  let leg (index : Nat) : R :=
    if evidence.arriving then
      distanceToSegmentMeters evidence.point (stopAt stops (index - 1))
        (stopAt stops index)
    else if index < stops.length - 1 then
      distanceToSegmentMeters evidence.point (stopAt stops index)
        (stopAt stops (index + 1))
    else
      JsNumber.infinity
  if leg earlier + sharedPassSideMarginM < leg later then
    some .earlier
  else if leg later + sharedPassSideMarginM < leg earlier then
    some .later
  else
    none

def sharedStopPass (stops : List (TripRouteStop R)) (earlier later : Nat)
    (position : TripRouteStop R) (segmentStart : Option (TripPosition R)) :
    Option StopPass :=
  let reliableStart := segmentStart.filter fun start => !start.unreliable
  let fits (index : Nat) : Bool :=
    reliableStart.any fun start =>
      travelsRouteWayThrough stops index start.toTripRouteStop position
  if fits earlier != fits later then
    some (if fits earlier then .earlier else .later)
  else
    let shared := stopAt stops earlier
    let evidence : List (PassEvidence R) :=
      (reliableStart.toList.map fun start =>
        { point := start.toTripRouteStop, arriving := true }) ++
      [{ point := position, arriving := false }]
    let clear := evidence.filter fun fix =>
      decide (haversineMeters fix.point shared > sharedPassClearanceM)
    (farthestFirst shared clear).findSome? (sideOf stops earlier later)

/-- The local values that the closures of the service branch capture. -/
structure ServiceScope (R : Type) where
  input : TripStateInput R
  hasDepartedOrigin : Bool
  leavingOrigin : Bool
  safeCurrentIndex : Nat

namespace ServiceScope

variable (scope : ServiceScope R)

def stops : List (TripRouteStop R) := scope.input.stops

def position : TripRouteStop R := scope.input.position

def segmentStart : Option (TripPosition R) := scope.input.segmentStart

def gnssGap : Option R := scope.input.gnssGap

def lastIndex : Nat := scope.stops.length - 1

def lastSkippable : Nat :=
  if scope.leavingOrigin then scope.lastIndex - 1 else scope.lastIndex

def distanceTo (index : Nat) : R :=
  haversineMeters scope.position (stopAt scope.stops index)

def passedStops : List (TripRouteStop R) :=
  scope.stops.take scope.safeCurrentIndex

def atPassedStopLocation (point : TripRouteStop R) : Bool :=
  scope.passedStops.any fun stop =>
    decide (haversineMeters point stop ≤ sharedStopLocationM)

def gapElapsedMs : R :=
  match scope.gnssGap, scope.input.timestamp with
  | some since, some timestamp =>
    if JsNumber.isFinite timestamp then timestamp - since else 0
  | _, _ => 0

def routeMeters : Nat → R
  | 0 => 0
  | index + 1 => routeMeters index +
      haversineMeters (stopAt scope.stops index) (stopAt scope.stops (index + 1))

def pathMeters (start finish : Nat) : R :=
  scope.routeMeters finish - scope.routeMeters start

def reliableSegmentStart : Option (TripPosition R) :=
  scope.segmentStart.filter fun start => !start.unreliable

def movingHeading : Option R :=
  if scope.input.motionState = .moving ∧
      scope.input.speed.any fun speed => decide (speed ≥ minHeadingSpeedKmh) then
    scope.input.heading
  else
    none

def offsideOf (index : Nat) : Option R :=
  offsideMeters (stopAt scope.stops index) scope.position
    (scope.reliableSegmentStart.map (·.toTripRouteStop)) scope.movingHeading

def reachedStop (index : Nat) : Bool :=
  wasStopReached (stopAt scope.stops index) scope.position
      scope.segmentStart &&
    (scope.input.motionState != .moving ||
      (scope.offsideOf index).all fun offside =>
        decide (offside ≤ maxOffsideArrivalM))

/-- The previous fix and this one are both moving, at least `metres` apart,
and travel the route's way through a stop of `route`. -/
def movedThrough (metres : R) (route : List (TripRouteStop R))
    (index : Nat) : Bool :=
  scope.reliableSegmentStart.any fun start =>
    scope.input.motionState == .moving &&
      start.motionState == some .moving &&
      decide (haversineMeters start.toTripRouteStop scope.position ≥ metres) &&
      travelsRouteWayThrough route index start.toTripRouteStop scope.position

def travelledThrough (index : Nat) : Bool :=
  scope.movedThrough minRecoveryTravelM scope.stops index

def observedLaterStop (index : Nat) : Bool :=
  scope.reachedStop index &&
    (scope.travelledThrough index ||
      decide (scope.distanceTo index ≤ strictArrivalM))

def reachableInGap (index : Nat) : Bool :=
  decide (JsNumber.max 0
      (scope.pathMeters scope.safeCurrentIndex index - stopGeofenceM) ≤
    scope.gapElapsedMs / 1000 * maxRevisitSpeedMps)

/-- Which copy of a shared stop location the bus is at, over the later copies
of `index` in turn; `none` while no fix shows a direction. -/
def resolveSharedStop (index : Nat) : List Nat → Option Nat
  | [] => some index
  | copy :: copies =>
    let apartM :=
      haversineMeters (stopAt scope.stops copy) (stopAt scope.stops index)
    if apartM > sharedStopLocationM then
      resolveSharedStop index copies
    else if scope.gapElapsedMs < JsNumber.max gnssGapMs
        (scope.pathMeters index copy / maxRevisitSpeedMps * 1000) then
      some index
    else
      let toIndex := scope.distanceTo index
      let toCopy := scope.distanceTo copy
      -- Distinct pins: a fix practically on one and clear of the other.
      if apartM > strictArrivalM ∧ toIndex ≤ strictArrivalM ∧
          toCopy > strictArrivalM then
        some index
      else if apartM > strictArrivalM ∧ toCopy ≤ strictArrivalM ∧
          toIndex > strictArrivalM then
        some copy
      else
        let pass :=
          (sharedStopPass scope.stops index copy scope.position
            scope.segmentStart).or
              (if copy = scope.lastIndex then some .later else none)
        pass.map fun
          | .later => copy
          | .earlier => index

def sharedStop (index : Nat) : Option Nat :=
  scope.resolveSharedStop index
    (List.range' (index + 2) (scope.lastSkippable + 1 - (index + 2)))

def revisitMinimumMs (index : Nat) : R :=
  JsNumber.max gnssGapMs
    (scope.pathMeters (scope.safeCurrentIndex - 1) index /
      maxRevisitSpeedMps * 1000)

/-- The later stops a recovery may credit, in route order. -/
def laterStops (last : Nat) : List Nat :=
  List.range' (scope.safeCurrentIndex + 1)
    (last + 1 - (scope.safeCurrentIndex + 1))

def stillThere (index : Nat) : Bool :=
  if scope.distanceTo index ≤ stopGeofenceM then
    scope.atPassedStopLocation (stopAt scope.stops index)
  else
    (scope.passedStops.filter fun stop =>
        decide (haversineMeters scope.position stop ≤ stopGeofenceM)).any
      fun stop =>
        decide (haversineMeters stop (stopAt scope.stops index) ≤
          sharedStopLocationM)

/-- The fix still sits at a passed stop that the route revisits, and the gap
has aged past half of the revisit time. -/
def reanchors (index : Nat) : Bool :=
  scope.stillThere index &&
    decide (scope.gapElapsedMs ≥ scope.revisitMinimumMs index / 2) &&
    decide (scope.gapElapsedMs < scope.revisitMinimumMs index)

def reanchoredGap : Option R :=
  if scope.gnssGap.isSome ∧ 0 < scope.safeCurrentIndex ∧
      (scope.laterStops scope.lastSkippable).any scope.reanchors then
    scope.input.timestamp
  else
    none

def observedAfterGap : List Nat → Option Nat
  | [] => none
  | index :: indices =>
    if !scope.reachableInGap index then
      none
    else if !scope.observedLaterStop index then
      observedAfterGap indices
    else if scope.atPassedStopLocation (stopAt scope.stops index) &&
        decide (scope.gapElapsedMs < scope.revisitMinimumMs index) then
      observedAfterGap indices
    else
      some index

/-- The stop a recovery names: `awaiting` a direction, or the next stop. -/
inductive GapRecovery where
  | awaitingDirection
  | next (nextIndex : Nat)
  deriving DecidableEq, Repr

/-- `creditThrough`: the stops before the credited one are skipped. -/
def creditThrough : Option Nat → GapRecovery
  | none => .awaitingDirection
  | some index => .next index

def recoverAfterGap : GapRecovery :=
  if scope.gnssGap.isSome ∧ 0 < scope.safeCurrentIndex then
    if scope.reachedStop scope.safeCurrentIndex then
      creditThrough (scope.sharedStop scope.safeCurrentIndex)
    else
      match scope.observedAfterGap (scope.laterStops scope.lastSkippable) with
      | none => .next scope.safeCurrentIndex
      | some index => creditThrough (scope.sharedStop index)
  else
    .next scope.safeCurrentIndex

/-- Indices from `start` up to, and without, `finish`. -/
def indicesBetween (start finish : Nat) : Option (List Nat) :=
  if finish = start then none else some (List.range' start (finish - start))

def drivenThrough : List Nat → Option Nat
  | [] => none
  | index :: indices =>
    if !scope.reachedStop index || !scope.travelledThrough index then
      drivenThrough indices
    else if scope.atPassedStopLocation (stopAt scope.stops index) then
      none
    else
      some index

/-- The next stop after crediting stops passed without observation. -/
def recoverUnobserved (nextIndex : Nat) : Nat :=
  if scope.gnssGap.isNone ∧ 0 < nextIndex ∧ !scope.reachedStop nextIndex then
    let lastTarget :=
      min (nextIndex + maxUnobservedRecoveryStops) scope.lastSkippable
    (scope.drivenThrough (List.range' (nextIndex + 1)
      (lastTarget + 1 - (nextIndex + 1)))).getD nextIndex
  else
    nextIndex

/-- A pin that shares its place with the one before it, a turn apart, needs a
moving pass along its own leg, or for a terminal a fix practically on it. -/
def distinguishable (index : Nat) : Bool :=
  let apartM := haversineMeters (stopAt scope.stops index)
    (stopAt scope.stops (index - 1))
  if apartM ≤ samePinM ∨ apartM > sharedStopLocationM ∨
      !reversesBetween scope.stops index then
    true
  else if index = scope.lastIndex then
    decide (scope.distanceTo index ≤ strictArrivalM)
  else
    scope.movedThrough minDirectionEvidenceM
      [stopAt scope.stops index, stopAt scope.stops (index + 1)] 0

def crossing (index : Nat) : R :=
  match scope.segmentStart with
  | none => 1
  | some start =>
    let dx := scope.position.lng - start.lng
    let dy := scope.position.lat - start.lat
    let lengthSquared := dx * dx + dy * dy
    if lengthSquared > 0 then
      (((stopAt scope.stops index).lng - start.lng) * dx +
        ((stopAt scope.stops index).lat - start.lat) * dy) / lengthSquared
    else
      1

/-- The condition of the arrival loop. -/
def arrives (nextIndex : Nat) : Bool :=
  decide (0 < nextIndex) &&
    !(scope.leavingOrigin && nextIndex == scope.lastIndex) &&
    scope.reachedStop nextIndex && scope.distinguishable nextIndex &&
    decide (scope.distanceTo nextIndex ≤ scope.distanceTo (nextIndex - 1))

inductive ArrivalEnd where
  | terminal
  | before (nextIndex : Nat) (observedStop : Bool)
  deriving DecidableEq, Repr

/-- The arrival loop.  `remaining` stops follow `nextIndex`, so the terminal
is reached when none does; `lastCrossing` is `none` before any crossing. -/
def arrive (remaining nextIndex : Nat) (lastCrossing : Option R)
    (observedStop : Bool) : ArrivalEnd :=
  if scope.arrives nextIndex then
    if lastCrossing.any fun last => decide (scope.crossing nextIndex < last) then
      .before nextIndex true
    else
      match remaining with
      | 0 => .terminal
      | remaining + 1 =>
        arrive remaining (nextIndex + 1) (some (scope.crossing nextIndex)) true
  else
    .before nextIndex observedStop

/-- The fix qualifies as arrival evidence at the terminal. -/
def reliableArrival : Bool :=
  scope.hasDepartedOrigin && scope.input.motionState == .stopped &&
    (scope.input.gpsHdop.any fun hdop =>
      JsNumber.isFinite hdop && decide (hdop ≥ 0) &&
        decide (hdop ≤ gnssHdopMax)) &&
    (scope.input.speed.any fun speed =>
      decide (speed ≥ 0) && decide (speed ≤ gnssStationarySpeedKmh)) &&
    scope.input.timestamp.any JsNumber.isSafeInteger &&
    decide (scope.distanceTo scope.lastIndex ≤ stopGeofenceM)

/-- Evidence that a fix at `timestamp` may extend. -/
def usablePrior (prior : Option (TerminalArrivalEvidence R)) (timestamp : R) :
    Option (TerminalArrivalEvidence R) :=
  prior.filter fun evidence =>
    JsNumber.isSafeInteger evidence.startedAt &&
      JsNumber.isSafeInteger evidence.lastSampledAt &&
      decide (evidence.startedAt ≤ evidence.lastSampledAt) &&
      decide (evidence.lastSampledAt ≤ timestamp) &&
      decide (timestamp - evidence.lastSampledAt ≤ maxTerminalEvidenceGapMs)

/-- The update of a fix that reached the terminal. -/
def confirmTerminal (configured : R)
    (skipped unobserved : Option (List Nat)) : TripStateResult R :=
  let waiting : TripStateResult R :=
    { tripState := .inService
      currentStopIndex := scope.lastIndex
      hasDepartedOrigin := scope.hasDepartedOrigin
      skippedStopIndices := skipped
      unobservedStopIndices := unobserved }
  match scope.input.timestamp with
  | none => waiting
  | some timestamp =>
    if !scope.reliableArrival then
      waiting
    else
      match usablePrior scope.input.terminalArrival timestamp with
      | none =>
        { waiting with
          terminalArrival := some
            { startedAt := timestamp, lastSampledAt := timestamp } }
      | some prior =>
        if timestamp > prior.lastSampledAt ∧
            timestamp - prior.startedAt ≥
              terminalArrivalConfirmationMs configured then
          { waiting with tripState := .completed }
        else
          { waiting with
            terminalArrival := some
              { prior with lastSampledAt := timestamp } }

/-- The service branch of the reducer. -/
def serve (configured : R) : TripStateResult R :=
  match scope.recoverAfterGap with
  | .awaitingDirection =>
    { tripState := .inService
      currentStopIndex := scope.safeCurrentIndex
      hasDepartedOrigin := scope.hasDepartedOrigin || scope.leavingOrigin
      gnssGapSince := scope.reanchoredGap.or scope.gnssGap }
  | .next creditedIndex =>
    let skipped := indicesBetween scope.safeCurrentIndex creditedIndex
    let nextIndex := scope.recoverUnobserved creditedIndex
    let unobserved := indicesBetween creditedIndex nextIndex
    match scope.arrive (scope.lastIndex - nextIndex) nextIndex none false with
    | .terminal => scope.confirmTerminal configured skipped unobserved
    | .before stop observedStop =>
      let openGap :=
        if skipped.isNone then scope.reanchoredGap.or scope.gnssGap
        else scope.gnssGap
      { tripState := .inService
        currentStopIndex := stop
        hasDepartedOrigin := scope.hasDepartedOrigin || scope.leavingOrigin
        gnssGapSince := if observedStop then none else openGap
        skippedStopIndices := skipped
        unobservedStopIndices := unobserved }

end ServiceScope

namespace TripStateInput

variable (input : TripStateInput R)

/-- Moving through a first stop inside the minimum departure radius. -/
def crossedFirstStop : Bool :=
  input.motionState == .moving && decide (input.stops.length > 1) &&
    wasStopReached (stopAt input.stops 1) input.position
      input.segmentStart &&
    decide (haversineMeters input.position (stopAt input.stops 0) >
      haversineMeters (stopAt input.stops 1) (stopAt input.stops 0))

def clearOfOrigin : Bool :=
  decide (haversineMeters input.position (stopAt input.stops 0) ≥
      originDepartureRadius input.stops) ||
    input.crossedFirstStop

def departedOrigin : Bool :=
  input.hasDepartedOrigin ||
    (input.currentTripState == .trip .inService && input.clearOfOrigin)

/-- A pre-departure bus leaves the origin with this fix. -/
def departs : Bool :=
  input.motionState == .moving && input.clearOfOrigin

def routeIndex : Nat :=
  min input.currentStopIndex.toNat (input.stops.length - 1)

def serviceScope (leavingOrigin : Bool) : ServiceScope R :=
  let leaving := leavingOrigin ||
    (input.routeIndex == 0 && input.departedOrigin &&
      decide (0 < input.stops.length - 1))
  { input
    hasDepartedOrigin := input.departedOrigin
    leavingOrigin := leaving
    safeCurrentIndex :=
      if leaving then max 1 input.routeIndex else input.routeIndex }

end TripStateInput

/-- Pure trip lifecycle decision. -/
def reduceTripState (configured : R) (input : TripStateInput R) :
    TripStateResult R :=
  if input.stops.length = 0 then
    { tripState := input.currentTripState.settled
      currentStopIndex := 0
      hasDepartedOrigin := input.hasDepartedOrigin }
  else if input.unreliable || input.staleFix then
    { tripState := input.currentTripState.settled
      currentStopIndex := input.currentStopIndex
      hasDepartedOrigin := input.hasDepartedOrigin
      gnssGapSince := input.gnssGap }
  else
    match input.currentTripState with
    | .trip .preDeparture =>
      if !input.departs || decide (input.stops.length < 2) then
        { tripState := if input.departs then .inService else .preDeparture
          currentStopIndex := input.currentStopIndex
          hasDepartedOrigin := input.departedOrigin || input.departs
          gnssGapSince := input.gnssGap }
      else
        (input.serviceScope true).serve configured
    | .trip .inService => (input.serviceScope false).serve configured
    | other =>
      { tripState := other.settled
        currentStopIndex := input.currentStopIndex
        hasDepartedOrigin := input.departedOrigin
        gnssGapSince := input.gnssGap }

end Eki
