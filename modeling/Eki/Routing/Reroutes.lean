import Mathlib.Algebra.Order.Field.Rat
import Eki.Library.Transition
import Eki.Ride.Engine
import Eki.Ride.Operations
import Eki.Ride.Return

/-!
# Routes and reroutes of a live bus

Telemetry is matched against the route that the node shows.  A bus that leaves
its route, or is about to depart, gets a reroute: a claim on the node, a call to
the provider, and an activation, each a transaction of its own.  A version
counts the routes of a session.
-/

namespace Eki

open Transition

variable {R : Type} [JsNumber R]

inductive RouteState where
  | onRoute
  | possibleOffRoute
  | offRoute
  | rerouting
  | onNewRoute
  deriving DecidableEq, Repr

inductive RouteSource where
  | configured
  | dynamicReroute
  deriving DecidableEq, Repr

structure RouteMatch (R : Type) where
  isAmbiguous : Bool
  distanceToRouteM : R
  matchConfidence : R

structure RouteAdherenceDecision where
  routeState : RouteState
  offRouteSampleCount : Nat
  shouldReroute : Bool
  deriving DecidableEq, Repr

def offRouteConfirmationSamples : Nat := 2

/-- The position is on the route beyond doubt. -/
def RouteMatch.onRoute (found : RouteMatch R) : Bool :=
  !found.isAmbiguous && decide (found.distanceToRouteM ≤ (45 : R)) &&
    decide (found.matchConfidence ≥ (45 : R) / 100)

def evaluateRouteAdherence (previousState : Option RouteState)
    (previousOffRouteSamples : Nat) (found : Option (RouteMatch R))
    (reliablyMoving : Bool) : RouteAdherenceDecision :=
  let waiting : RouteAdherenceDecision :=
    { routeState :=
        if previousState == some .rerouting then .rerouting
        else .possibleOffRoute
      offRouteSampleCount := previousOffRouteSamples
      shouldReroute := false }
  if found.any RouteMatch.onRoute then
    { routeState :=
        if previousState == some .onNewRoute then .onNewRoute else .onRoute
      offRouteSampleCount := 0
      shouldReroute := false }
  else if (found.any RouteMatch.isAmbiguous) || !reliablyMoving then waiting
  else
    let strongDeviation := found.any fun position =>
      decide (position.distanceToRouteM ≥ (120 : R))
    let offRouteSampleCount :=
      min offRouteConfirmationSamples
        (if strongDeviation then offRouteConfirmationSamples
          else previousOffRouteSamples + 1)
    let confirmed := decide (offRouteSampleCount ≥ offRouteConfirmationSamples)
    { routeState :=
        if confirmed && previousState == some .rerouting then .rerouting
        else if confirmed then .offRoute
        else .possibleOffRoute
      offRouteSampleCount
      shouldReroute := confirmed && previousState != some .rerouting }

inductive DeparturePhase where
  | ready
  | departure
  deriving DecidableEq, Repr

inductive DepartureState where
  | pending
  | ready
  | failed
  deriving DecidableEq, Repr

structure DepartureRoute where
  context : String
  phase : DeparturePhase
  state : DepartureState
  requestId : Option Nat
  attempts : Nat
  nextAttemptAt : Nat
  computedAt : Option Nat := none
  deriving DecidableEq, Repr

structure RerouteRetry where
  context : String
  failures : Nat
  nextAttemptAt : Nat
  deriving DecidableEq, Repr

structure RouteContext where
  routeSource : Option RouteSource := none
  routeDirection : Option RideDirection := none
  routeSessionId : Option String := none
  routeGeometryVersion : Option String := none
  routeState : Option RouteState := none
  offRouteSampleCount : Nat := 0
  rerouteRequestId : Option Nat := none
  lastRerouteAttemptAt : Option Nat := none
  rerouteRetry : Option RerouteRetry := none
  departureRoute : Option DepartureRoute := none
  deriving DecidableEq, Repr

/-- A route of the cached catalog. -/
structure StoredRoute where
  configVersion : Nat
  geometryVersion : String
  geometrySignature : String

structure RoutingConfig (R : Type) extends RideConfig R where
  digest : List String → String
  liveDepartureRoutesEnabled : Bool

def strandedRerouteAfterMs : Nat := 60000

def routeCacheMs : Nat := 5 * 60000

/-- `adherencePreviousState`: a claim that is too old counts as lost. -/
def RouteContext.adherencePreviousState (context : RouteContext) (now : Nat) :
    Option RouteState :=
  if context.routeState != some .rerouting then context.routeState
  else if context.lastRerouteAttemptAt.any fun startedAt =>
      decide (now - startedAt ≤ strandedRerouteAfterMs) then
    some .rerouting
  else some .offRoute

def readRerouteRetry (value : Option RerouteRetry) (context : String) :
    Option RerouteRetry :=
  value.filter fun retry =>
    retry.context == context && decide (0 < retry.failures) &&
      decide (retry.failures ≤ 32)

/-- Equal jitter between half of the ceiling and the ceiling. -/
def rerouteBackoffMs (failures : Nat) (random : ℚ) : Nat :=
  let ceiling : Nat := min 300000 (10000 * 2 ^ min 30 (failures - 1))
  ((ceiling : ℚ) * (1 / 2 + max 0 (min 1 random) / 2)).ceil.toNat

structure DeparturePlan where
  context : String
  phase : DeparturePhase
  due : Bool
  reuse : Bool
  deriving DecidableEq, Repr

def RideDirection.text : RideDirection → String
  | .forward => "forward"
  | .reverse => "reverse"

def DeparturePhase.text : DeparturePhase → String
  | .ready => "ready"
  | .departure => "departure"

def departureRoutePlan (config : RoutingConfig R) (route : StoredRoute)
    (now : Nat) (live : LiveBus R) (context : RouteContext) :
    Option DeparturePlan :=
  match live.sessionId, live.direction, live.tripState with
  | some sessionId, some direction, some tripState =>
    if !config.liveDepartureRoutesEnabled || live.status != .active ||
        tripState == .completed then
      none
    else
      let phase : DeparturePhase :=
        if tripState == .preDeparture then .ready else .departure
      let contextOf (phase : DeparturePhase) :=
        config.digest [sessionId, direction.text,
          toString route.configVersion, route.geometrySignature, phase.text]
      let reuse := phase == .departure &&
        context.departureRoute.any fun previous =>
          previous.context == contextOf .ready && previous.state == .ready &&
            previous.computedAt.any fun computedAt =>
              decide (now ≥ computedAt) &&
                decide (now - computedAt ≤ routeCacheMs)
      let same := context.departureRoute.filter fun previous =>
        previous.context == contextOf phase
      let done := same.any fun previous =>
        previous.state == .ready || decide (previous.attempts ≥ 3)
      some
        { context := contextOf phase
          phase
          reuse
          due := !reuse && !done &&
            same.all fun previous => decide (now ≥ previous.nextAttemptAt) }
  | _, _, _ => none

/-- The fix that a node shows: its time and its sequence number. -/
structure Fix where
  timestamp : Nat
  seq : Nat
  deriving DecidableEq, Repr

/-- What a telemetry match read before its transaction. -/
structure Matching (R : Type) where
  live : LiveBus R
  context : RouteContext
  fix : Fix
  direction : RideDirection
  route : StoredRoute

/-- What the match found: whether the version's own geometry could be loaded,
where the position is, and whether it may confirm a deviation. -/
structure RouteReading (R : Type) where
  dynamicLoaded : Bool := true
  found : Option (RouteMatch R) := none
  reliablyMoving : Bool := false
  now : Nat := 0

/-- `typeof live?.sessionId === "string" ? live.sessionId : "device-only"`. -/
def LiveBus.routeSession (live : LiveBus R) : String :=
  live.sessionId.getD "device-only"

namespace Matching

variable (matching : Matching R)

def contextChanged : Bool :=
  matching.context.routeDirection != some matching.direction ||
    matching.context.routeSessionId != some matching.live.routeSession ||
    matching.context.routeGeometryVersion !=
      some matching.route.geometryVersion

def usesDynamic (reading : RouteReading R) : Bool :=
  !matching.contextChanged &&
    matching.context.routeSource == some .dynamicReroute &&
    decide (0 < matching.live.routeVersion) && reading.dynamicLoaded

def missingDynamicGeometry (reading : RouteReading R) : Bool :=
  !matching.contextChanged &&
    matching.context.routeSource == some .dynamicReroute &&
    !matching.usesDynamic reading

def routeVersion (reading : RouteReading R) : Nat :=
  (if 0 < matching.live.routeVersion then
      matching.live.routeVersion + (if matching.contextChanged then 1 else 0)
    else 1) +
    (if matching.missingDynamicGeometry reading then 1 else 0)

def matchingContextChanged (reading : RouteReading R) : Bool :=
  matching.contextChanged || matching.missingDynamicGeometry reading

def adherence (reading : RouteReading R) : RouteAdherenceDecision :=
  let changed := matching.matchingContextChanged reading
  evaluateRouteAdherence
    (if changed then none
      else matching.context.adherencePreviousState reading.now)
    (if changed then 0 else matching.context.offRouteSampleCount)
    reading.found reading.reliablyMoving

def departurePlan (config : RoutingConfig R) (reading : RouteReading R) :
    Option DeparturePlan :=
  if matching.matchingContextChanged reading then none
  else
    departureRoutePlan config matching.route reading.now matching.live
      matching.context

/-- The match that the transaction writes over the present context. -/
def matched (config : RoutingConfig R) (reading : RouteReading R)
    (current : RouteContext) : RouteContext :=
  let changed := matching.matchingContextChanged reading
  let adherence := matching.adherence reading
  let settled := changed || adherence.routeState == .onRoute ||
    adherence.routeState == .onNewRoute
  { current with
    routeSource :=
      some
        (if matching.usesDynamic reading then .dynamicReroute else .configured)
    routeDirection := some matching.direction
    routeSessionId := some matching.live.routeSession
    routeGeometryVersion := some matching.route.geometryVersion
    departureRoute :=
      if changed then none
      else
        match (matching.departurePlan config reading).filter
            DeparturePlan.reuse with
        | none => current.departureRoute
        | some plan =>
          matching.context.departureRoute.map fun departure =>
            { departure with
              context := plan.context
              phase := plan.phase }
    routeState := some adherence.routeState
    rerouteRequestId := if settled then none else current.rerouteRequestId
    rerouteRetry := if settled then none else current.rerouteRetry
    offRouteSampleCount := adherence.offRouteSampleCount }

/-- The node is still the one that was read. -/
def isCurrent (live : LiveBus R) (fix : Option Fix) : Bool :=
  fix == some matching.fix && live.direction == some matching.direction &&
    live.routeSession == matching.live.routeSession &&
    live.routeVersion == matching.live.routeVersion

end Matching

structure RerouteTask where
  direction : RideDirection
  routeVersion : Nat
  sessionId : String
  route : StoredRoute

inductive RerouteKind where
  /-- The backoff context and the failures of a deviation. -/
  | deviation (context : String) (failures : Nat)
  | departure (context : String) (phase : DeparturePhase)
  deriving DecidableEq, Repr

/-- A reroute that waits for the provider, or failed and gives its claim
back. -/
structure Reroute where
  requestId : Nat
  routeVersion : Nat
  sessionId : String
  direction : RideDirection
  expectedStopIndex : Option Int
  kind : RerouteKind
  failing : Bool := false
  deriving DecidableEq, Repr

/-- The claim transaction of `requestReroute`. -/
def requestReroute (config : RoutingConfig R) (task : RerouteTask)
    (requestId now : Nat) (random : ℚ) (live : LiveBus R)
    (context : RouteContext) : Option (RouteContext × Reroute) :=
  let retryContext :=
    config.digest [task.sessionId, task.direction.text,
      toString task.routeVersion, toString task.route.configVersion,
      task.route.geometrySignature]
  let retry := readRerouteRetry context.rerouteRetry retryContext
  if context.routeState != some .offRoute ||
      live.routeVersion != task.routeVersion || live.status != .active ||
      live.tripState != some .inService ||
      live.sessionId != some task.sessionId ||
      live.direction != some task.direction ||
      retry.any (fun retry => decide (now < retry.nextAttemptAt)) then
    none
  else
    let failures := (retry.elim 0 RerouteRetry.failures) + 1
    some
      ({ context with
          routeState := some .rerouting
          rerouteRequestId := some requestId
          lastRerouteAttemptAt := some now
          rerouteRetry :=
            some
              { context := retryContext
                failures := min 32 failures
                nextAttemptAt := now + rerouteBackoffMs failures random } },
        { requestId
          routeVersion := task.routeVersion
          sessionId := task.sessionId
          direction := task.direction
          expectedStopIndex := live.currentStopIndex
          kind := .deviation retryContext (min 32 failures) })

/-- The claim transaction of `refreshDepartureRoute`. -/
def refreshDepartureRoute (config : RoutingConfig R) (task : RerouteTask)
    (requestId now : Nat) (live : LiveBus R) (context : RouteContext) :
    Option (RouteContext × Reroute) :=
  match departureRoutePlan config task.route now live context with
  | none => none
  | some plan =>
    if !plan.due || live.sessionId != some task.sessionId ||
        live.direction != some task.direction ||
        live.routeVersion != task.routeVersion ||
        context.routeState == some .offRoute ||
        context.routeState == some .rerouting then
      none
    else
      let previous := context.departureRoute.filter fun departure =>
        departure.context == plan.context
      some
        ({ context with
            departureRoute :=
              some
                { context := plan.context
                  phase := plan.phase
                  state := .pending
                  requestId := some requestId
                  attempts := (previous.elim 0 DepartureRoute.attempts) + 1
                  nextAttemptAt := now + 60000 } },
          { requestId
            routeVersion := task.routeVersion
            sessionId := task.sessionId
            direction := task.direction
            expectedStopIndex := live.currentStopIndex
            kind := .departure plan.context plan.phase })

namespace Reroute

variable (reroute : Reroute)

def rerouteContextIsCurrent (live : LiveBus R) (context : RouteContext) :
    Bool :=
  live.status == .active && live.tripState == some .inService &&
    context.routeState == some .rerouting &&
    context.rerouteRequestId == some reroute.requestId &&
    live.routeVersion == reroute.routeVersion &&
    live.sessionId == some reroute.sessionId &&
    live.direction == some reroute.direction

def departureIsCurrent (departureContext : String) (phase : DeparturePhase)
    (live : LiveBus R) (context : RouteContext) : Bool :=
  live.status == .active && live.sessionId == some reroute.sessionId &&
    live.direction == some reroute.direction &&
    live.routeVersion == reroute.routeVersion &&
    (context.departureRoute.any fun departure =>
      departure.requestId == some reroute.requestId &&
        departure.context == departureContext) &&
    live.tripState ==
      some (if phase == .ready then .preDeparture else .inService) &&
    context.routeState != some .offRoute &&
    context.routeState != some .rerouting

def isCurrent (live : LiveBus R) (context : RouteContext) : Bool :=
  match reroute.kind with
  | .deviation _ _ => reroute.rerouteContextIsCurrent live context
  | .departure departureContext phase =>
    reroute.departureIsCurrent departureContext phase live context

/-- The activation transaction; `none` when it aborts. -/
def activate (now : Nat) (live : LiveBus R) (context : RouteContext) :
    Option (LiveBus R × RouteContext) :=
  if !reroute.isCurrent live context ||
      reroute.expectedStopIndex.any (fun expected =>
        live.currentStopIndex != some expected) then
    none
  else
    some
      ({ live with routeVersion := max (reroute.routeVersion + 1) now },
        { context with
          routeSource := some .dynamicReroute
          departureRoute :=
            match reroute.kind with
            | .deviation _ _ => context.departureRoute
            | .departure _ _ =>
              context.departureRoute.map fun departure =>
                { departure with
                  state := .ready
                  computedAt := some now
                  requestId := none }
          routeDirection := some reroute.direction
          routeState := some .onNewRoute
          offRouteSampleCount := 0
          rerouteRequestId := none
          rerouteRetry := none })

/-- The transaction that gives a claim back after a failure. -/
def fail (now : Nat) (random : ℚ) (live : LiveBus R)
    (context : RouteContext) : RouteContext :=
  match reroute.kind with
  | .deviation retryContext failures =>
    if !reroute.rerouteContextIsCurrent live context then context
    else
      { context with
        routeState := some .offRoute
        rerouteRequestId := none
        rerouteRetry :=
          some
            { context := retryContext
              failures
              nextAttemptAt := now + rerouteBackoffMs failures random } }
  | .departure _ _ =>
    if live.sessionId != some reroute.sessionId ||
        live.routeVersion != reroute.routeVersion then
      context
    else
      { context with
        departureRoute :=
          context.departureRoute.map fun departure =>
            if departure.requestId != some reroute.requestId then departure
            else
              { departure with
                state := .failed
                requestId := none
                nextAttemptAt :=
                  now + rerouteBackoffMs departure.attempts random } }

end Reroute

end Eki
