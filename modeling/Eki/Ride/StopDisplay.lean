import Eki.Ride.Journey

/-!
# The stops as passengers see them

With each update of a ride the backend publishes the index of its next stop,
the stop that the bus is at and the stops that were passed without being
observed.  A passenger's page derives how it shows each stop from these three,
and drops a stop that the bus cannot be at.
-/

namespace Eki

variable {R : Type} [JsNumber R]

/-- The fix with which `visitedStopIndex` looks for a stop. -/
structure VisitFix (R : Type) extends TripRouteStop R where
  motionState : Option MotionState
  gpsHdop : Option R

/-- The stop that the bus is at.  The index of an update is an integer, and one
of a route is a safe one. -/
def visitedStopIndex (fix : VisitFix R) (stops : List (TripRouteStop R))
    (tripState : TripState) (currentStopIndex : Int)
    (hasDepartedOrigin : Bool) (unobservedStopIndices : List Nat) :
    Option Nat :=
  if stops.length = 0 then none
  else
    let lastIndex := stops.length - 1
    if tripState == .completed then some lastIndex
    else if !JsNumber.isFinite fix.lat || !JsNumber.isFinite fix.lng ||
        unreliableTripFix fix.motionState fix.gpsHdop then
      none
    else
      let index := min currentStopIndex.toNat lastIndex
      let near (stopIndex : Nat) :=
        decide (haversineMeters fix.toTripRouteStop
          (stopAt stops stopIndex) ≤ stopGeofenceM)
      let observedAt (stopIndex : Nat) :=
        !unobservedStopIndices.contains stopIndex && near stopIndex
      if index = 0 then
        if !hasDepartedOrigin && near 0 then some 0 else none
      else if index == lastIndex && hasDepartedOrigin &&
          observedAt lastIndex then
        some lastIndex
      else if observedAt (index - 1) then some (index - 1)
      else none

/-! ### The passenger's page -/

/-- How passengers see a stop; the bus is `present` at one stop at most. -/
inductive StopVisitState where
  | passed
  | unobserved
  | present
  | next
  | upcoming
  deriving DecidableEq, Repr

structure StopProgress where
  states : List StopVisitState
  atStopIndex : Option Nat
  nextStopIndex : Option Nat

def publishedStopIndex (value : Option Int) (stopCount : Nat) : Option Nat :=
  (value.filter fun index =>
    decide (0 ≤ index) && decide (index < (stopCount : Int))).map Int.toNat

/-- The bus is at the stop it just reached, or still at the origin or already
at the terminal. -/
def believedStop (stopCount current : Nat) (reported : Option Nat) :
    Option Nat :=
  reported.filter fun stop =>
    (stop : Int) == (current : Int) - 1 ||
      (stop == current &&
        (current == 0 || (current : Int) == (stopCount : Int) - 1))

def stopState (current next : Nat) (believed : Option Nat)
    (unobserved : List Nat) (index : Nat) : StopVisitState :=
  if believed == some index then .present
  else if index < current then
    if unobserved.contains index then .unobserved else .passed
  else if index = next then .next
  else .upcoming

def stopProgress (stopCount : Nat) (currentStopIndex atStopIndex : Option Int)
    (unobservedStopIndices : List Nat) : Option StopProgress :=
  (publishedStopIndex currentStopIndex stopCount).map fun current =>
    let believed :=
      believedStop stopCount current (publishedStopIndex atStopIndex stopCount)
    let unobserved :=
      unobservedStopIndices.filter fun index => decide (index < current)
    let next := if believed == some current then current + 1 else current
    { states :=
        (List.range stopCount).map (stopState current next believed unobserved)
      atStopIndex := believed
      nextStopIndex := if next < stopCount then some next else none }

/-! ### What a run publishes -/

namespace TripRun

variable (run : TripRun R)

/-- The stops that an update passes without observing them. -/
def passed (n : Nat) : List Nat :=
  (run.result n).skippedStopIndices.getD [] ++
    (run.result n).unobservedStopIndices.getD []

/-- The unobserved stops that are published before update `n`. -/
def unobservedStops : Nat → List Nat
  | 0 => []
  | n + 1 =>
    (mergedStopIndices
      (mergedStopIndices (unobservedStops n) [] run.stops.length)
      (run.passed n) run.stops.length).filter fun index =>
        decide ((index : Int) < (run.result n).currentStopIndex)

/-- The stop that is published before update `n` for a fix. -/
def visited (n : Nat) (fix : VisitFix R) : Option Nat :=
  visitedStopIndex fix run.stops (run.progress n).tripState
    (run.progress n).currentStopIndex (run.progress n).hasDepartedOrigin
    (run.unobservedStops n)

/-- How passengers see the ride. -/
def shown (n : Nat) (fix : VisitFix R) : Option StopProgress :=
  stopProgress run.stops.length (some (run.progress n).currentStopIndex)
    ((run.visited n fix).map Int.ofNat) (run.unobservedStops n)

end TripRun

end Eki
