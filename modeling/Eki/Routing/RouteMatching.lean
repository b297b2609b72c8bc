import Mathlib.Algebra.Order.Field.Basic
import Mathlib.Algebra.Order.Group.Abs
import Eki.Library.Bisection
import Eki.Routing.RouteSegment

/-!
# Matching a position on a route

A position is projected on the segments of the route, and the segment of the
least score is the match.  Only the segments that the bus can have reached are
scanned; they are found in the distances along the route.  The arithmetic is
exact, and the functions of the sphere are left open.
-/

namespace Eki.RouteMatching

open Segments (LatLng)

/-- The functions of the sphere and of the number format. -/
structure Geometry (R : Type) [Zero R] [LE R] where
  haversineMeters : LatLng R → LatLng R → R
  haversineMeters_nonneg :
    ∀ start stop, 0 ≤ haversineMeters start stop
  segmentHeading : LatLng R → LatLng R → R
  angularDifference : R → R → R
  cos : R → R
  hypot : R → R → R
  pi : R
  /-- `Number.isFinite` -/
  isFinite : R → Bool
  /-- `Number(value.toFixed(3))` -/
  toFixed : R → R

variable {R : Type} [Field R] [LinearOrder R]

/-- `Number.EPSILON` -/
def epsilon : R := 1 / 4503599627370496

def earthRadiusM : R := 6371000

def offRouteDistanceM : R := 60

/-- So much of a way back is taken for noise. -/
def backwardsToleranceM : R := (15 : Nat)

/-- What a metre of a way back counts. -/
def backwardsWeight : R := (2 : Nat)

structure PreviousRouteMatch (R : Type) where
  segmentIndex : R
  alongRouteDistanceM : R

structure RouteMatch (R : Type) where
  point : LatLng R
  segmentIndex : Nat
  segmentFraction : R
  distanceToRouteM : R
  alongRouteDistanceM : R
  headingDifference : Option R
  matchConfidence : R
  isAmbiguous : Bool

/-- The arguments of `matchRoutePosition` after the path. -/
structure MatchArguments (R : Type) where
  rawPoint : LatLng R
  headingDegrees : Option R
  previous : Option (PreviousRouteMatch R)
  positionUncertaintyM : Option R
  maximumProgressChangeM : Option R
  plausibleProgressM : Option R

def clamp01 (value : R) : R :=
  max 0 (min 1 value)

structure Projection (R : Type) where
  point : LatLng R
  distanceM : R
  fraction : R

def projectToSegment (geometry : Geometry R) (point start stop : LatLng R) :
    Projection R :=
  let toRadians := geometry.pi / 180
  let toDegrees := 180 / geometry.pi
  let referenceLat := point.lat * toRadians
  let longitudeScale := max ((1 : R) / 100) (geometry.cos referenceLat)
  let localX (value : LatLng R) :=
    (value.lng - point.lng) * toRadians * earthRadiusM * longitudeScale
  let localY (value : LatLng R) :=
    (value.lat - point.lat) * toRadians * earthRadiusM
  let deltaX := localX stop - localX start
  let deltaY := localY stop - localY start
  let lengthSquared := deltaX * deltaX + deltaY * deltaY
  let fraction :=
    if lengthSquared = 0 then 0
    else max 0 (min 1
      (-(localX start * deltaX + localY start * deltaY) / lengthSquared))
  let x := localX start + fraction * deltaX
  let y := localY start + fraction * deltaY
  { point :=
      { lat := point.lat + y / earthRadiusM * toDegrees
        lng := point.lng + x / (earthRadiusM * longitudeScale) * toDegrees }
    distanceM := geometry.hypot x y
    fraction }

/-- First cumulative vertex at the bound, or beyond it for the upper edge. -/
def distanceBound (values : List R) (bound : R) (upper : Bool) : Nat :=
  Bisection.search
    (fun middle =>
      decide (values.getD middle 0 < bound) ||
        (upper && decide (values.getD middle 0 = bound)))
    values.length 0 values.length

def segmentsAreContinuous (cumulative : List R) (left right : Nat) : Bool :=
  let lower := min left right
  let upper := max left right
  decide (upper - lower ≤ 1) ||
    decide (cumulative.getD upper 0 = cumulative.getD (lower + 1) 0)

def vertex (path : List (LatLng R)) (index : Nat) : LatLng R :=
  path.getD index { lat := 0, lng := 0 }

def pointAlongPath (path : List (LatLng R)) (cumulative : List R)
    (distanceM : R) : LatLng R :=
  let index :=
    min (path.length - 2) (distanceBound cumulative distanceM true - 1)
  let length := cumulative.getD (index + 1) 0 - cumulative.getD index 0
  let fraction :=
    if length > 0 then clamp01 ((distanceM - cumulative.getD index 0) / length)
    else 0
  let start := vertex path index
  let stop := vertex path (index + 1)
  { lat := start.lat + (stop.lat - start.lat) * fraction
    lng := start.lng + (stop.lng - start.lng) * fraction }

def distancesFrom (geometry : Geometry R) (distance : R) (start : LatLng R) :
    List (LatLng R) → List R
  | [] => [distance]
  | stop :: rest =>
    distance ::
      distancesFrom geometry (distance + geometry.haversineMeters start stop)
        stop rest

def cumulativeDistances (geometry : Geometry R) : List (LatLng R) → List R
  | [] => []
  | start :: rest => distancesFrom geometry 0 start rest

def segmentWindow (geometry : Geometry R) (path : List (LatLng R))
    (cumulative : List R) (arguments : MatchArguments R) : Nat × Nat :=
  match arguments.previous, arguments.maximumProgressChangeM with
  | some previous, some maximumProgressChangeM =>
    if geometry.isFinite previous.alongRouteDistanceM &&
        geometry.isFinite maximumProgressChangeM &&
        decide (0 ≤ maximumProgressChangeM) &&
        cumulative.getLast?.any geometry.isFinite then
      let roundingPad :=
        epsilon * max (max 1 |previous.alongRouteDistanceM|)
          maximumProgressChangeM * 4
      let minimum :=
        previous.alongRouteDistanceM - maximumProgressChangeM - roundingPad
      let maximum :=
        previous.alongRouteDistanceM + maximumProgressChangeM + roundingPad
      (distanceBound cumulative minimum false - 1,
        min (path.length - 1) (distanceBound cumulative maximum true))
    else (0, path.length - 1)
  | _, _ => (0, path.length - 1)

def ambiguityWindow (arguments : MatchArguments R) : R :=
  max 6 (min 12
    (max 0 (arguments.positionUncertaintyM.getD 25) * ((25 : R) / 100)))

structure BestMatch (R : Type) extends RouteMatch R where
  score : R

structure Candidate (R : Type) where
  segmentIndex : Nat
  score : R
  point : LatLng R
  alongRouteDistanceM : R

/-- What the loop over the segments carries. -/
structure Scan (R : Type) where
  best : Option (BestMatch R)
  candidates : List (Candidate R)

/-- The bus cannot have made so much progress. -/
def exceedsProgress (arguments : MatchArguments R) (alongRouteDistanceM : R) :
    Bool :=
  match arguments.previous, arguments.maximumProgressChangeM with
  | some previous, some maximumProgressChangeM =>
    decide (|alongRouteDistanceM - previous.alongRouteDistanceM| >
      maximumProgressChangeM)
  | _, _ => false

def alongRoute (cumulative : List R) (segmentIndex : Nat) (fraction : R) : R :=
  let segmentLengthM :=
    cumulative.getD (segmentIndex + 1) 0 - cumulative.getD segmentIndex 0
  cumulative.getD segmentIndex 0 + fraction * segmentLengthM

def headingDifference (geometry : Geometry R) (path : List (LatLng R))
    (arguments : MatchArguments R) (segmentIndex : Nat) : Option R :=
  arguments.headingDegrees.map fun headingDegrees =>
    geometry.angularDifference headingDegrees
      (geometry.segmentHeading (vertex path segmentIndex)
        (vertex path (segmentIndex + 1)))

def backwardsM (arguments : MatchArguments R) (alongRouteDistanceM : R) : R :=
  arguments.previous.elim 0 fun previous =>
    max 0
      (previous.alongRouteDistanceM - alongRouteDistanceM -
        backwardsToleranceM)

def segmentJump (arguments : MatchArguments R) (segmentIndex : Nat) : R :=
  arguments.previous.elim 0 fun previous =>
    max 0 (|(segmentIndex : R) - previous.segmentIndex| - 25)

def priorPoint (geometry : Geometry R) (path : List (LatLng R))
    (cumulative : List R) (arguments : MatchArguments R) :
    Option (LatLng R × R) :=
  match arguments.previous, arguments.plausibleProgressM with
  | some previous, some plausibleProgressM =>
    if geometry.isFinite plausibleProgressM then
      some
        (pointAlongPath path cumulative previous.alongRouteDistanceM,
          plausibleProgressM)
    else none
  | _, _ => none

def unexplainedForwardM (geometry : Geometry R) (path : List (LatLng R))
    (cumulative : List R) (arguments : MatchArguments R)
    (projection : Projection R) (alongRouteDistanceM : R) : R :=
  let progressM :=
    arguments.previous.elim 0 fun previous =>
      alongRouteDistanceM - previous.alongRouteDistanceM
  (priorPoint geometry path cumulative arguments).elim 0
    fun (prior, plausibleProgressM) =>
      max 0 (min (progressM - max 0 plausibleProgressM)
        (progressM - geometry.haversineMeters prior projection.point -
          ambiguityWindow arguments))

def segmentScore (geometry : Geometry R) (path : List (LatLng R))
    (cumulative : List R) (arguments : MatchArguments R) (segmentIndex : Nat)
    (projection : Projection R) (alongRouteDistanceM : R) : R :=
  projection.distanceM +
    ((headingDifference geometry path arguments segmentIndex).getD 0) *
      ((28 : R) / 100) +
    backwardsM arguments alongRouteDistanceM * backwardsWeight +
    unexplainedForwardM geometry path cumulative arguments projection
      alongRouteDistanceM +
    segmentJump arguments segmentIndex * 3

/-- One round of the loop over the segments. -/
def scanSegment (geometry : Geometry R) (path : List (LatLng R))
    (cumulative : List R) (arguments : MatchArguments R)
    (scoreOf : Nat → Projection R → R → R) (scan : Scan R)
    (segmentIndex : Nat) : Scan R :=
  let projection :=
    projectToSegment geometry arguments.rawPoint (vertex path segmentIndex)
      (vertex path (segmentIndex + 1))
  let alongRouteDistanceM :=
    alongRoute cumulative segmentIndex projection.fraction
  if exceedsProgress arguments alongRouteDistanceM then scan
  else
    let score := scoreOf segmentIndex projection alongRouteDistanceM
    { best :=
        if scan.best.all fun best => decide (score < best.score) then
          some
            { point := projection.point
              segmentIndex
              segmentFraction := projection.fraction
              distanceToRouteM := projection.distanceM
              alongRouteDistanceM
              headingDifference :=
                headingDifference geometry path arguments segmentIndex
              matchConfidence := 0
              isAmbiguous := false
              score }
        else scan.best
      candidates :=
        scan.candidates ++
          [{ segmentIndex, score, point := projection.point,
             alongRouteDistanceM }] }

/-- The least score of a candidate that competes (`none` is infinite). -/
def competingScore (geometry : Geometry R) (cumulative : List R)
    (arguments : MatchArguments R) (best : BestMatch R)
    (candidates : List (Candidate R)) : Option R :=
  candidates.foldl
    (fun competing candidate =>
      if !segmentsAreContinuous cumulative candidate.segmentIndex
            best.segmentIndex &&
          decide (|candidate.alongRouteDistanceM - best.alongRouteDistanceM| >
            geometry.haversineMeters candidate.point best.point +
              ambiguityWindow arguments) then
        some (competing.elim candidate.score (min · candidate.score))
      else competing)
    none

def concludeMatch (geometry : Geometry R) (cumulative : List R)
    (arguments : MatchArguments R) (scan : Scan R) : Option (RouteMatch R) :=
  scan.best.map fun best =>
    let isAmbiguous :=
      (competingScore geometry cumulative arguments best scan.candidates).any
        fun competing =>
          geometry.isFinite competing &&
            decide (competing - best.score ≤ ambiguityWindow arguments)
    let distanceConfidence :=
      clamp01 (1 - best.distanceToRouteM / offRouteDistanceM)
    let headingConfidence :=
      best.headingDifference.elim ((65 : R) / 100) fun difference =>
        clamp01 (1 - difference / 120)
    let continuityConfidence :=
      arguments.previous.elim ((65 : R) / 100) fun previous =>
        clamp01 (1 - |(best.segmentIndex : R) - previous.segmentIndex| / 30) *
          (if max 0 (previous.alongRouteDistanceM - best.alongRouteDistanceM -
                backwardsToleranceM) > 0 then (25 : R) / 100
            else 1)
    { best.toRouteMatch with
      isAmbiguous
      matchConfidence :=
        geometry.toFixed
          ((distanceConfidence * ((55 : R) / 100) +
              headingConfidence * ((25 : R) / 100) +
              continuityConfidence * ((20 : R) / 100)) *
            (if isAmbiguous then (55 : R) / 100 else 1)) }

def matchSegments (geometry : Geometry R) (path : List (LatLng R))
    (arguments : MatchArguments R) (segments : List Nat) :
    Option (RouteMatch R) :=
  let cumulative := cumulativeDistances geometry path
  concludeMatch geometry cumulative arguments
    (segments.foldl
      (scanSegment geometry path cumulative arguments
        (segmentScore geometry path cumulative arguments))
      { best := none, candidates := [] })

def matchRoutePosition (geometry : Geometry R) (path : List (LatLng R))
    (arguments : MatchArguments R) : Option (RouteMatch R) :=
  if path.length < 2 then none
  else
    let cumulative := cumulativeDistances geometry path
    let (firstSegment, endSegment) :=
      segmentWindow geometry path cumulative arguments
    matchSegments geometry path arguments
      (List.range' firstSegment (endSegment - firstSegment))

def matchEverySegment (geometry : Geometry R) (path : List (LatLng R))
    (arguments : MatchArguments R) : Option (RouteMatch R) :=
  if path.length < 2 then none
  else matchSegments geometry path arguments (List.range (path.length - 1))

/-! ## The frozen full scan -/

namespace Baseline

/-- The score knows no plausible progress. -/
def segmentScore (geometry : Geometry R) (path : List (LatLng R))
    (arguments : MatchArguments R) (segmentIndex : Nat)
    (projection : Projection R) (alongRouteDistanceM : R) : R :=
  projection.distanceM +
    ((headingDifference geometry path arguments segmentIndex).getD 0) *
      ((28 : R) / 100) +
    backwardsM arguments alongRouteDistanceM * backwardsWeight +
    segmentJump arguments segmentIndex * 3

def matchRoutePosition (geometry : Geometry R) (path : List (LatLng R))
    (arguments : MatchArguments R) : Option (RouteMatch R) :=
  if path.length < 2 then none
  else
    let cumulative := cumulativeDistances geometry path
    concludeMatch geometry cumulative arguments
      ((List.range (path.length - 1)).foldl
        (scanSegment geometry path cumulative arguments
          (segmentScore geometry path arguments))
        { best := none, candidates := [] })

end Baseline

end Eki.RouteMatching
