import Eki.PassengerMap.SnapToPolyline

/-!
# The legs of a route

The path of a route is cut at its stops.  Each stop is projected on the
segments it lies near, and the projections are chosen so that they follow each
other along the path and lie as near to the stops as this permits.
-/

namespace Eki.PassengerMap

open Segments (LatLng)
open RouteMatching (Geometry vertex alongRoute)

/-- A projection of a stop, and the one of the stop before it.  The score is
the score of both and of all before them. -/
structure Projection (R : Type) where
  distance : R
  point : LatLng R
  score : R
  previous : Option (Projection R)

/-- The projections that `previous` leads to, the first one first. -/
def Projection.boundaries {R : Type} : Projection R → List (Projection R)
  | ⟨distance, point, score, none⟩ => [⟨distance, point, score, none⟩]
  | ⟨distance, point, score, some previous⟩ =>
    previous.boundaries ++ [⟨distance, point, score, some previous⟩]

/-- Where a stop can be projected. -/
structure Snap (R : Type) where
  distance : R
  point : LatLng R
  distanceM : R

variable {R : Type} [Field R] [LinearOrder R]

/-- A centimetre. -/
def separationM : R := 1 / (100 : Nat)

def maxStopDistanceM : R := (100 : Nat)

/-- The projection on a segment, where there is one.  The first and the last
stop are the ends of the path. -/
def snapAt (geometry : Geometry R) (path stops : List (LatLng R))
    (firstStopIndex index segment : Nat) : Option (Snap R) :=
  let cumulative := polylineDistances geometry path
  let atOrigin := decide (firstStopIndex = 0) && decide (index = 0)
  let atDestination := decide (index = stops.length - 1)
  if (atOrigin && decide (segment ≠ 0)) ||
      (atDestination && decide (segment ≠ path.length - 2)) then none
  else
    let stop := vertex stops index
    let endpoint :=
      if atOrigin then some (vertex path 0)
      else if atDestination then some (vertex path (path.length - 1))
      else none
    match endpoint with
    | some endpoint =>
      let distanceM := geometry.haversineMeters stop endpoint
      if distanceM ≤ maxStopDistanceM then
        some
          { distance :=
              alongRoute cumulative segment (if atOrigin then 0 else 1)
            point := endpoint
            distanceM := distanceM }
      else none
    | none =>
      (snapToPolyline geometry stop
        [vertex path segment, vertex path (segment + 1)]
        { SnapOptions.none with
          maxDistanceM := some maxStopDistanceM }).map fun snap =>
        { distance := alongRoute cumulative segment snap.segmentFraction
          point := snap.point
          distanceM := snap.distanceM }

/-- The projections of a stop in the order of the segments. -/
def snapsOf (geometry : Geometry R) (path stops : List (LatLng R))
    (firstStopIndex index : Nat) : List (Snap R) :=
  (List.range (path.length - 1)).filterMap
    (snapAt geometry path stops firstStopIndex index)

/-- `if (!best || entry.score < best.score) best = entry` -/
def better (best : Option (Projection R)) (entry : Projection R) :
    Option (Projection R) :=
  if best.all fun best => decide (entry.score < best.score) then some entry
  else best

/-- The loop that moves the cursor: the best projection it has passed, and
those it has not. -/
def passBefore (distance : R) :
    Option (Projection R) → List (Projection R) →
      Option (Projection R) × List (Projection R)
  | best, [] => (best, [])
  | best, entry :: rest =>
    if entry.distance < distance - separationM then
      passBefore distance (better best entry) rest
    else (best, entry :: rest)

def Snap.after (snap : Snap R) (best : Option (Projection R)) :
    Projection R where
  distance := snap.distance
  point := snap.point
  score := snap.distanceM ^ 2 + best.elim 0 Projection.score
  previous := best

/-- The loop over the segments; a stop that is not the first one follows
another. -/
def candidatesFrom (follows : Bool) :
    Option (Projection R) → List (Projection R) → List (Snap R) →
      List (Projection R)
  | _, _, [] => []
  | best, remaining, snap :: rest =>
    let passed := passBefore snap.distance best remaining
    if follows && passed.1.isNone then
      candidatesFrom follows passed.1 passed.2 rest
    else snap.after passed.1 :: candidatesFrom follows passed.1 passed.2 rest

/-- The loop over so many stops from an index on; `none` where a stop has no
candidate. -/
def candidatesOfStops (snaps : Nat → List (Snap R)) (firstStopIndex : Nat) :
    Nat → Nat → List (Projection R) → Option (List (Projection R))
  | 0, _, previous => some previous
  | count + 1, index, previous =>
    let candidates := candidatesFrom (decide (index > firstStopIndex)) none
      previous (snaps index)
    if candidates.isEmpty then none
    else candidatesOfStops snaps firstStopIndex count (index + 1) candidates

/-- `previous.reduce((a, b) => a.score <= b.score ? a : b)` -/
def selectBest : List (Projection R) → Option (Projection R)
  | [] => none
  | entry :: rest =>
    some (rest.foldl
      (fun best entry => if best.score ≤ entry.score then best else entry)
      entry)

/-- The vertices between two distances. -/
def inside (geometry : Geometry R) (path : List (LatLng R)) (start stop : R) :
    List (LatLng R) :=
  let cumulative := polylineDistances geometry path
  (path.zipIdx.filter fun (_, index) =>
    decide (cumulative.getD index 0 > start + separationM) &&
      decide (cumulative.getD index 0 < stop - separationM)).map Prod.fst

/-- The leg that ends at a stop, where it is long enough. -/
def legOf (geometry : Geometry R) (path : List (LatLng R))
    (boundaries : List (Projection R)) (firstStopIndex stopIndex : Nat) :
    Option (List (LatLng R)) :=
  let start :=
    if stopIndex = firstStopIndex then some (0, vertex path 0)
    else
      boundaries[stopIndex - firstStopIndex - 1]?.map fun start =>
        (start.distance, start.point)
  match start, boundaries[stopIndex - firstStopIndex]? with
  | some (distance, point), some stop =>
    if stop.distance - distance < separationM then none
    else
      some (point :: inside geometry path distance stop.distance ++
        [stop.point])
  | _, _ => none

/-- The boundaries that are chosen, where every stop has one. -/
def routeBoundaries (geometry : Geometry R) (path stops : List (LatLng R))
    (firstStopIndex : Nat) : Option (List (Projection R)) :=
  ((candidatesOfStops (snapsOf geometry path stops firstStopIndex)
      firstStopIndex (stops.length - firstStopIndex) firstStopIndex []).bind
    selectBest).map Projection.boundaries

/-- The legs with their stops, in the order of the map, where the first stop
index is a safe integer (or `none`). -/
def routeLegPaths (geometry : Geometry R) (path stops : List (LatLng R))
    (firstStopIndex : Option Int) : List (Nat × List (LatLng R)) :=
  match firstStopIndex with
  | none => []
  | some firstStopIndex =>
    if path.length < 2 ∨ stops.length < 2 ∨ firstStopIndex < 0 ∨
        firstStopIndex ≥ stops.length then []
    else
      match routeBoundaries geometry path stops firstStopIndex.toNat with
      | none => []
      | some boundaries =>
        let first := max 1 firstStopIndex.toNat
        (List.range' first (stops.length - first)).filterMap
          fun stopIndex =>
            (legOf geometry path boundaries firstStopIndex.toNat
              stopIndex).map fun leg => (stopIndex, leg)

end Eki.PassengerMap
