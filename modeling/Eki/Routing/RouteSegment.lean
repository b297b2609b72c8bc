import Mathlib.Algebra.Order.Ring.Defs
import Mathlib.Algebra.Order.Monoid.WithTop
import Eki.Library.Placement

/-!
# Route segments

The stops of a direction are placed on the vertices of its polyline in order,
as close as the order permits, and a segment is the slice between two of them.
The arithmetic is exact, and a cost may be infinite.
-/

namespace Eki.Segments

structure LatLng (R : Type) where
  lat : R
  lng : R

variable {R : Type} [CommRing R] [LinearOrder R]

def squaredDistance (vertex stop : LatLng R) : R :=
  let dLat := vertex.lat - stop.lat
  let dLng := vertex.lng - stop.lng
  dLat * dLat + dLng * dLng

/-- The inner loop from one vertex on: the cost of each vertex, and the vertex
of the previous stop behind it (`none` is -1). -/
def placeFrom (previousCost : Option (List (WithTop R))) (stop : LatLng R) :
    Nat → WithTop R → Option Nat → List (LatLng R) →
      List (WithTop R × Option Nat)
  | _, _, _, [] => []
  | index, prefixCost, prefixIndex, vertex :: rest =>
    let (prefixCost, prefixIndex) :=
      match previousCost.bind fun costs => costs[index]? with
      | none => (prefixCost, prefixIndex)
      | some cost =>
        if cost < prefixCost then (cost, some index)
        else (prefixCost, prefixIndex)
    (((squaredDistance vertex stop : R) : WithTop R) + prefixCost,
        prefixIndex) ::
      placeFrom previousCost stop (index + 1) prefixCost prefixIndex rest

def placeStop (coordinates : List (LatLng R))
    (previousCost : Option (List (WithTop R))) (stop : LatLng R) :
    List (WithTop R × Option Nat) :=
  placeFrom previousCost stop 0 (if previousCost.isSome then ⊤ else 0) none
    coordinates

/-- The rows of the table: the choices, the latest first, and the costs of the
last stop. -/
def placeStops (coordinates : List (LatLng R)) (stops : List (LatLng R)) :
    List (List (Option Nat)) × Option (List (WithTop R)) :=
  stops.foldl
    (fun (choices, previousCost) stop =>
      let row := placeStop coordinates previousCost stop
      (row.map Prod.snd :: choices, some (row.map Prod.fst)))
    ([], none)

def latestLeast (costs : List (WithTop R)) : Nat :=
  (List.range' 1 (costs.length - 1)).foldl
    (fun index candidate =>
      if costs.getD candidate ⊤ ≤ costs.getD index ⊤ then candidate else index)
    0

/-- The indices of the stops from the last one back; the choice of the first
stop is read and not used. -/
def backTrace : List (List (Option Nat)) → Nat → List Nat
  | [], _ => []
  | choice :: earlier, index =>
    backTrace earlier ((choice.getD index none).getD 0) ++ [index]

def projectStopsInOrder (coordinates : List (LatLng R))
    (stops : List (LatLng R)) : List Nat :=
  match placeStops coordinates stops with
  | (_, none) => []
  | (choices, some costs) => backTrace choices (latestLeast costs)

structure RouteSegment (R T : Type) where
  coordinates : List (LatLng R)
  stops : List T

/-- A stop is known by its identity. -/
def buildRouteSegment {T : Type} [DecidableEq T] (location : T → LatLng R)
    (fullCoordinates : List (LatLng R)) (stops : List T) (start stop : T)
    (via : Option T) : Except String (RouteSegment R T) :=
  if fullCoordinates.length < 2 then
    .error "Route polyline must contain at least two coordinates."
  else
    match stops.idxOf? start, stops.idxOf? stop with
    | some startPosition, some endPosition =>
      if startPosition ≥ endPosition then
        .error "Start stop must come before the end stop in travel order."
      else if via.any fun via =>
          (stops.idxOf? via).all fun viaPosition =>
            decide (viaPosition ≤ startPosition) ||
              decide (viaPosition ≥ endPosition) then
        .error "Via stop is not between the selected start and end stops."
      else
        let indices := projectStopsInOrder fullCoordinates (stops.map location)
        let startIndex := indices.getD startPosition 0
        let endIndex := indices.getD endPosition 0
        if startIndex ≥ endIndex then
          .error
            "Start and end stops are too close together on the polyline."
        else
          .ok
            { coordinates :=
                (fullCoordinates.take (endIndex + 1)).drop startIndex
              stops := (stops.take (endPosition + 1)).drop startPosition }
    | _, _ =>
      .error "Selected start or end stop is not part of the route."

end Eki.Segments
