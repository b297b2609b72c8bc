import Eki.Library.Insertion
import Eki.Library.Transition
import Eki.PassengerMap.RouteLegPaths

/-!
# Arrival estimates

The map keeps the positions of the stops along each route, and estimates when
a bus reaches the stops ahead of it from its own position.
-/

namespace Eki.PassengerMap

open Insertion (OrderedMap)
open Segments (LatLng)
open RouteMatching (Geometry)

structure EtaStopPoint (R : Type) where
  id : String
  location : LatLng R

abbrev StopKey (R : Type) := String × R × R

def stopProjectionKey {R : Type} (stop : EtaStopPoint R) : StopKey R :=
  (stop.id, stop.location.lat, stop.location.lng)

/-- A path is an object that is not changed; it is compared by identity. -/
structure StopProjectionEntry (R Path : Type) where
  path : Path
  stopsKey : List (StopKey R)
  firstStopIndex : Int
  positions : OrderedMap (StopKey R) (Option R)
  legs : List (Nat × List (LatLng R))
  offsets : OrderedMap Nat R

/-- The entries by their route keys, the oldest one first. -/
abbrev StopProjectionCache (R Path : Type) :=
  OrderedMap String (StopProjectionEntry R Path)

def maxEntries : Nat := 16

variable {R : Type} [Field R] [LinearOrder R]

/-- `cumulative[cumulative.length - 1]` -/
def polylineLength (geometry : Geometry R) (path : List (LatLng R)) : R :=
  let cumulative := polylineDistances geometry path
  cumulative.getD (cumulative.length - 1) 0

/-- What the loop over the legs carries. -/
structure PlacedLegs (R : Type) where
  distance : R
  positions : OrderedMap (StopKey R) (Option R)
  offsets : OrderedMap Nat R

/-- One round of the loop over the legs. -/
def placeLeg (geometry : Geometry R) (stops : List (EtaStopPoint R))
    (legs : List (Nat × List (LatLng R))) (placed : PlacedLegs R)
    (stopIndex : Nat) : PlacedLegs R :=
  let distance := placed.distance +
    polylineLength geometry ((legs.lookup stopIndex).getD [])
  { distance := distance
    positions := stops[stopIndex]?.elim placed.positions fun stop =>
      placed.positions.set (stopProjectionKey stop) (some distance)
    offsets := placed.offsets.set stopIndex placed.distance }

def projectStops (geometry : Geometry R) (path : List (LatLng R))
    (stops : List (EtaStopPoint R)) (firstStopIndex : Int) :
    OrderedMap (StopKey R) (Option R) × List (Nat × List (LatLng R)) ×
      OrderedMap Nat R :=
  let itinerary := routeLegPaths geometry path
    (stops.map EtaStopPoint.location) (some firstStopIndex)
  if stops.length > 1 ∧ itinerary.length > 0 ∧
      (itinerary.length : Int) = stops.length - max 1 firstStopIndex then
    let start : OrderedMap (StopKey R) (Option R) :=
      if firstStopIndex = 0 then
        stops.head?.elim .empty fun stop =>
          OrderedMap.empty.set (stopProjectionKey stop) (some 0)
      else .empty
    let first := (max 1 firstStopIndex).toNat
    let placed := (List.range' first (stops.length - first)).foldl
      (placeLeg geometry stops itinerary)
      { distance := 0
        positions := start
        offsets := .empty }
    (placed.positions, itinerary, placed.offsets)
  else
    (stops.foldl
      (fun positions stop =>
        positions.set (stopProjectionKey stop)
          (positionAlongPolyline geometry stop.location path SnapOptions.none))
      .empty, [], .empty)

section Cache

variable {Path : Type} [DecidableEq Path] (geometry : Geometry R)
  (points : Path → List (LatLng R))

/-- Where there are too many entries, the oldest one goes. -/
def evictOldest (entries : StopProjectionCache R Path) :
    StopProjectionCache R Path :=
  if entries.size > maxEntries then entries.oldest.elim entries entries.delete
  else entries

def StopProjectionCache.positions (cache : StopProjectionCache R Path)
    (routeKey : String) (path : Path) (stops : List (EtaStopPoint R))
    (firstStopIndex : Int) :
    OrderedMap (StopKey R) (Option R) × StopProjectionCache R Path :=
  let stopsKey := stops.map stopProjectionKey
  let projected := projectStops geometry (points path) stops firstStopIndex
  let renewed : StopProjectionCache R Path :=
    evictOldest ((cache.delete routeKey).set routeKey
      { path := path
        stopsKey := stopsKey
        firstStopIndex := firstStopIndex
        positions := projected.1
        legs := projected.2.1
        offsets := projected.2.2 })
  match cache.get routeKey with
  | none => (projected.1, renewed)
  | some existing =>
    if existing.path = path ∧ existing.stopsKey = stopsKey ∧
        existing.firstStopIndex = firstStopIndex then
      (existing.positions, cache)
    else (projected.1, renewed)

def StopProjectionCache.busPosition (cache : StopProjectionCache R Path)
    (routeKey : String) (point : LatLng R) (heading : R)
    (nextStopIndex : Nat) : Option R :=
  (cache.get routeKey).bind fun entry =>
    let legIndex := max 1 nextStopIndex
    let leg := entry.legs.lookup legIndex
    (positionAlongPolyline geometry point (leg.getD (points entry.path))
      { SnapOptions.none with headingDegrees := some heading }).map
        fun position =>
          position +
            (if leg.isSome then (entry.offsets.get legIndex).getD 0 else 0)

inductive CacheCall (R Path : Type) where
  | positions (routeKey : String) (path : Path)
      (stops : List (EtaStopPoint R)) (firstStopIndex : Int)
  | clear

def StopProjectionCache.step :
    Transition.System (StopProjectionCache R Path) (CacheCall R Path)
  | cache, .positions routeKey path stops firstStopIndex =>
    some (positions geometry points cache routeKey path stops firstStopIndex).2
  | _, .clear => some .empty

end Cache

/-- The arguments; `none` is undefined, and `some none` is null. -/
structure ArrivalParams (R : Type) where
  busPoint : LatLng R
  heading : R
  speedKmh : R
  delayMinutes : R
  path : List (LatLng R)
  remainingStops : List (EtaStopPoint R)
  now : R
  stopPositions : Option (OrderedMap (StopKey R) (Option R))
  busPathPosition : Option (Option R)

end Eki.PassengerMap
