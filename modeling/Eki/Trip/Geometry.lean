import Eki.Trip.JsNumber

/-!
# Route geometry

Great-circle distance and the flat local frame in which the trip lifecycle
compares a fix with a stop, with the leg between two fixes and with the legs
of the route.
-/

namespace Eki

variable {R : Type} [JsNumber R]

structure TripRouteStop (R : Type) where
  lat : R
  lng : R

def toRadians (degrees : R) : R := degrees * JsNumber.pi / 180

/-- Great-circle distance; a position off the globe is infinitely far. -/
def haversineMeters (a b : TripRouteStop R) : R :=
  if !([a.lat, a.lng, b.lat, b.lng].all JsNumber.isFinite) ||
      decide (JsNumber.abs a.lat > (90 : R)) ||
      decide (JsNumber.abs b.lat > (90 : R)) ||
      decide (JsNumber.abs a.lng > (180 : R)) ||
      decide (JsNumber.abs b.lng > (180 : R)) then
    JsNumber.infinity
  else
    let earthRadiusM : R := 6371000
    let deltaLat := toRadians (b.lat - a.lat)
    let deltaLng := toRadians (b.lng - a.lng)
    let sinLat := JsNumber.sin (deltaLat / 2)
    let sinLng := JsNumber.sin (deltaLng / 2)
    let haversine := sinLat * sinLat +
      JsNumber.cos (toRadians a.lat) * JsNumber.cos (toRadians b.lat) *
        sinLng * sinLng
    let boundedHaversine := JsNumber.min 1 (JsNumber.max 0 haversine)
    earthRadiusM * 2 *
      JsNumber.atan2 (JsNumber.sqrt boundedHaversine)
        (JsNumber.sqrt (1 - boundedHaversine))

def metersPerLatitudeDegree : R := 111320

def distanceToSegmentMeters (point start finish : TripRouteStop R) : R :=
  let metersPerLongitudeDegree :=
    metersPerLatitudeDegree * JsNumber.cos (point.lat * JsNumber.pi / 180)
  let startX := (start.lng - point.lng) * metersPerLongitudeDegree
  let startY := (start.lat - point.lat) * metersPerLatitudeDegree
  let endX := (finish.lng - point.lng) * metersPerLongitudeDegree
  let endY := (finish.lat - point.lat) * metersPerLatitudeDegree
  let deltaX := endX - startX
  let deltaY := endY - startY
  let lengthSquared := deltaX * deltaX + deltaY * deltaY
  if lengthSquared == 0 then
    JsNumber.hypot startX startY
  else
    let projection := JsNumber.min 1 (JsNumber.max 0
      (-(startX * deltaX + startY * deltaY) / lengthSquared))
    JsNumber.hypot (startX + projection * deltaX)
      (startY + projection * deltaY)

/-- Metres east and north. -/
structure LocalVector (R : Type) where
  x : R
  y : R

def LocalVector.length (vector : LocalVector R) : R :=
  JsNumber.hypot vector.x vector.y

def localVector (start finish : TripRouteStop R) : LocalVector R :=
  { x := (finish.lng - start.lng) * metersPerLatitudeDegree *
      JsNumber.cos (start.lat * JsNumber.pi / 180)
    y := (finish.lat - start.lat) * metersPerLatitudeDegree }

def stopAt (stops : List (TripRouteStop R)) (index : Nat) : TripRouteStop R :=
  stops.getD index { lat := 0, lng := 0 }

def minDirectionEvidenceM : R := 3

def maxRecoveryHeadingDifferenceDeg : R := 70

/-- Whether travel between two fixes runs along the leg arriving at
`stops[index]` or the leg leaving it, within the recovery tolerance. -/
def travelsRouteWayThrough (stops : List (TripRouteStop R)) (index : Nat)
    (start finish : TripRouteStop R) : Bool :=
  let travel := localVector start finish
  let travelled := travel.length
  if travelled < minDirectionEvidenceM then
    false
  else
    let legs : List (Option (LocalVector R)) :=
      [if 0 < index then
          some (localVector (stopAt stops (index - 1)) (stopAt stops index))
        else none,
        if index < stops.length - 1 then
          some (localVector (stopAt stops index) (stopAt stops (index + 1)))
        else none]
    legs.any fun
      | none => false
      | some leg =>
        let length := leg.length
        if length == 0 then
          false
        else
          let cosine :=
            (travel.x * leg.x + travel.y * leg.y) / (travelled * length)
          decide (cosine ≥ JsNumber.cos
            (maxRecoveryHeadingDifferenceDeg * JsNumber.pi / 180))

def minOffsideTravelM : R := 2

inductive KerbSide where
  | left
  | right

/-- Traffic keeps left. -/
def nearKerbSide : KerbSide := .left

/-- Metres a stop lies to the far side of the travel.  `none` when neither the fixes nor the course show a direction. -/
def offsideMeters (stop position : TripRouteStop R)
    (start : Option (TripRouteStop R)) (headingDegrees : Option R) :
    Option R :=
  let fixes := start.map fun previous => localVector previous position
  let travel : Option (LocalVector R) :=
    match fixes.filter fun vector => !decide (vector.length < minOffsideTravelM) with
    | some vector => some vector
    | none =>
      match headingDegrees with
      | none => none
      | some heading =>
        if JsNumber.isFinite heading then
          let radians := heading * JsNumber.pi / 180
          some { x := JsNumber.sin radians, y := JsNumber.cos radians }
        else
          none
  travel.map fun vector =>
    let toStop := localVector position stop
    let leftM :=
      (vector.x * toStop.y - vector.y * toStop.x) / vector.length
    match nearKerbSide with
    | .left => -leftM
    | .right => leftM

/-- Whether the route turns back between `stops[index - 1]` and
`stops[index]`: a pair of stops on opposite kerbs, a turn apart. -/
def reversesBetween (stops : List (TripRouteStop R)) (index : Nat) : Bool :=
  if index < 2 then
    false
  else
    let arriving :=
      localVector (stopAt stops (index - 2)) (stopAt stops (index - 1))
    let next :=
      if index < stops.length - 1 then
        localVector (stopAt stops index) (stopAt stops (index + 1))
      else
        localVector (stopAt stops (index - 1)) (stopAt stops index)
    let lengths := arriving.length * next.length
    if lengths == 0 then
      false
    else
      let cosine := (arriving.x * next.x + arriving.y * next.y) / lengths
      if index < stops.length - 1 then
        decide (cosine < -(1 / 2 : R))
      else
        decide (JsNumber.abs cosine < (1 / 2 : R)) ||
          decide (cosine < -(1 / 2 : R))

end Eki
