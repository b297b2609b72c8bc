import Eki.Routing.PolylineUtils
import Eki.Trip.JsNumber

/-!
# Geometry of long routes

A route with more stops than one request may name is computed in pieces that
share one stop, and the pieces are put together.
-/

namespace Eki.RouteGeometry

open Polyline

def maxRouteStops : Nat := 100

def maxRequestPoints : Nat := 27

/-- `Number` of a decimal numeral and the text of a number. -/
structure Numerals (R : Type) where
  number : List CodeUnit → R
  text : R → List CodeUnit

structure Geometry (R : Type) where
  polyline : List CodeUnit
  distanceMeters : R
  duration : List CodeUnit

inductive Thrown (E : Type) where
  | error (message : String)
  | reason (reason : E)

variable {R E : Type}

def chunkLoop (points : List LatLng) (index : Nat) : List (List LatLng) :=
  if index < points.length - 1 then
    (points.drop index).take maxRequestPoints ::
      chunkLoop points (index + (maxRequestPoints - 1))
  else []
termination_by points.length - index
decreasing_by
  rename_i inside
  have step : maxRequestPoints - 1 = 26 := rfl
  omega

/-- The requests, or the error for too few or too many points. -/
def requests (points : List LatLng) :
    Except (Thrown E) (List (List LatLng)) :=
  if points.length < 2 ∨ points.length > maxRouteStops + 1 then
    .error (.error "Invalid route waypoint count")
  else .ok (chunkLoop points 0)

/-- The outcomes in the order of the requests; the first rejection counts. -/
def fulfilled : List (Except (Thrown E) (Geometry R)) →
    Except (Thrown E) (List (Geometry R))
  | [] => .ok []
  | .error thrown :: _ => .error thrown
  | .ok geometry :: rest => (fulfilled rest).map (geometry :: ·)

def isDigit (unit : CodeUnit) : Bool :=
  decide (48 ≤ unit.toNat) && decide (unit.toNat ≤ 57)

/-- The group of `/^(\d+(?:\.\d+)?)s$/`. -/
def durationNumeral (duration : List CodeUnit) : Option (List CodeUnit) :=
  let whole := duration.takeWhile isDigit
  if whole.isEmpty then none
  else
    match duration.dropWhile isDigit with
    | [115] => some whole
    | 46 :: tail =>
      let decimals := tail.takeWhile isDigit
      if decimals.isEmpty then none
      else if tail.dropWhile isDigit = [115] then
        some (whole ++ 46 :: decimals)
      else none
    | _ => none

def pushPoint (path : List LatLng) (point : LatLng) : List LatLng :=
  match path.getLast? with
  | none => path ++ [point]
  | some last =>
    if point.lat ≠ last.lat ∨ point.lng ≠ last.lng then path ++ [point]
    else path

structure Combined (R : Type) where
  path : List LatLng
  distanceMeters : R
  seconds : R

section Combining

variable [JsNumber R] (numerals : Numerals R)

/-- One round of the loop over the results. -/
def addResult (combined : Combined R) (result : Geometry R) :
    Except (Thrown E) (Combined R) :=
  match decodePolyline result.polyline with
  | .error message => .error (.error message)
  | .ok decoded =>
    match durationNumeral result.duration with
    | none => .error (.error "Invalid route chunk geometry")
    | some numeral =>
      if decoded.length < 2 ∨
          JsNumber.isFinite result.distanceMeters = false ∨
          result.distanceMeters < 0 then
        .error (.error "Invalid route chunk geometry")
      else
        .ok
          { path := decoded.foldl pushPoint combined.path
            distanceMeters :=
              combined.distanceMeters + result.distanceMeters
            seconds := combined.seconds + numerals.number numeral }

def addResults : Combined R → List (Geometry R) →
    Except (Thrown E) (Combined R)
  | combined, [] => .ok combined
  | combined, result :: results =>
    match addResult numerals combined result with
    | .error thrown => .error thrown
    | .ok next => addResults next results

def combine (results : List (Geometry R)) : Except (Thrown E) (Geometry R) :=
  match addResults numerals
      { path := []
        distanceMeters := 0
        seconds := 0 } results with
  | .error thrown => .error thrown
  | .ok combined =>
    let polyline := encodePolyline combined.path
    if polyline.length > 500000 then
      .error (.error "Combined route geometry is too large")
    else
      .ok
        { polyline := polyline
          distanceMeters := combined.distanceMeters
          duration := numerals.text combined.seconds ++ [115] }

/-- `compute` answers the request of this place, or never does. -/
def computeOrderedRouteGeometry
    (compute : Nat → List LatLng → Option (Except (Thrown E) (Geometry R)))
    (points : List LatLng) : Option (Except (Thrown E) (Geometry R)) :=
  match requests points with
  | .error thrown => some (.error thrown)
  | .ok chunks =>
    ((chunks.mapIdx compute).mapM id).map fun outcomes =>
      match fulfilled outcomes with
      | .error thrown => .error thrown
      | .ok [result] => .ok result
      | .ok results => combine numerals results

end Combining

/-- What the routes API answers for a request, with whether it fell back on
other traffic data. -/
structure Provider (R E O : Type) where
  request : LatLng → LatLng → List LatLng → O →
    Except (Thrown E) (Geometry R × Bool)
  withoutHeading : O → O
  /-- The chunk of this place starts with the object of the origin. -/
  startsAtOrigin : Nat → Bool

def validPoint (point : LatLng) : Bool :=
  decide (-90 ≤ point.lat) && decide (point.lat ≤ 90) &&
    decide (-180 ≤ point.lng) && decide (point.lng ≤ 180)

def invalidWaypoints : Thrown E :=
  .error "Route waypoints must have valid latitude and longitude."

variable [JsNumber R] {O : Type}

/-- What computes one chunk of a route: the same function, for its ends and
the points between them. -/
def computeChunk (provider : Provider R E O)
    (compute : LatLng → LatLng → List LatLng → O →
      Option (Except (Thrown E) (Geometry R × Bool)))
    (origin : LatLng) (options : O) (place : Nat) (chunk : List LatLng) :
    Option (Except (Thrown E) (Geometry R × Bool)) :=
  compute (chunk.head?.getD origin) (chunk.getLast?.getD origin)
    chunk.tail.dropLast
    (if provider.startsAtOrigin place then options
      else provider.withoutHeading options)

def fellBack : Option (Except (Thrown E) (Geometry R × Bool)) → Bool
  | some (.ok result) => result.2
  | _ => false

/-- The calls nest at most so deep; deeper ones do not return. -/
def computeRouteGeometry (numerals : Numerals R) (provider : Provider R E O) :
    Nat → LatLng → LatLng → List LatLng → O →
      Option (Except (Thrown E) (Geometry R × Bool))
  | 0, _, _, _, _ => none
  | depth + 1, origin, destination, intermediates, options =>
    if !validPoint origin || !validPoint destination ||
        !intermediates.all validPoint then
      some (.error invalidWaypoints)
    else if intermediates.length > 25 then
      let points := origin :: intermediates ++ [destination]
      let compute := computeChunk provider
        (computeRouteGeometry numerals provider depth) origin options
      let geometry := computeOrderedRouteGeometry numerals
        (fun place chunk => (compute place chunk).map (·.map Prod.fst))
        points
      let trafficFallback :=
        ((chunkLoop points 0).mapIdx compute).any fellBack
      geometry.map (·.map fun result => (result, trafficFallback))
    else some (provider.request origin destination intermediates options)

end Eki.RouteGeometry
