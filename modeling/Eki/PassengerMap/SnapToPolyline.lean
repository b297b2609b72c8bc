import Eki.Routing.WindowedMatch

/-!
# Snapping to the route on the map

The map of the passengers projects points on the segments of a path.  The
projection itself and the distances along the path are computed as the backend
computes them.
-/

namespace Eki.PassengerMap

open Segments (LatLng)
open RouteMatching

variable {R : Type} [Field R] [LinearOrder R]

structure SnapOptions (R : Type) where
  maxDistanceM : Option R
  preferredSegmentIndex : Option R
  maxSegmentJump : Option R
  headingDegrees : Option R

def SnapOptions.none : SnapOptions R where
  maxDistanceM := .none
  preferredSegmentIndex := .none
  maxSegmentJump := .none
  headingDegrees := .none

structure SnapResult (R : Type) where
  point : LatLng R
  distanceM : R
  segmentIndex : Nat
  segmentFraction : R

structure BestSnap (R : Type) extends SnapResult R where
  score : R

def continuityHint (path : List (LatLng R)) (options : SnapOptions R) :
    Option R :=
  options.preferredSegmentIndex.filter fun preferred =>
    decide (preferred ≥ 0) && decide (preferred < (path.length : R) - 1)

/-- One round of the loop over the segments. -/
def considerSegment (geometry : Geometry R) (rawPoint : LatLng R)
    (path : List (LatLng R)) (options : SnapOptions R) (hint : Option R)
    (best : Option (BestSnap R)) (segmentIndex : Nat) :
    Option (BestSnap R) :=
  let maxJump := options.maxSegmentJump.getD (25 : Nat)
  if hint.any fun preferred =>
      decide (|(segmentIndex : R) - preferred| > maxJump) then best
  else
    let start := vertex path segmentIndex
    let stop := vertex path (segmentIndex + 1)
    let projection := projectToSegment geometry rawPoint start stop
    let headingPenalty :=
      options.headingDegrees.elim 0 fun headingDegrees =>
        geometry.angularDifference headingDegrees
          (geometry.segmentHeading start stop) / (18 : Nat)
    let score := projection.distanceM + headingPenalty
    if best.all fun best => decide (score < best.score) then
      some
        { point := projection.point
          distanceM := projection.distanceM
          segmentIndex := segmentIndex
          segmentFraction := projection.fraction
          score := score }
    else best

/-- The best segment that the hint admits, where it is near enough. -/
def snapWithin (geometry : Geometry R) (rawPoint : LatLng R)
    (path : List (LatLng R)) (options : SnapOptions R) (hint : Option R) :
    Option (SnapResult R) :=
  let best := (List.range (path.length - 1)).foldl
    (considerSegment geometry rawPoint path options hint) none
  (best.filter fun best =>
    decide (best.distanceM ≤ options.maxDistanceM.getD (50 : Nat))).map
      BestSnap.toSnapResult

/-- `none` where the point is not snapped. -/
def snapToPolyline (geometry : Geometry R) (rawPoint : LatLng R)
    (path : List (LatLng R)) (options : SnapOptions R) :
    Option (SnapResult R) :=
  if path.length < 2 || !geometry.isFinite rawPoint.lat ||
      !geometry.isFinite rawPoint.lng then none
  else
    let hint := continuityHint path options
    match snapWithin geometry rawPoint path options hint with
    | some snap => some snap
    | none =>
      if hint.isSome then snapWithin geometry rawPoint path options none
      else none

/-- `cumulative` of `preparePolylineDistanceIndex`. -/
def polylineDistances (geometry : Geometry R) (path : List (LatLng R)) :
    List R :=
  cumulativeDistances geometry path

def positionAlongPolyline (geometry : Geometry R) (point : LatLng R)
    (path : List (LatLng R)) (options : SnapOptions R) : Option R :=
  if path.length < 2 then none
  else
    (snapToPolyline geometry point path options).map fun snap =>
      alongRoute (polylineDistances geometry path) snap.segmentIndex
        snap.segmentFraction

/-! ## Snapped points lie on the path -/

structure OnPath (path : List (LatLng R)) (snap : SnapResult R) : Prop where
  segment : snap.segmentIndex < path.length - 1
  nonneg : 0 ≤ snap.segmentFraction
  atMost : snap.segmentFraction ≤ 1

variable [IsStrictOrderedRing R] {geometry : Geometry R} {rawPoint : LatLng R}
  {path : List (LatLng R)} {options : SnapOptions R} {hint : Option R}

theorem considerSegment_onPath {best : Option (BestSnap R)}
    {segmentIndex : Nat} (inRange : segmentIndex < path.length - 1)
    (before : ∀ snap ∈ best, OnPath path snap.toSnapResult) :
    ∀ snap ∈ considerSegment geometry rawPoint path options hint best
      segmentIndex, OnPath path snap.toSnapResult := by
  intro snap considered
  simp only [considerSegment] at considered
  split at considered
  · exact before snap considered
  · split at considered
    · cases considered
      constructor
      · exact inRange
      · exact projectToSegment_fraction_nonneg _ _ _ _
      · exact projectToSegment_fraction_le_one _ _ _ _
    · exact before snap considered

theorem foldl_considerSegment_onPath {segments : List Nat}
    (inRange : ∀ segment ∈ segments, segment < path.length - 1)
    {best : Option (BestSnap R)}
    (before : ∀ snap ∈ best, OnPath path snap.toSnapResult) :
    ∀ snap ∈ segments.foldl
      (considerSegment geometry rawPoint path options hint) best,
      OnPath path snap.toSnapResult := by
  induction segments generalizing best with
  | nil => exact before
  | cons segment segments induction =>
    apply induction
    · intro other member
      exact inRange other (List.mem_cons_of_mem _ member)
    · exact considerSegment_onPath (inRange segment List.mem_cons_self) before

theorem snapWithin_onPath {snap : SnapResult R}
    (snapped : snapWithin geometry rawPoint path options hint = some snap) :
    OnPath path snap := by
  obtain ⟨best, near, rfl⟩ := Option.map_eq_some_iff.mp snapped
  have found := (Option.filter_eq_some_iff.mp near).1
  have start : ∀ snap ∈ (none : Option (BestSnap R)),
      OnPath path snap.toSnapResult := by
    intro snap held
    cases held
  exact foldl_considerSegment_onPath (fun _ => List.mem_range.mp) start best
    found

theorem snapToPolyline_onPath {snap : SnapResult R}
    (snapped : snapToPolyline geometry rawPoint path options = some snap) :
    OnPath path snap := by
  simp only [snapToPolyline] at snapped
  split at snapped
  · cases snapped
  · split at snapped
    · rename_i within
      cases snapped
      exact snapWithin_onPath within
    · split at snapped
      · exact snapWithin_onPath snapped
      · cases snapped

theorem polylineDistances_mono (path : List (LatLng R)) {lower upper : Nat}
    (ordered : lower ≤ upper) (inRange : upper < path.length) :
    (polylineDistances geometry path).getD lower 0 ≤
      (polylineDistances geometry path).getD upper 0 := by
  apply getD_mono (cumulativeDistances_sorted geometry path) ordered
  rw [length_cumulativeDistances]
  exact inRange

theorem alongRoute_between {segment : Nat} {fraction : R}
    (inRange : segment < path.length - 1) (nonneg : 0 ≤ fraction)
    (atMost : fraction ≤ 1) :
    (polylineDistances geometry path).getD segment 0 ≤
        alongRoute (polylineDistances geometry path) segment fraction ∧
      alongRoute (polylineDistances geometry path) segment fraction ≤
        (polylineDistances geometry path).getD (segment + 1) 0 := by
  have ordered := @polylineDistances_mono R _ _ _ geometry path segment
    (segment + 1) (Nat.le_succ segment) (by omega)
  exact ⟨alongRoute_ge nonneg ordered, alongRoute_le atMost ordered⟩

end Eki.PassengerMap
