import Mathlib.Algebra.Order.Ring.Rat
import Mathlib.Data.List.GetD
import Mathlib.Tactic.Linarith
import Mathlib.Tactic.Positivity
import Eki.Routing.RouteMatching

/-!
# The windowed match is the full scan

The distances along the route never decrease, so the two bisections divide the
vertices, and a segment outside the window lies beyond the progress that the
scan accepts.
-/

namespace Eki.RouteMatching

open Segments (LatLng)

variable {R : Type} [Field R] [LinearOrder R]

/-! ## The distances along the route -/

theorem length_distancesFrom (geometry : Geometry R) (rest : List (LatLng R))
    (distance : R) (start : LatLng R) :
    (distancesFrom geometry distance start rest).length = rest.length + 1 := by
  induction rest generalizing distance start with
  | nil => rfl
  | cons stop rest induction =>
    rw [distancesFrom, List.length_cons, induction, List.length_cons]

theorem length_cumulativeDistances (geometry : Geometry R)
    (path : List (LatLng R)) :
    (cumulativeDistances geometry path).length = path.length := by
  cases path with
  | nil => rfl
  | cons start rest => exact length_distancesFrom geometry rest 0 start

variable [IsStrictOrderedRing R]

theorem distancesFrom_sorted (geometry : Geometry R) (rest : List (LatLng R))
    (distance : R) (start : LatLng R) :
    (distancesFrom geometry distance start rest).Pairwise (· ≤ ·) := by
  rw [← List.isChain_iff_pairwise]
  induction rest generalizing distance start with
  | nil => exact .singleton _
  | cons stop rest induction =>
    have grows : distance ≤ distance + geometry.haversineMeters start stop :=
      le_add_of_nonneg_right (geometry.haversineMeters_nonneg start stop)
    cases rest with
    | nil | cons => exact .cons_cons grows (induction _ stop)

/-- Repeated vertices keep the distance, and no vertex lowers it. -/
theorem cumulativeDistances_sorted (geometry : Geometry R)
    (path : List (LatLng R)) :
    (cumulativeDistances geometry path).Pairwise (· ≤ ·) := by
  cases path with
  | nil => exact List.Pairwise.nil
  | cons start rest => exact distancesFrom_sorted geometry rest 0 start

variable {values : List R}

omit [IsStrictOrderedRing R] in
theorem getD_mono (sorted : values.Pairwise (· ≤ ·)) {lower upper : Nat}
    (ordered : lower ≤ upper) (inRange : upper < values.length) :
    values.getD lower 0 ≤ values.getD upper 0 := by
  rcases Nat.eq_or_lt_of_le ordered with same | before
  · rw [same]
  · rw [List.getD_eq_getElem values 0 (before.trans inRange),
      List.getD_eq_getElem values 0 inRange]
    exact List.pairwise_iff_getElem.mp sorted lower upper
      (before.trans inRange) inRange before

/-! ## The two bisections -/

section

omit [IsStrictOrderedRing R]

variable (sorted : values.Pairwise (· ≤ ·))

include sorted

theorem distanceBound_divides (bound : R) (upper : Bool) :
    Bisection.Divides
      (fun middle =>
        decide (values.getD middle 0 < bound) ||
          (upper && decide (values.getD middle 0 = bound)))
      values.length (distanceBound values bound upper) := by
  apply Bisection.search_divides
  intro earlier later ordered inRange below
  have smaller := getD_mono sorted ordered inRange
  simp only [Bool.or_eq_true, Bool.and_eq_true, decide_eq_true_eq] at below ⊢
  rcases below with less | ⟨isUpper, equal⟩
  · exact Or.inl (smaller.trans_lt less)
  · rcases lt_or_eq_of_le (smaller.trans_eq equal) with less | same
    · exact Or.inl less
    · exact Or.inr ⟨isUpper, same⟩

theorem lt_of_before_lower {bound : R} {index : Nat}
    (before : index < distanceBound values bound false)
    (inRange : index < values.length) : values.getD index 0 < bound := by
  have below := (distanceBound_divides sorted bound false).before index before
    inRange
  simpa only [Bool.false_and, Bool.or_false, decide_eq_true_eq] using below

theorem lt_of_after_upper {bound : R} {index : Nat}
    (after : distanceBound values bound true ≤ index)
    (inRange : index < values.length) : bound < values.getD index 0 := by
  have notBelow := (distanceBound_divides sorted bound true).after index after
    inRange
  simp only [Bool.true_and, Bool.or_eq_false_iff, decide_eq_false_iff_not,
    not_lt] at notBelow
  apply lt_of_le_of_ne notBelow.1
  intro same
  exact notBelow.2 same.symm

end

/-! ## A segment outside the window -/

omit [IsStrictOrderedRing R] in
theorem projectToSegment_fraction_nonneg (geometry : Geometry R)
    (point start stop : LatLng R) :
    0 ≤ (projectToSegment geometry point start stop).fraction := by
  simp only [projectToSegment]
  split
  · exact le_refl 0
  · exact le_max_left _ _

theorem projectToSegment_fraction_le_one (geometry : Geometry R)
    (point start stop : LatLng R) :
    (projectToSegment geometry point start stop).fraction ≤ 1 := by
  simp only [projectToSegment]
  split
  · exact zero_le_one
  · exact max_le zero_le_one (min_le_left _ _)

variable {segmentIndex : Nat} {fraction : R}

theorem alongRoute_ge {cumulative : List R} (nonneg : 0 ≤ fraction)
    (ordered : cumulative.getD segmentIndex 0 ≤
      cumulative.getD (segmentIndex + 1) 0) :
    cumulative.getD segmentIndex 0 ≤
      alongRoute cumulative segmentIndex fraction := by
  have progress := mul_nonneg nonneg (sub_nonneg.mpr ordered)
  simp only [alongRoute]
  linarith

theorem alongRoute_le {cumulative : List R} (atMost : fraction ≤ 1)
    (ordered : cumulative.getD segmentIndex 0 ≤
      cumulative.getD (segmentIndex + 1) 0) :
    alongRoute cumulative segmentIndex fraction ≤
      cumulative.getD (segmentIndex + 1) 0 := by
  have progress := mul_le_of_le_one_left (sub_nonneg.mpr ordered) atMost
  simp only [alongRoute]
  linarith

variable (geometry : Geometry R) (path : List (LatLng R))
  (arguments : MatchArguments R)

theorem segmentWindow_cases (cumulative : List R) :
    segmentWindow geometry path cumulative arguments = (0, path.length - 1) ∨
      ∃ previous maximumProgressChangeM minimum maximum,
        arguments.previous = some previous ∧
        arguments.maximumProgressChangeM = some maximumProgressChangeM ∧
        minimum ≤ previous.alongRouteDistanceM - maximumProgressChangeM ∧
        previous.alongRouteDistanceM + maximumProgressChangeM ≤ maximum ∧
        segmentWindow geometry path cumulative arguments =
          (distanceBound cumulative minimum false - 1,
            min (path.length - 1) (distanceBound cumulative maximum true)) := by
  rw [segmentWindow]
  split
  · rename_i previous maximumProgressChangeM hadPrevious bounded
    split
    · right
      have padded : (0 : R) ≤
          epsilon * max (max 1 |previous.alongRouteDistanceM|)
            maximumProgressChangeM * 4 := by
        have large : (1 : R) ≤
            max (max 1 |previous.alongRouteDistanceM|)
              maximumProgressChangeM :=
          (le_max_left _ _).trans (le_max_left _ _)
        have nonneg := zero_le_one.trans large
        have small : (0 : R) ≤ epsilon := by
          unfold epsilon
          positivity
        have scaled := mul_nonneg small nonneg
        linarith
      refine ⟨previous, maximumProgressChangeM, _, _, hadPrevious, bounded,
        ?_, ?_, rfl⟩
      · linarith
      · linarith
    · exact Or.inl rfl
  · exact Or.inl rfl

theorem segmentWindow_inRange (cumulative : List R) :
    (segmentWindow geometry path cumulative arguments).2 ≤ path.length - 1 := by
  rcases segmentWindow_cases geometry path arguments cumulative with
    whole | ⟨_, _, _, _, _, _, _, _, cut⟩
  · rw [whole]
  · rw [cut]
    exact min_le_left _ _

theorem exceedsProgress_of_outside (nonneg : 0 ≤ fraction)
    (atMost : fraction ≤ 1) (inRange : segmentIndex < path.length - 1)
    (outside :
      segmentIndex <
          (segmentWindow geometry path (cumulativeDistances geometry path)
            arguments).1 ∨
        (segmentWindow geometry path (cumulativeDistances geometry path)
          arguments).2 ≤ segmentIndex) :
    exceedsProgress arguments
      (alongRoute (cumulativeDistances geometry path) segmentIndex fraction) =
        true := by
  have sorted := cumulativeDistances_sorted geometry path
  have vertices := length_cumulativeDistances geometry path
  have stop_inRange :
      segmentIndex + 1 < (cumulativeDistances geometry path).length := by
    omega
  have ordered := getD_mono sorted (Nat.le_succ segmentIndex) stop_inRange
  have from_start := alongRoute_ge nonneg ordered
  have to_stop := alongRoute_le atMost ordered
  rcases segmentWindow_cases geometry path arguments
      (cumulativeDistances geometry path) with
    whole | ⟨previous, maximumProgressChangeM, minimum, maximum, hadPrevious,
      bounded, below, above, cut⟩
  · rw [whole] at outside
    dsimp only at outside
    omega
  · rw [cut] at outside
    have beyond : maximumProgressChangeM <
        |alongRoute (cumulativeDistances geometry path) segmentIndex fraction -
          previous.alongRouteDistanceM| := by
      rcases outside with early | late
      · have before_lower : segmentIndex + 1 <
            distanceBound (cumulativeDistances geometry path) minimum
              false := by
          dsimp only at early
          omega
        have reached := lt_of_before_lower sorted before_lower stop_inRange
        apply lt_abs.mpr
        right
        linarith
      · have after_upper :
            distanceBound (cumulativeDistances geometry path) maximum true ≤
              segmentIndex := by
          dsimp only at late
          omega
        have reached := lt_of_after_upper sorted after_upper
          (Nat.lt_of_succ_lt stop_inRange)
        apply lt_abs.mpr
        left
        linarith
    rw [exceedsProgress, hadPrevious, bounded]
    exact decide_eq_true beyond

theorem scanSegment_of_outside (inRange : segmentIndex < path.length - 1)
    (outside :
      segmentIndex <
          (segmentWindow geometry path (cumulativeDistances geometry path)
            arguments).1 ∨
        (segmentWindow geometry path (cumulativeDistances geometry path)
          arguments).2 ≤ segmentIndex) (scoreOf : Nat → Projection R → R → R)
    (scan : Scan R) :
    scanSegment geometry path (cumulativeDistances geometry path) arguments
      scoreOf scan segmentIndex = scan := by
  have skipped := exceedsProgress_of_outside geometry path arguments
    (projectToSegment_fraction_nonneg geometry arguments.rawPoint
      (vertex path segmentIndex) (vertex path (segmentIndex + 1)))
    (projectToSegment_fraction_le_one geometry arguments.rawPoint
      (vertex path segmentIndex) (vertex path (segmentIndex + 1)))
    inRange outside
  rw [scanSegment]
  exact if_pos skipped

theorem foldl_segmentWindow (scoreOf : Nat → Projection R → R → R)
    (scan : Scan R) :
    let window :=
      segmentWindow geometry path (cumulativeDistances geometry path) arguments
    (List.range' window.1 (window.2 - window.1)).foldl
        (scanSegment geometry path (cumulativeDistances geometry path)
          arguments scoreOf) scan =
      (List.range (path.length - 1)).foldl
        (scanSegment geometry path (cumulativeDistances geometry path)
          arguments scoreOf) scan := by
  apply Bisection.foldl_window
  · exact segmentWindow_inRange geometry path arguments _
  · intro segmentIndex inRange outside before
    exact scanSegment_of_outside geometry path arguments inRange outside scoreOf
      before

/-! ## The match -/

theorem matchRoutePosition_eq_matchEverySegment :
    matchRoutePosition geometry path arguments =
      matchEverySegment geometry path arguments := by
  simp only [matchRoutePosition, matchEverySegment, matchSegments]
  split
  · rfl
  · have scanned := foldl_segmentWindow geometry path arguments
      (segmentScore geometry path (cumulativeDistances geometry path)
        arguments)
      { best := none, candidates := [] }
    exact congrArg
      (concludeMatch geometry (cumulativeDistances geometry path) arguments)
      scanned

omit [IsStrictOrderedRing R] in
theorem segmentScore_of_unbounded
    (unbounded : arguments.plausibleProgressM = none) :
    segmentScore geometry path (cumulativeDistances geometry path) arguments =
      Baseline.segmentScore geometry path arguments := by
  funext segmentIndex projection alongRouteDistanceM
  have noPrior : priorPoint geometry path (cumulativeDistances geometry path)
      arguments = none := by
    rw [priorPoint, unbounded]
    cases arguments.previous with
    | none | some => rfl
  have explained : unexplainedForwardM geometry path
      (cumulativeDistances geometry path) arguments projection
      alongRouteDistanceM = 0 := by
    rw [unexplainedForwardM, noPrior]
    rfl
  rw [segmentScore, explained, add_zero]
  rfl

/-- The match in the window is the match of the scan of every segment, and the
match of the frozen scan where the progress has no plausible bound. -/
theorem windowed_match_eq_full_scan :
    matchRoutePosition geometry path arguments =
        matchEverySegment geometry path arguments ∧
      (arguments.plausibleProgressM = none →
        matchRoutePosition geometry path arguments =
          Baseline.matchRoutePosition geometry path arguments) := by
  have scanned :=
    matchRoutePosition_eq_matchEverySegment geometry path arguments
  constructor
  · exact scanned
  · intro unbounded
    rw [scanned, matchEverySegment, Baseline.matchRoutePosition]
    simp only [matchSegments]
    rw [segmentScore_of_unbounded geometry path arguments unbounded]

/-- A straight road on a flat ground, measured in metres. -/
def flatGround : Geometry ℚ where
  haversineMeters start stop :=
    |start.lat - stop.lat| * 6371000 + |start.lng - stop.lng| * 6371000
  haversineMeters_nonneg start stop := by positivity
  segmentHeading _ _ := 0
  angularDifference left right := |left - right|
  cos _ := 1
  hypot x y := |x| + |y|
  pi := 180
  isFinite _ := true
  toFixed value := value

def onRoad (metres : ℚ) : LatLng ℚ :=
  { lat := metres / 6371000, lng := 0 }

/-- The bus was at 25 m and moved by 5 m at most. -/
def closeBy : MatchArguments ℚ where
  rawPoint := onRoad 29
  headingDegrees := some 0
  previous := some { segmentIndex := 3, alongRouteDistanceM := 25 }
  positionUncertaintyM := none
  maximumProgressChangeM := some 5
  plausibleProgressM := none

/-- The window leaves out the first leg and the last, and keeps the repeated
vertex. -/
theorem windowed_match_at_repeated_vertex :
    let path := [0, 10, 20, 20, 30, 40, 50].map onRoad
    segmentWindow flatGround path (cumulativeDistances flatGround path)
        closeBy = (1, 5) ∧
      (matchRoutePosition flatGround path closeBy).map
          (fun found => (found.segmentIndex, found.alongRouteDistanceM)) =
        some (3, 29) ∧
      matchRoutePosition flatGround path closeBy =
        matchEverySegment flatGround path closeBy ∧
      matchRoutePosition flatGround path closeBy =
        Baseline.matchRoutePosition flatGround path closeBy := by
  have scanned := windowed_match_eq_full_scan flatGround
    ([0, 10, 20, 20, 30, 40, 50].map onRoad) closeBy
  have window : segmentWindow flatGround
      ([0, 10, 20, 20, 30, 40, 50].map onRoad)
      (cumulativeDistances flatGround
        ([0, 10, 20, 20, 30, 40, 50].map onRoad)) closeBy = (1, 5) := by
    decide +kernel
  have found : (matchRoutePosition flatGround
      ([0, 10, 20, 20, 30, 40, 50].map onRoad) closeBy).map
        (fun found => (found.segmentIndex, found.alongRouteDistanceM)) =
      some (3, 29) := by
    decide +kernel
  exact ⟨window, found, scanned.1, scanned.2 rfl⟩

end Eki.RouteMatching
