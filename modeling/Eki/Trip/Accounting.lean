import Eki.Trip.Progress

/-!
# Accounting of passed stops

When an update moves the next-stop index, the stops that it passes split at one
index: those below were credited by exactly one recovery, and each one from
there on was observed by this input.
-/

namespace Eki

variable {R : Type} [JsNumber R]

namespace TripStateInput

/-- Metres a stop lies offside of the moving bus. -/
def offsideOf (input : TripStateInput R) (index : Nat) : Option R :=
  (input.serviceScope false).offsideOf index

/-- Position of a stop along the segment from the previous fix. -/
def crossing (input : TripStateInput R) (index : Nat) : R :=
  (input.serviceScope false).crossing index

/-- The two fixes are timed, at most `gnssGapMs` apart. -/
def TimedSegment (input : TripStateInput R) (previous : TripPosition R) :
    Prop :=
  ∃ before timestamp, previous.timestamp = some before ∧
    input.timestamp = some timestamp ∧ timestamp - before ≤ gnssGapMs

/-- The two fixes are not known to be more than `gnssGapMs` apart. -/
def SegmentInGap (input : TripStateInput R) (previous : TripPosition R) :
    Prop :=
  ∀ before timestamp, previous.timestamp = some before →
    input.timestamp = some timestamp →
    JsNumber.isFinite before = true → JsNumber.isFinite timestamp = true →
    ¬ timestamp - before > gnssGapMs

/-- The stop individually passed the reached test for this input, with
`timely` bounding the time of a segment from the previous fix. -/
structure ReachedBy (timely : TripStateInput R → TripPosition R → Prop)
    (input : TripStateInput R) (index : Nat) : Prop where
  corridor :
    haversineMeters input.position (stopAt input.stops index) ≤ stopGeofenceM ∨
      ∃ previous, input.previousPosition = some previous ∧
        previous.unreliable = false ∧ timely input previous ∧
        ¬ haversineMeters previous.toTripRouteStop input.position >
          maxTelemetrySegmentM ∧
        distanceToSegmentMeters (stopAt input.stops index)
          previous.toTripRouteStop input.position ≤ stopGeofenceM
  notOffside : input.motionState = .moving →
    ∀ offside, input.offsideOf index = some offside →
      offside ≤ maxOffsideArrivalM

end TripStateInput

/-- The stops passed by an update split at `credited`. -/
structure SplitAt (timely : TripStateInput R → TripPosition R → Prop)
    (input : TripStateInput R) (result : TripStateResult R)
    (first credited : Nat) : Prop where
  lower : first ≤ credited
  upper : (credited : Int) ≤ result.currentStopIndex
  skipped : ∀ indices, result.skippedStopIndices = some indices →
    indices = List.range' first (credited - first) ∧
      input.gnssGap.isSome = true
  unobserved : ∀ indices, result.unobservedStopIndices = some indices →
    indices = List.range' first (credited - first) ∧
      indices.length ≤ maxUnobservedRecoveryStops ∧ input.gnssGap = none
  notBoth : result.skippedStopIndices = none ∨
    result.unobservedStopIndices = none
  neither : result.skippedStopIndices = none →
    result.unobservedStopIndices = none → credited = first
  reached : ∀ index, credited ≤ index →
    (index : Int) < result.currentStopIndex → input.ReachedBy timely index
  ordered : ∀ index, credited ≤ index →
    (index : Int) + 1 < result.currentStopIndex →
    ¬ input.crossing (index + 1) < input.crossing index

def AccountsForPassedStops
    (timely : TripStateInput R → TripPosition R → Prop)
    (input : TripStateInput R) (result : TripStateResult R) : Prop :=
  ∃ credited : Nat, (max 1 input.currentStopIndex : Int) ≤ credited ∧
    SplitAt timely input result (max 1 input.currentStopIndex).toNat credited

theorem segmentStart_eq_some {input : TripStateInput R}
    {previous : TripPosition R}
    (start : input.segmentStart = some previous) :
    input.previousPosition = some previous ∧ input.SegmentInGap previous := by
  obtain ⟨present, near⟩ := Option.filter_eq_some_iff.mp start
  refine ⟨present, ?_⟩
  intro before timestamp beforeTime time beforeFinite finite beyond
  simp [TripStateInput.spansGnssGap, beforeTime, time, beforeFinite, finite,
    beyond] at near

theorem reachedBy_of_reachedStop {input : TripStateInput R} {leaving : Bool}
    {index : Nat}
    (reached : (input.serviceScope leaving).reachedStop index = true) :
    input.ReachedBy TripStateInput.SegmentInGap index := by
  unfold ServiceScope.reachedStop at reached
  simp only [Bool.and_eq_true, Bool.or_eq_true, bne_iff_ne, ne_eq] at reached
  obtain ⟨passed, kerb⟩ := reached
  constructor
  · unfold wasStopReached at passed
    split at passed
    · rename_i near
      exact .inl near
    · split at passed
      · cases passed
      · rename_i previous start
        obtain ⟨present, inGap⟩ := segmentStart_eq_some start
        split at passed
        · cases passed
        · rename_i usable
          simp only [Bool.or_eq_true, decide_eq_true_eq, not_or,
            Bool.not_eq_true] at usable
          exact .inr ⟨previous, present, usable.1, inGap, usable.2,
            of_decide_eq_true passed⟩
  · intro moving offside measured
    rcases kerb with still | near
    · exact absurd moving still
    · have offsideOf : (input.serviceScope leaving).offsideOf index =
          some offside := measured
      simpa [offsideOf] using near

theorem reachedStop_of_arrives {scope : ServiceScope R} {index : Nat}
    (arrives : scope.arrives index = true) :
    scope.reachedStop index = true := by
  unfold ServiceScope.arrives at arrives
  simp only [Bool.and_eq_true] at arrives
  exact arrives.1.1.2

/-- **Accounting of passed stops.**  An update from an index of the route that
moves it accounts for every stop that it passes. -/
theorem passed_stops_accounted (configured : R) (input : TripStateInput R)
    (indexed : 0 ≤ input.currentStopIndex)
    (moved : input.currentStopIndex <
      (reduceTripState configured input).currentStopIndex) :
    AccountsForPassedStops TripStateInput.SegmentInGap input
      (reduceTripState configured input) := by
  generalize updated : reduceTripState configured input = result at moved ⊢
  have update := updated ▸ reduceTripState_update configured input
  cases update with
  | noStops empty => exact absurd moved (by simpa using indexed)
  | held | atOrigin | passive => exact absurd moved (lt_irrefl _)
  | service someStop usable leaving state outcome =>
    obtain ⟨credited, stop, index, below, within, credit, consumed⟩ :=
      outcome.progress
    have lastIndex : (input.serviceScope leaving).lastIndex =
      input.stops.length - 1 := rfl
    -- The index moves, so it was inside the route, and a ride that is not
    -- leaving its origin stays at it.
    have first : (input.serviceScope leaving).safeCurrentIndex =
        (max 1 input.currentStopIndex).toNat := by
      have routeIndex : input.routeIndex = input.currentStopIndex.toNat := by
        unfold TripStateInput.routeIndex
        omega
      cases leaves : (input.serviceScope leaving).leavingOrigin with
      | true =>
        rw [safeCurrentIndex_of_leaving leaves]
        omega
      | false =>
        have safe := safeCurrentIndex_of_not_leaving leaves
        have above := credit.above
        have moves := credit.moves
        have ahead : 0 < input.routeIndex := by
          by_contra atOrigin
          have arrives := consumed.arrives 0 (by omega) (by omega)
          simp [ServiceScope.arrives] at arrives
        omega
    refine ⟨credited, ?_, ?_⟩
    · have above := credit.above
      omega
    · rw [← first]
      refine ⟨credit.above, by omega, credit.ofSkipped, credit.ofUnobserved,
        ?_, credit.ofNeither, ?_, ?_⟩
      · cases skipped : result.skippedStopIndices with
        | none => exact .inl rfl
        | some indices =>
          refine .inr ?_
          cases unobserved : result.unobservedStopIndices with
          | none => rfl
          | some others =>
            have gap := (credit.ofSkipped indices skipped).2
            rw [(credit.ofUnobserved others unobserved).2.2] at gap
            cases gap
      · intro stopIndex above passed
        exact reachedBy_of_reachedStop (reachedStop_of_arrives
          (consumed.arrives stopIndex above (by omega)))
      · intro stopIndex above passed
        exact consumed.ordered stopIndex above (by omega)

/-- Three stops a kilometre apart along the equator. -/
def equatorRoute : List (TripRouteStop ℚ) :=
  [{ lat := 0, lng := 0 }, { lat := 0, lng := 1 / 100 },
    { lat := 0, lng := 2 / 100 }]

/-- A ride in service on `equatorRoute` whose fix has no time. -/
def equatorInput (lng : ℚ) (currentStopIndex : Int)
    (hasDepartedOrigin : Bool)
    (previousPosition : Option (TripPosition ℚ)) : TripStateInput ℚ :=
  { lat := 0
    lng
    previousPosition
    motionState := .moving
    currentTripState := .trip .inService
    currentStopIndex
    stops := equatorRoute
    hasDepartedOrigin
    timestamp := none
    now := none
    gpsHdop := none
    speed := none
    heading := none
    terminalArrival := none
    gnssGapSince := none }

/-- The index is below the route and moves onto it. -/
def belowRoute : TripStateInput ℚ :=
  equatorInput 0 (-3) false none

/-- The bus drives through stop 1 between two fixes without times. -/
def untimedPass : TripStateInput ℚ :=
  equatorInput (105 / 10000) 1 true
    (some { lat := 0, lng := 95 / 10000, motionState := some .moving,
            gpsHdop := none, timestamp := none })

theorem passed_stops_accounted_untimed :
    0 ≤ untimedPass.currentStopIndex ∧
      untimedPass.currentStopIndex <
        (reduceTripState 2000 untimedPass).currentStopIndex ∧
      AccountsForPassedStops TripStateInput.SegmentInGap untimedPass
        (reduceTripState 2000 untimedPass) :=
  ⟨by decide +kernel, by decide +kernel,
    passed_stops_accounted 2000 untimedPass (by decide +kernel)
      (by decide +kernel)⟩

/-- An index below the route reaches it with no stop to account for, and a
stop can be passed on a segment whose time is unknown. -/
theorem passed_stops_not_accounted :
    (belowRoute.currentStopIndex <
        (reduceTripState 2000 belowRoute).currentStopIndex ∧
      ¬ AccountsForPassedStops TripStateInput.TimedSegment belowRoute
        (reduceTripState 2000 belowRoute)) ∧
    (untimedPass.currentStopIndex <
        (reduceTripState 2000 untimedPass).currentStopIndex ∧
      ¬ AccountsForPassedStops TripStateInput.TimedSegment untimedPass
        (reduceTripState 2000 untimedPass)) := by
  refine ⟨⟨by decide +kernel, ?_⟩, by decide +kernel, ?_⟩
  · rintro ⟨credited, above, split⟩
    have upper := split.upper
    have atOrigin :
        (reduceTripState 2000 belowRoute).currentStopIndex = 0 := by
      decide +kernel
    omega
  · rintro ⟨credited, above, split⟩
    have first : credited = 1 :=
      split.neither (by decide +kernel) (by decide +kernel)
    have reached := split.reached 1 (by omega) (by decide +kernel)
    rcases reached.corridor with near | ⟨previous, present, -, timed, -⟩
    · exact absurd near (by decide +kernel)
    · obtain ⟨before, timestamp, beforeTime, time, -⟩ := timed
      cases time

end Eki
