import Eki.Trip.ReducerSpec

/-!
# Runs of the trip lifecycle

The engine carries five fields of a ride from one update to the next and takes
the rest of each input from telemetry.  A run is an infinite sequence of
samples, of which every finite run is an initial part; nothing is assumed about
positions, times, speeds, quality or the previous fix that the engine recalls.
-/

namespace Eki

variable {R : Type} [JsNumber R]

/-- The fields of a ride that the engine carries forward. -/
structure RideProgress (R : Type) where
  tripState : TripState
  currentStopIndex : Int
  hasDepartedOrigin : Bool
  terminalArrival : Option (TerminalArrivalEvidence R)
  gnssGapSince : Option R

/-- One telemetry input.  `assumedGapSince` is the gap that the engine assumes
when none is on record, as after a restart. -/
structure TelemetrySample (R : Type) where
  lat : R
  lng : R
  previousPosition : Option (TripPosition R)
  motionState : MotionState
  timestamp : Option R
  now : Option R
  gpsHdop : Option R
  speed : Option R
  heading : Option R
  assumedGapSince : Option R

def TelemetrySample.toInput (sample : TelemetrySample R)
    (stops : List (TripRouteStop R)) (ride : RideProgress R) :
    TripStateInput R :=
  { lat := sample.lat
    lng := sample.lng
    previousPosition := sample.previousPosition
    motionState := sample.motionState
    currentTripState := .trip ride.tripState
    currentStopIndex := ride.currentStopIndex
    stops
    hasDepartedOrigin := ride.hasDepartedOrigin
    timestamp := sample.timestamp
    now := sample.now
    gpsHdop := sample.gpsHdop
    speed := sample.speed
    heading := sample.heading
    terminalArrival := ride.terminalArrival
    gnssGapSince := ride.gnssGapSince.or sample.assumedGapSince }

/-- What the engine carries from a result: an omitted field is absent. -/
def TripStateResult.carried (result : TripStateResult R) : RideProgress R :=
  { tripState := result.tripState
    currentStopIndex := result.currentStopIndex
    hasDepartedOrigin := result.hasDepartedOrigin
    terminalArrival := result.terminalArrival
    gnssGapSince := result.gnssGapSince }

/-- A route, a configured confirmation time, a first state and its samples. -/
structure TripRun (R : Type) where
  configuredConfirmationMs : R
  stops : List (TripRouteStop R)
  start : RideProgress R
  samples : Nat → TelemetrySample R

namespace TripRun

variable (run : TripRun R)

/-- The state of the ride before update `n`. -/
def progress : Nat → RideProgress R
  | 0 => run.start
  | n + 1 =>
    (reduceTripState run.configuredConfirmationMs
      ((run.samples n).toInput run.stops (progress n))).carried

def input (n : Nat) : TripStateInput R :=
  (run.samples n).toInput run.stops (run.progress n)

def result (n : Nat) : TripStateResult R :=
  reduceTripState run.configuredConfirmationMs (run.input n)

theorem progress_succ (n : Nat) :
    run.progress (n + 1) = (run.result n).carried := rfl

theorem result_update (n : Nat) :
    Update run.configuredConfirmationMs (run.input n) (run.result n) :=
  reduceTripState_update _ _

end TripRun

inductive TripState.Follows : TripState → TripState → Prop where
  | stays (state : TripState) : Follows state state
  | departs : Follows .preDeparture .inService
  | completes : Follows .inService .completed

/-- The update takes the ride out of its origin. -/
def DepartsOrigin (before after : RideProgress R) : Prop :=
  (before.tripState = .preDeparture ∧ after.tripState ≠ .preDeparture) ∨
    (before.hasDepartedOrigin = false ∧ after.hasDepartedOrigin = true)

structure LeavesTerminal (stops : List (TripRouteStop R))
    (result : TripStateResult R) : Prop where
  notCompleted : result.tripState ≠ .completed
  noEvidence : result.terminalArrival = none
  notSkipped : ∀ indices, result.skippedStopIndices = some indices →
    stops.length - 1 ∉ indices
  notUnobserved : ∀ indices, result.unobservedStopIndices = some indices →
    stops.length - 1 ∉ indices

/-- What holds of a ride at every update of a run. -/
structure RideInRoute (stops : List (TripRouteStop R))
    (ride : RideProgress R) : Prop where
  nonnegative : 0 ≤ ride.currentStopIndex
  withinRoute : ride.currentStopIndex ≤ (stops.length : Int) - 1
  departed : ride.tripState ≠ .preDeparture → ride.hasDepartedOrigin = true

structure ForwardUpdate (stops : List (TripRouteStop R))
    (input : TripStateInput R) (before : RideProgress R)
    (result : TripStateResult R) : Prop where
  inRoute : RideInRoute stops result.carried
  indexGrows : before.currentStopIndex ≤ result.currentStopIndex
  staysDeparted : before.hasDepartedOrigin = true →
    result.hasDepartedOrigin = true
  follows : TripState.Follows before.tripState result.tripState
  departure : DepartsOrigin before result.carried → LeavesTerminal stops result
  neutral : (input.unreliable || input.staleFix) = true →
    result.tripState = before.tripState ∧
      result.currentStopIndex = before.currentStopIndex ∧
      result.hasDepartedOrigin = before.hasDepartedOrigin

variable {stops : List (TripRouteStop R)} {result : TripStateResult R}

omit [JsNumber R] in
theorem leavesTerminal_of_plain (notCompleted : result.tripState ≠ .completed)
    (noEvidence : result.terminalArrival = none)
    (noSkip : result.skippedStopIndices = none)
    (noUnobserved : result.unobservedStopIndices = none) :
    LeavesTerminal stops result := by
  refine ⟨notCompleted, noEvidence, ?_, ?_⟩
  · simp [noSkip]
  · simp [noUnobserved]

private theorem not_mem_credited {start credited last : Nat}
    (below : credited ≤ last) :
    last ∉ List.range' start (credited - start) := by
  rw [List.mem_range'_1]
  omega

variable {configured : R} {sample : TelemetrySample R}
  {before : RideProgress R}

theorem ServiceScope.ServiceOutcome.forward {leaving : Bool}
    (inRoute : RideInRoute stops before)
    (usable : ((sample.toInput stops before).unreliable ||
      (sample.toInput stops before).staleFix) = false)
    (state : before.tripState = if leaving then .preDeparture else .inService)
    (outcome : ServiceScope.ServiceOutcome configured
      ((sample.toInput stops before).serviceScope leaving) result) :
    ForwardUpdate stops (sample.toInput stops before) before result := by
  have bounds := inRoute.withinRoute
  have nonnegative := inRoute.nonnegative
  have lastIndex : ((sample.toInput stops before).serviceScope
      leaving).lastIndex = stops.length - 1 := rfl
  have safe : before.currentStopIndex.toNat ≤
      ((sample.toInput stops before).serviceScope
        leaving).safeCurrentIndex := by
    have routeIndex : (sample.toInput stops before).routeIndex =
        before.currentStopIndex.toNat := by
      unfold TripStateInput.routeIndex TelemetrySample.toInput
      simp only
      omega
    rw [← routeIndex]
    exact routeIndex_le _ leaving
  obtain ⟨credited, stop, index, below, within, credit, -⟩ := outcome.progress
  have above := credit.above
  have stillDeparted : before.hasDepartedOrigin = true →
      result.hasDepartedOrigin = true := by
    intro departed
    rw [outcome.departed]
    simp [TripStateInput.serviceScope, TripStateInput.departedOrigin,
      TelemetrySample.toInput, departed]
  have departsNow : leaving = true → result.hasDepartedOrigin = true := by
    intro leaves
    rw [outcome.departed]
    simp [TripStateInput.serviceScope, leaves]
  constructor
  · constructor
    · show 0 ≤ result.currentStopIndex
      omega
    · show result.currentStopIndex ≤ _
      omega
    · intro _
      cases leaving with
      | true => exact departsNow rfl
      | false =>
        exact stillDeparted (inRoute.departed (by simp [state]))
  · omega
  · exact stillDeparted
  · cases leaving with
    | true =>
      have silent := outcome.leaving (by simp [TripStateInput.serviceScope])
      rw [state, silent.1]
      exact .departs
    | false =>
      have inRide := outcome.inRide
      rw [state]
      cases reached : result.tripState with
      | preDeparture => exact absurd reached inRide
      | inService => exact .stays _
      | completed => exact .completes
  · intro departs
    have leaves : leaving = true := by
      cases leaving with
      | true => rfl
      | false =>
        rcases departs with ⟨atOrigin, -⟩ | ⟨notDeparted, -⟩
        · simp [state] at atOrigin
        · rw [inRoute.departed (by simp [state])] at notDeparted
          cases notDeparted
    have silent := outcome.leaving
      (by simp [TripStateInput.serviceScope, leaves])
    refine ⟨by simp [silent.1], silent.2, ?_, ?_⟩
    · intro indices present
      rw [(credit.ofSkipped indices present).1]
      exact not_mem_credited (by omega)
    · intro indices present
      rw [(credit.ofUnobserved indices present).1]
      exact not_mem_credited (by omega)
  · intro unusable
    rw [usable] at unusable
    cases unusable

theorem forwardUpdate_of_update (someStop : stops.length ≠ 0)
    (inRoute : RideInRoute stops before)
    (update : Update configured (sample.toInput stops before) result) :
    ForwardUpdate stops (sample.toInput stops before) before result := by
  cases update with
  | noStops empty => exact absurd empty someStop
  | held _ unusable =>
    refine ⟨⟨inRoute.nonnegative, inRoute.withinRoute, inRoute.departed⟩,
      le_refl _, id, .stays _, ?_, fun _ => ⟨rfl, rfl, rfl⟩⟩
    rintro (⟨atOrigin, left⟩ | ⟨notDeparted, departed⟩)
    · exact absurd atOrigin left
    · have same : before.hasDepartedOrigin = true := departed
      rw [notDeparted] at same
      cases same
  | atOrigin _ usable state stays =>
    have atOrigin : before.tripState = .preDeparture :=
      LegacyTripState.trip.inj state
    refine ⟨⟨inRoute.nonnegative, inRoute.withinRoute, ?_⟩,
      le_refl _, ?_, ?_, ?_, ?_⟩
    · intro left
      by_cases departs : (sample.toInput stops before).departs = true
      · simp [TripStateResult.carried, departs]
      · simp [TripStateResult.carried, departs] at left
    · intro departed
      simp [TripStateInput.departedOrigin, TelemetrySample.toInput, departed]
    · rw [atOrigin]
      split
      · exact .departs
      · exact .stays _
    · intro _
      refine leavesTerminal_of_plain ?_ rfl rfl rfl
      split <;> simp
    · intro unusable
      rw [usable] at unusable
      cases unusable
  | service _ usable leaving state outcome =>
    exact outcome.forward inRoute usable
      (LegacyTripState.trip.inj state)
  | passive _ usable state =>
    have ended : before.tripState = .completed := by
      rcases state with ended | legacy
      · exact LegacyTripState.trip.inj ended
      · cases legacy
    have departed := inRoute.departed (by simp [ended])
    have stillDeparted :
        (sample.toInput stops before).departedOrigin = true := by
      simp [TripStateInput.departedOrigin, TelemetrySample.toInput, departed]
    refine ⟨⟨inRoute.nonnegative, inRoute.withinRoute,
      fun _ => stillDeparted⟩, le_refl _, fun _ => stillDeparted,
      .stays _, ?_, ?_⟩
    · rintro (⟨atOrigin, -⟩ | ⟨notDeparted, -⟩)
      · rw [ended] at atOrigin
        cases atOrigin
      · rw [departed] at notDeparted
        cases notDeparted
    · intro unusable
      rw [usable] at unusable
      cases unusable

namespace TripRun

variable {run : TripRun R}

theorem rideInRoute (someStop : run.stops.length ≠ 0)
    (start : RideInRoute run.stops run.start) (n : Nat) :
    RideInRoute run.stops (run.progress n) := by
  induction n with
  | zero => exact start
  | succ n induction =>
    exact (forwardUpdate_of_update someStop induction
      (run.result_update n)).inRoute

theorem forwardUpdate (someStop : run.stops.length ≠ 0)
    (start : RideInRoute run.stops run.start) (n : Nat) :
    ForwardUpdate run.stops (run.input n) (run.progress n) (run.result n) :=
  forwardUpdate_of_update someStop (rideInRoute someStop start n)
    (run.result_update n)

/-- A property that each update keeps is kept over any part of the run. -/
theorem progress_rel (related : RideProgress R → RideProgress R → Prop)
    (refl : ∀ ride, related ride ride)
    (trans : ∀ first second third, related first second →
      related second third → related first third)
    (step : ∀ n, related (run.progress n) (run.progress (n + 1)))
    {m n : Nat} (earlier : m ≤ n) :
    related (run.progress m) (run.progress n) := by
  induction earlier with
  | refl => exact refl _
  | step _ induction => exact trans _ _ _ induction (step _)

end TripRun

def RideProgress.fresh (hasDepartedOrigin : Bool)
    (terminalArrival : Option (TerminalArrivalEvidence R))
    (gnssGapSince : Option R) : RideProgress R :=
  { tripState := .preDeparture
    currentStopIndex := 0
    hasDepartedOrigin, terminalArrival, gnssGapSince }

/-- **Monotone trip progress.** -/
theorem monotone_trip_progress (configured : R) (origin : TripRouteStop R)
    (rest : List (TripRouteStop R)) (hasDepartedOrigin : Bool)
    (terminalArrival : Option (TerminalArrivalEvidence R))
    (gnssGapSince : Option R) (samples : Nat → TelemetrySample R) :
    let run : TripRun R :=
      { configuredConfirmationMs := configured
        stops := origin :: rest
        start := .fresh hasDepartedOrigin terminalArrival gnssGapSince
        samples }
    let last : Int := (origin :: rest).length - 1
    (∀ n, 0 ≤ (run.progress n).currentStopIndex ∧
        (run.progress n).currentStopIndex ≤ last) ∧
      (∀ m n, m ≤ n → (run.progress m).currentStopIndex ≤
        (run.progress n).currentStopIndex) ∧
      (∀ m n, m ≤ n → (run.progress m).hasDepartedOrigin = true →
        (run.progress n).hasDepartedOrigin = true) ∧
      (∀ n, TripState.Follows (run.progress n).tripState
        (run.progress (n + 1)).tripState) ∧
      (∀ n, DepartsOrigin (run.progress n) (run.progress (n + 1)) →
        LeavesTerminal (origin :: rest) (run.result n)) ∧
      (∀ n, ((run.input n).unreliable || (run.input n).staleFix) = true →
        (run.progress (n + 1)).tripState = (run.progress n).tripState ∧
          (run.progress (n + 1)).currentStopIndex =
            (run.progress n).currentStopIndex ∧
          (run.progress (n + 1)).hasDepartedOrigin =
            (run.progress n).hasDepartedOrigin) := by
  intro run last
  have someStop : run.stops.length ≠ 0 := by simp [run]
  have start : RideInRoute run.stops run.start := by
    refine ⟨le_refl _, ?_, ?_⟩
    · simp [run, RideProgress.fresh]
    · intro left
      exact absurd rfl left
  have update := run.forwardUpdate someStop start
  refine ⟨?_, ?_, ?_, ?_, ?_, ?_⟩
  · intro n
    have inRoute := run.rideInRoute someStop start n
    exact ⟨inRoute.nonnegative, inRoute.withinRoute⟩
  · intro m n earlier
    exact run.progress_rel
      (fun before after => before.currentStopIndex ≤ after.currentStopIndex)
      (fun _ => le_refl _) (fun _ _ _ => le_trans)
      (fun k => (update k).indexGrows) earlier
  · intro m n earlier
    exact run.progress_rel
      (fun before after => before.hasDepartedOrigin = true →
        after.hasDepartedOrigin = true)
      (fun _ => id) (fun _ _ _ first second => second ∘ first)
      (fun k => (update k).staysDeparted) earlier
  · intro n
    exact (update n).follows
  · intro n
    exact (update n).departure
  · intro n
    exact (update n).neutral

end Eki
