import Eki.Live.LifecycleIntake

/-!
# Filtered events

Two nodes with one fingerprint agree on the fields that the filter lists.  One
lemma for each thing that the engine derives says what else they have to agree
on for it to be the same.
-/

namespace Eki.Intake

open Fleet Live

variable {R : Type} [JsNumber R]

/-- Two nodes agree on the fields that the filter lists. -/
def Listed (first second : JsRecord R) : Prop :=
  ∀ field, lifecycleFields.contains field = true →
    first.get field = second.get field

omit [JsNumber R] in
theorem listed_of_fingerprint {first second : LiveNode R}
    (same : lifecycleIntakeFingerprint first.fields =
      lifecycleIntakeFingerprint second.fields) :
    Listed first.fields second.fields := by
  intro field listed
  have member : field ∈ lifecycleFields := List.contains_iff_mem.mp listed
  have agree := (List.map_inj_left.mp same) field member
  have stored := first.stored field
  have kept := second.stored field
  cases one : first.fields.get field <;>
    cases other : second.fields.get field <;>
    simp_all [JsValue.orElse]

variable {first second : JsRecord R}

omit [JsNumber R] in
theorem Listed.spread (same : Listed first second) (patch : JsRecord R) :
    Listed (first.spread patch) (second.spread patch) := by
  intro field listed
  rw [JsRecord.get_spread, JsRecord.get_spread, same field listed]

def namesActiveRide (data : JsRecord R) : Bool :=
  (normalizeIdentifier (data.get "busId")).isSome &&
    (normalizeIdentifier (data.get "routeId")).isSome &&
    (normalizeIdentifier (data.get "sessionId")).isSome &&
    (textOf (data.get "driverId")).isSome &&
    (lifecycleDirection data).isSome && (data.get "status").isText "active"

/-- A fleet write keeps the fix of the node. -/
def fleetKeeps (data : JsRecord R) : Bool :=
  (normalizeIdentifier (data.get "busId")).isSome &&
    (normalizeIdentifier (data.get "sessionId")).isSome &&
    (data.get "deviceState").isText "offline"

section Reads

variable {first second : JsRecord R} (same : Listed first second)

include same

omit [JsNumber R] in
theorem lifecycleDirection_congr :
    lifecycleDirection first = lifecycleDirection second := by
  unfold lifecycleDirection
  rw [same "direction" rfl]

omit [JsNumber R] in
theorem fleetLifecycleState_congr :
    fleetLifecycleState first = fleetLifecycleState second := by
  unfold fleetLifecycleState
  rw [lifecycleDirection_congr same, same "sessionId" rfl,
    same "routeId" rfl, same "driverId" rfl, same "status" rfl,
    same "deviceState" rfl, same "tripState" rfl, same "motionState" rfl]

theorem located_congr : located first = located second := by
  unfold located
  rw [same "lat" rfl, same "lng" rfl]

theorem liveGnssGapSince_congr :
    liveGnssGapSince first = liveGnssGapSince second := by
  unfold liveGnssGapSince
  rw [same "gnssGap" rfl, same "sessionId" rfl]

theorem liveUnobservedStops_congr (stopCount : Nat) :
    liveUnobservedStops first stopCount =
      liveUnobservedStops second stopCount := by
  unfold liveUnobservedStops
  rw [same "unobservedStops" rfl, same "sessionId" rfl]

theorem liveAtStopIndex_congr :
    liveAtStopIndex first = liveAtStopIndex second := by
  unfold liveAtStopIndex
  rw [same "atStop" rfl, same "sessionId" rfl]

omit [JsNumber R] in
theorem isOffline_congr :
    EngineContext.isOffline first = EngineContext.isOffline second := by
  unfold EngineContext.isOffline
  rw [same "status" rfl, same "tripState" rfl]

/-! ### Writes -/

theorem fleetWrite_iff :
    fleetWrite first = fleetWrite second ↔
      (fleetKeeps first = true →
        journeyLocation first = journeyLocation second) := by
  unfold fleetWrite fleetKeeps
  rw [fleetLifecycleState_congr same, same "busId" rfl,
    same "sessionId" rfl, same "deviceState" rfl]
  cases normalizeIdentifier (second.get "busId") with
  | none => simp
  | some busId =>
    cases normalizeIdentifier (second.get "sessionId") with
    | none => simp
    | some sessionId =>
      cases (second.get "deviceState").isText "offline" <;> simp

theorem offlineWrite_iff :
    offlineWrite first = offlineWrite second ↔
      ((normalizeIdentifier (first.get "busId")).isSome = true →
        (first.get "signalState").isText "lost" =
            (second.get "signalState").isText "lost" ∧
          journeyLocation first = journeyLocation second) := by
  unfold offlineWrite
  rw [fleetLifecycleState_congr same, same "busId" rfl, same "sessionId" rfl]
  cases normalizeIdentifier (second.get "busId") with
  | none | some => simp

namespace EngineContext

variable (context : EngineContext R)

theorem automaticTurnaroundIsReady_congr :
    context.automaticTurnaroundIsReady first =
      context.automaticTurnaroundIsReady second := by
  funext destination
  unfold automaticTurnaroundIsReady
  rw [same "timestamp" rfl, same "turnaroundEligibleAt" rfl,
    same "turnaroundSampledAt" rfl, same "lat" rfl, same "lng" rfl,
    same "motionState" rfl, same "gpsHdop" rfl]

theorem turnaround_congr (naturalStops : List (RouteStop R)) :
    context.turnaround first naturalStops =
      context.turnaround second naturalStops := by
  unfold turnaround
  rw [automaticTurnaroundIsReady_congr same, lifecycleDirection_congr same,
    same "sessionId" rfl, same "busId" rfl, same "routeId" rfl,
    same "driverId" rfl]

omit [JsNumber R] in
theorem telemetryTimestamp_congr :
    context.telemetryTimestamp first = context.telemetryTimestamp second := by
  unfold telemetryTimestamp
  rw [same "timestamp" rfl]

theorem previousTelemetry_congr (direction : RideDirection) :
    context.previousTelemetry first direction =
      context.previousTelemetry second direction := by
  unfold previousTelemetry
  rw [same "sessionId" rfl]

theorem isNewTelemetry_congr (direction : RideDirection) :
    context.isNewTelemetry first direction =
      context.isNewTelemetry second direction := by
  unfold isNewTelemetry
  rw [telemetryTimestamp_congr same, previousTelemetry_congr same]

theorem unreduced_congr : unreduced first = unreduced second := by
  unfold unreduced
  rw [liveGnssGapSince_congr same, same "tripState" rfl,
    same "currentStopIndex" rfl, same "hasDepartedOrigin" rfl,
    same "terminalArrival" rfl]

theorem freshFix_congr : context.freshFix first = context.freshFix second := by
  unfold freshFix
  rw [telemetryTimestamp_congr same]

theorem commits_congr (progress : Reduced R) :
    context.commits first progress = context.commits second progress := by
  unfold commits offlineReplay
  rw [freshFix_congr same, same "deviceState" rfl]

theorem unobservedStops_congr (stops : List (RouteStop R))
    (progress : Reduced R) :
    context.unobservedStops first stops progress =
      context.unobservedStops second stops progress := by
  unfold unobservedStops
  rw [liveUnobservedStops_congr same]

theorem atStopIndex_congr (position : TripRouteStop R)
    (stops : List (RouteStop R)) (progress : Reduced R) :
    context.atStopIndex first position stops progress =
      context.atStopIndex second position stops progress := by
  unfold atStopIndex
  rw [freshFix_congr same, unobservedStops_congr same,
    same "motionState" rfl, same "gpsHdop" rfl]

section

variable (position : TripRouteStop R) (direction : RideDirection)

include position direction

theorem liveWrite_congr (stops : List (RouteStop R)) (progress : Reduced R) :
    context.liveWrite first position direction stops progress =
      context.liveWrite second position direction stops progress := by
  unfold liveWrite liveStateChanged
  rw [unobservedStops_congr same, atStopIndex_congr same,
    liveGnssGapSince_congr same, liveAtStopIndex_congr same,
    liveUnobservedStops_congr same, same "tripState" rfl,
    same "currentStopIndex" rfl, same "hasDepartedOrigin" rfl,
    same "terminalArrival" rfl, same "sessionId" rfl]

theorem processedFix_congr :
    context.processedFix first position direction =
      context.processedFix second position direction := by
  unfold processedFix
  rw [isNewTelemetry_congr same, telemetryTimestamp_congr same,
    same "gpsHdop" rfl, same "motionState" rfl, same "sessionId" rfl]

theorem reducerInput_iff (stops : List (RouteStop R)) :
    context.reducerInput first position direction stops =
        context.reducerInput second position direction stops ↔
      finiteOf (first.get "heading") = finiteOf (second.get "heading") := by
  unfold reducerInput
  rw [previousTelemetry_congr same, telemetryTimestamp_congr same,
    liveGnssGapSince_congr same, same "motionState" rfl,
    same "tripState" rfl, same "currentStopIndex" rfl,
    same "hasDepartedOrigin" rfl, same "terminalArrival" rfl,
    same "gpsHdop" rfl, same "speed" rfl]
  simp only [ReducerInput.mk.injEq, true_and]

end

theorem activeRideWrite_iff (stops : List (RouteStop R))
    (progress : Reduced R) :
    context.activeRideWrite first stops progress =
        context.activeRideWrite second stops progress ↔
      (namesActiveRide first = true →
        lastRouteVersion first = lastRouteVersion second ∧
          journeyLocation first = journeyLocation second) := by
  unfold activeRideWrite namesActiveRide
  rw [lifecycleDirection_congr same, telemetryTimestamp_congr same,
    same "busId" rfl, same "routeId" rfl, same "sessionId" rfl,
    same "driverId" rfl, same "status" rfl, same "originStopId" rfl,
    same "destinationStopId" rfl, same "delayMinutes" rfl,
    same "delayUpdatedAt" rfl, same "currentStopIndex" rfl]
  cases normalizeIdentifier (second.get "busId") with
  | none => simp
  | some busId =>
    cases normalizeIdentifier (second.get "routeId") with
    | none => simp
    | some routeId =>
      cases normalizeIdentifier (second.get "sessionId") with
      | none => simp
      | some sessionId =>
        cases textOf (second.get "driverId") with
        | none => simp
        | some driverId =>
          cases lifecycleDirection second with
          | none => simp
          | some direction =>
            cases (second.get "status").isText "active" with
            | false => simp
            | true =>
              simp only [Bool.not_true, Bool.false_eq_true,
                if_false, Option.some.injEq,
                ActiveRideWrite.mk.injEq,
                ActiveRideState.mk.injEq, true_and, and_true,
                Option.isSome_some, Bool.and_self, true_implies]
              constructor
              · intro agree
                exact ⟨agree.1.2, agree.2⟩
              · intro agree
                have telemetry := congrArg Option.isSome agree.2
                exact ⟨⟨telemetry, agree.1⟩, agree.2⟩

theorem completionWrite_iff (busId routeId : String)
    (direction : RideDirection) (stops : List (RouteStop R))
    (progress : Reduced R) :
    context.completionWrite
          { busId
            routeId
            data := first } direction stops progress =
        context.completionWrite
          { busId
            routeId
            data := second } direction stops progress ↔
      (progress.tripState.isText "completed" = true →
        journeyLocation first = journeyLocation second) := by
  unfold completionWrite
  simp only
  rw [same "busId" rfl, same "routeId" rfl, same "sessionId" rfl,
    same "driverId" rfl, same "originStopId" rfl,
    same "destinationStopId" rfl, same "timestamp" rfl,
    same "currentStopIndex" rfl]
  cases progress.tripState.isText "completed" with
  | false => simp
  | true =>
    simp only [Bool.not_true, Bool.false_eq_true, if_false,
      Option.some.injEq, CompletionWrite.mk.injEq, true_and, true_implies]

/-! ### A ride -/

variable (position : TripRouteStop R) (direction : RideDirection)

theorem reduced_congr (stops : List (RouteStop R))
    (heading : context.isNewTelemetry first direction = true →
      finiteOf (first.get "heading") = finiteOf (second.get "heading")) :
    context.reduced first position direction stops =
      context.reduced second position direction stops := by
  unfold reduced
  rw [← isNewTelemetry_congr same, unreduced_congr same]
  by_cases new : context.isNewTelemetry first direction = true
  · rw [if_pos new, if_pos new,
      (reducerInput_iff same context position direction stops).mpr
        (heading new)]
  · rw [if_neg new, if_neg new]

theorem durableWrite_iff (stops : List (RouteStop R))
    (progress : Reduced R) :
    context.durableWrite first stops progress =
        context.durableWrite second stops progress ↔
      (context.commits first progress = true →
        namesActiveRide first = true →
        lastRouteVersion first = lastRouteVersion second ∧
          journeyLocation first = journeyLocation second) := by
  unfold durableWrite
  rw [← commits_congr same]
  by_cases commits : context.commits first progress = true
  · rw [if_pos commits, if_pos commits, activeRideWrite_iff same]
    exact ⟨fun agree _ => agree, fun agree => agree commits⟩
  · rw [if_neg commits, if_neg commits]
    exact ⟨fun _ commit => absurd commit commits, fun _ => rfl⟩

omit same in
theorem committed_congr {stops : List (RouteStop R)} {progress : Reduced R}
    (writes : context.durableWrite first stops progress =
      context.durableWrite second stops progress) :
    context.committed first stops progress =
      context.committed second stops progress := by
  unfold committed
  rw [writes]

end EngineContext

end Reads

omit [JsNumber R] in
theorem get_withTripState (data : JsRecord R) (tripState : JsValue R)
    {field : String} (other : field ≠ "tripState") :
    (data.spread [("tripState", tripState)]).get field = data.get field := by
  rw [JsRecord.get_spread, if_neg]
  rw [List.lookup_cons, beq_eq_false_iff_ne.mpr other]
  exact Bool.false_ne_true

omit [JsNumber R] in
theorem fleetKeeps_withTripState (data : JsRecord R)
    (tripState : JsValue R) :
    fleetKeeps (data.spread [("tripState", tripState)]) = fleetKeeps data := by
  unfold fleetKeeps
  rw [get_withTripState data tripState (by decide),
    get_withTripState data tripState (by decide),
    get_withTripState data tripState (by decide)]

theorem journeyLocation_withTripState (data : JsRecord R)
    (tripState : JsValue R) :
    journeyLocation (data.spread [("tripState", tripState)]) =
      journeyLocation data := by
  have kept := @get_withTripState R data tripState
  unfold journeyLocation
  have raw := @kept "rawLocation" (by decide)
  have same : ∀ field, field ≠ "tripState" →
      (rawFix (data.spread [("tripState", tripState)])).get field =
        (rawFix data).get field := by
    intro field other
    unfold rawFix
    rw [raw]
    split
    · rfl
    · rfl
    · exact kept other
  simp only
  rw [same "lat" (by decide), same "lng" (by decide),
    same "sampledAt" (by decide), same "seq" (by decide),
    @kept "timestamp" (by decide), @kept "seq" (by decide),
    @kept "backendReceivedAt" (by decide)]

namespace EngineContext

variable (context : EngineContext R)

/-! ### What a ride's event derives -/

section Parts

variable (live : NormalizedLiveBusData R) (position : TripRouteStop R)
  (direction : RideDirection)

def rideStops : List (RouteStop R) :=
  stopsInRideDirection (context.routeStops live.routeId) direction

def rideReduced : Reduced R :=
  context.reduced live.data position direction
    (context.rideStops live direction)

/-- The lifecycle that a ride's event ends with. -/
def rideProgress : Reduced R :=
  context.committed live.data (context.rideStops live direction)
    (context.rideReduced live position direction)

theorem processRide_reducerInput :
    (context.processRide live position direction).reducerInput =
      if context.isNewTelemetry live.data direction then
        some (context.reducerInput live.data position direction
          (context.rideStops live direction))
      else none := by
  unfold processRide
  simp only
  split <;> rfl

theorem processRide_activeRide :
    (context.processRide live position direction).activeRide =
      context.durableWrite live.data (context.rideStops live direction)
        (context.rideReduced live position direction) := by
  unfold processRide
  simp only
  split <;> rfl

theorem processRide_completion :
    (context.processRide live position direction).completion =
      context.completionWrite live direction
        (context.rideStops live direction)
        (context.rideProgress live position direction) := by
  unfold processRide
  simp only
  split <;> rfl

theorem processRide_fleet
    (goesOn : (context.rideProgress live position
      direction).tripState.isText "completed" = false) :
    (context.processRide live position direction).fleet =
      fleetWrite (live.data.spread
        [("tripState",
          (context.rideProgress live position direction).tripState)]) := by
  have none : context.completionWrite live direction
      (context.rideStops live direction)
      (context.rideProgress live position direction) = none := by
    unfold completionWrite
    rw [goesOn]
    rfl
  unfold processRide
  simp only
  rw [if_pos]
  · rfl
  · show Option.all _ (context.completionWrite live direction _ _) = true
    exact none ▸ rfl

end Parts

/-- What a ride's event reads besides the listed fields, and where. -/
structure RideReads (position : TripRouteStop R) (direction : RideDirection)
    (live : NormalizedLiveBusData R) (other : JsRecord R) : Prop where
  heading : context.isNewTelemetry live.data direction = true →
    finiteOf (live.data.get "heading") = finiteOf (other.get "heading")
  committed :
    context.commits live.data (context.rideReduced live position direction) =
      true → namesActiveRide live.data = true →
    lastRouteVersion live.data = lastRouteVersion other ∧
      journeyLocation live.data = journeyLocation other
  completed :
    (context.rideProgress live position direction).tripState.isText
      "completed" = true → journeyLocation live.data = journeyLocation other
  fleet : fleetKeeps live.data = true →
    journeyLocation live.data = journeyLocation other

theorem processRide_iff (same : Listed first second) (busId routeId : String)
    (position : TripRouteStop R) (direction : RideDirection) :
    context.processRide ⟨busId, routeId, first⟩ position direction =
        context.processRide ⟨busId, routeId, second⟩ position direction ↔
      context.RideReads position direction ⟨busId, routeId, first⟩
        second := by
  have stops : context.rideStops ⟨busId, routeId, first⟩ direction =
      context.rideStops ⟨busId, routeId, second⟩ direction := rfl
  constructor
  · intro equal
    have heading : context.isNewTelemetry first direction = true →
        finiteOf (first.get "heading") = finiteOf (second.get "heading") := by
      intro new
      have inputs := congrArg Processing.reducerInput equal
      rw [processRide_reducerInput, processRide_reducerInput,
        ← isNewTelemetry_congr same, if_pos new, if_pos new,
        Option.some.injEq] at inputs
      exact (reducerInput_iff same context position direction _).mp inputs
    have reduced : context.rideReduced ⟨busId, routeId, first⟩ position
        direction =
        context.rideReduced ⟨busId, routeId, second⟩ position direction :=
      reduced_congr same context position direction _ heading
    have writes := congrArg Processing.activeRide equal
    rw [processRide_activeRide, processRide_activeRide, ← reduced, ← stops]
      at writes
    have progress : context.rideProgress ⟨busId, routeId, first⟩ position
        direction =
        context.rideProgress ⟨busId, routeId, second⟩ position
          direction := by
      unfold rideProgress committed
      rw [← reduced, ← stops, writes]
    have completions := congrArg Processing.completion equal
    rw [processRide_completion, processRide_completion, ← progress, ← stops]
      at completions
    have completed := (completionWrite_iff same context busId routeId
      direction _ _).mp completions
    refine ⟨heading, (durableWrite_iff same context _ _).mp writes,
      completed, ?_⟩
    intro keeps
    cases goesOn : (context.rideProgress ⟨busId, routeId, first⟩ position
        direction).tripState.isText "completed" with
    | true => exact completed goesOn
    | false =>
      have fleets := congrArg Processing.fleet equal
      rw [processRide_fleet context _ position direction goesOn,
        processRide_fleet context _ position direction (progress ▸ goesOn),
        ← progress, fleetWrite_iff (same.spread _),
        fleetKeeps_withTripState, journeyLocation_withTripState,
        journeyLocation_withTripState] at fleets
      exact fleets keeps
  · intro reads
    let stops := context.rideStops ⟨busId, routeId, first⟩ direction
    let reduced := context.reduced first position direction stops
    let progress := context.committed first stops reduced
    have sameReduced : context.reduced second position direction stops =
        reduced :=
      (reduced_congr same context position direction stops reads.heading).symm
    have writes : context.durableWrite first stops reduced =
        context.durableWrite second stops reduced :=
      (durableWrite_iff same context stops reduced).mpr reads.committed
    have sameProgress : context.committed second stops reduced = progress :=
      (committed_congr context writes).symm
    have completions : context.completionWrite ⟨busId, routeId, first⟩
        direction stops progress =
        context.completionWrite ⟨busId, routeId, second⟩ direction stops
          progress :=
      (completionWrite_iff same context busId routeId direction stops
        progress).mpr reads.completed
    have inputs : (if context.isNewTelemetry first direction then
          some (context.reducerInput first position direction stops)
        else none) =
        if context.isNewTelemetry second direction then
          some (context.reducerInput second position direction stops)
        else none := by
      rw [← isNewTelemetry_congr same]
      by_cases new : context.isNewTelemetry first direction = true
      · rw [if_pos new, if_pos new, (reducerInput_iff same context position
          direction stops).mpr (reads.heading new)]
      · rw [if_neg new, if_neg new]
    have fleets : fleetWrite (first.spread
          [("tripState", progress.tripState)]) =
        fleetWrite (second.spread [("tripState", progress.tripState)]) := by
      rw [fleetWrite_iff (same.spread _), fleetKeeps_withTripState,
        journeyLocation_withTripState, journeyLocation_withTripState]
      exact reads.fleet
    unfold processRide
    simp only
    rw [show stopsInRideDirection (context.routeStops routeId) direction =
      stops from rfl, sameReduced, sameProgress, ← inputs, ← writes,
      ← completions, ← fleets, liveWrite_congr same,
      processedFix_congr same]

/-! ### Every event -/

/-- The node takes part in a ride, or may. -/
def serves (live : NormalizedLiveBusData R) : Bool :=
  !isOffline live.data && !(live.data.get "tripState").isText "completed" &&
    (located live.data).isSome

def goesOffline (live : NormalizedLiveBusData R) : Bool :=
  (normalizeIdentifier (live.data.get "busId")).isSome &&
    (isOffline live.data ||
      (live.data.get "tripState").isText "completed" && context.retires live)

/-- What an event reads besides the listed fields, and where. -/
structure SameUnlisted (live : NormalizedLiveBusData R)
    (other : JsRecord R) : Prop where
  offline : context.goesOffline live = true →
    (live.data.get "signalState").isText "lost" =
        (other.get "signalState").isText "lost" ∧
      journeyLocation live.data = journeyLocation other
  fleet : serves live = true → fleetKeeps live.data = true →
    journeyLocation live.data = journeyLocation other
  ride : serves live = true → ∀ position direction,
    located live.data = some position →
    lifecycleDirection live.data = some direction →
    context.RideReads position direction live other

variable (same : Listed first second) (busId routeId : String)

include same busId routeId

theorem retires_congr :
    context.nextReturn ⟨busId, routeId, first⟩ =
        context.nextReturn ⟨busId, routeId, second⟩ ∧
      context.retires ⟨busId, routeId, first⟩ =
        context.retires ⟨busId, routeId, second⟩ := by
  have ask : restoreAsk ⟨busId, routeId, first⟩ =
      restoreAsk ⟨busId, routeId, second⟩ := by
    unfold restoreAsk
    rw [same "turnaroundClaimId" rfl]
  have next : context.nextReturn ⟨busId, routeId, first⟩ =
      context.nextReturn ⟨busId, routeId, second⟩ := by
    unfold nextReturn
    rw [ask, located_congr same, turnaround_congr same]
  refine ⟨next, ?_⟩
  unfold retires
  rw [ask, next]

theorem processCompleted_iff :
    context.processCompleted ⟨busId, routeId, first⟩ =
        context.processCompleted ⟨busId, routeId, second⟩ ↔
      (context.retires ⟨busId, routeId, first⟩ = true →
        offlineWrite first = offlineWrite second) := by
  obtain ⟨next, retires⟩ := context.retires_congr same busId routeId
  unfold processCompleted
  rw [next, ← retires]
  have ask : restoreAsk ⟨busId, routeId, first⟩ =
      restoreAsk ⟨busId, routeId, second⟩ := by
    unfold restoreAsk
    rw [same "turnaroundClaimId" rfl]
  rw [ask]
  by_cases quits : context.retires ⟨busId, routeId, first⟩ = true
  · rw [if_pos quits, if_pos quits]
    simp only [Processing.mk.injEq, and_true, quits, true_implies]
  · rw [if_neg quits, if_neg quits]
    exact ⟨fun _ retired => absurd retired quits, fun _ => rfl⟩

/-- **One event.**  Nodes that agree on the listed fields are processed alike
exactly if they agree on what else the event reads. -/
theorem processLive_iff :
    context.processLive ⟨busId, routeId, first⟩ =
        context.processLive ⟨busId, routeId, second⟩ ↔
      context.SameUnlisted ⟨busId, routeId, first⟩ second := by
  unfold processLive
  simp only
  rw [← isOffline_congr same, ← same "tripState" rfl,
    ← located_congr same, ← lifecycleDirection_congr same]
  cases offline : isOffline first with
  | true =>
    rw [if_pos rfl, if_pos rfl]
    simp only [Processing.mk.injEq, and_true]
    rw [offlineWrite_iff same]
    have idle : serves ⟨busId, routeId, first⟩ = false := by
      unfold serves
      rw [offline]
      rfl
    constructor
    · intro agree
      refine ⟨?_, ?_, ?_⟩
      · intro goes
        unfold goesOffline at goes
        exact agree (Bool.and_eq_true_iff.mp goes).1
      · intro busy
        rw [idle] at busy
        cases busy
      · intro busy
        rw [idle] at busy
        cases busy
    · intro reads identified
      apply reads.offline
      unfold goesOffline
      rw [identified, offline]
      rfl
  | false =>
    rw [if_neg Bool.false_ne_true, if_neg Bool.false_ne_true]
    cases completed : (first.get "tripState").isText "completed" with
    | true =>
      rw [if_pos rfl, if_pos rfl, processCompleted_iff context same,
        offlineWrite_iff same]
      have idle : serves ⟨busId, routeId, first⟩ = false := by
        unfold serves
        rw [completed, offline]
        rfl
      constructor
      · intro agree
        refine ⟨?_, ?_, ?_⟩
        · intro goes
          unfold goesOffline at goes
          rw [offline, completed, Bool.false_or, Bool.true_and,
            Bool.and_eq_true] at goes
          exact agree goes.2 goes.1
        · intro busy
          rw [idle] at busy
          cases busy
        · intro busy
          rw [idle] at busy
          cases busy
      · intro reads retires identified
        apply reads.offline
        unfold goesOffline
        rw [identified, offline, completed, retires]
        rfl
    | false =>
      rw [if_neg Bool.false_ne_true, if_neg Bool.false_ne_true]
      have stays : context.goesOffline ⟨busId, routeId, first⟩ = false := by
        unfold goesOffline
        rw [offline, completed, Bool.false_and, Bool.or_false, Bool.and_false]
      cases place : located first with
      | none =>
        have idle : serves ⟨busId, routeId, first⟩ = false := by
          unfold serves
          rw [place, Option.isSome_none, Bool.and_false]
        refine ⟨fun _ => ⟨?_, ?_, ?_⟩, fun _ => rfl⟩
        · intro goes
          rw [stays] at goes
          cases goes
        · intro busy
          rw [idle] at busy
          cases busy
        · intro busy
          rw [idle] at busy
          cases busy
      | some position =>
        have busy : serves ⟨busId, routeId, first⟩ = true := by
          unfold serves
          rw [place, offline, completed]
          rfl
        cases towards : lifecycleDirection first with
        | none =>
          simp only [Processing.mk.injEq, true_and]
          rw [fleetWrite_iff same]
          constructor
          · intro agree
            refine ⟨?_, fun _ => agree, ?_⟩
            · intro goes
              rw [stays] at goes
              cases goes
            · intro _ place' direction _ known
              rw [towards] at known
              cases known
          · intro reads
            exact reads.fleet busy
        | some direction =>
          simp only
          rw [processRide_iff context same]
          constructor
          · intro agree
            refine ⟨?_, fun _ => agree.fleet, ?_⟩
            · intro goes
              rw [stays] at goes
              cases goes
            · intro _ other way there known
              rw [place] at there
              rw [towards] at known
              cases there
              cases known
              exact agree
          · intro reads
            exact reads.ride busy position direction place towards

end EngineContext

omit [JsNumber R] in
theorem normalizeLiveBusData_congr (same : Listed first second)
    (nodeKey : String) :
    (normalizeLiveBusData first nodeKey = none ∧
        normalizeLiveBusData second nodeKey = none) ∨
      ∃ busId routeId one other,
        normalizeLiveBusData first nodeKey = some ⟨busId, routeId, one⟩ ∧
        normalizeLiveBusData second nodeKey = some ⟨busId, routeId, other⟩ ∧
        Listed one other := by
  unfold normalizeLiveBusData
  simp only
  rw [← same "busId" rfl, ← same "routeId" rfl]
  split
  · rename_i busId routeId _ _
    refine .inr ⟨busId, routeId, _, _, rfl, rfl, ?_⟩
    split
    · exact same
    · exact same.spread _
  · exact .inl ⟨rfl, rfl⟩

/-- **Filtered events.**  In every state of the engine, and so in the one that
the first of two nodes with one fingerprint left, both are processed alike
exactly if they agree on what the event reads beside the listed fields. -/
theorem filtered_events_are_redundant (context : EngineContext R)
    (first second : LiveNode R)
    (filtered : lifecycleIntakeFingerprint first.fields =
      lifecycleIntakeFingerprint second.fields) :
    context.processLiveSnapshot first.fields =
        context.processLiveSnapshot second.fields ↔
      ∀ live other,
        normalizeLiveBusData first.fields context.nodeKey = some live →
        normalizeLiveBusData second.fields context.nodeKey = some other →
        context.SameUnlisted live other.data := by
  have same := listed_of_fingerprint filtered
  unfold EngineContext.processLiveSnapshot
  rcases normalizeLiveBusData_congr same context.nodeKey with
    absent | ⟨busId, routeId, one, other, firstIs, secondIs, agree⟩
  · rw [absent.1, absent.2]
    constructor
    · intro _ live other known
      cases known
    · intro _
      rfl
  · rw [firstIs, secondIs]
    have alike := context.processLive_iff agree busId routeId
    constructor
    · intro equal live found known there
      cases known
      cases there
      exact alike.mp equal
    · intro reads
      exact alike.mpr (reads _ _ rfl rfl)

/-- A bus on its way to the last of two stops. -/
def servingFields (routeVersion : ℚ) : JsRecord ℚ :=
  [("busId", .string "b"), ("routeId", .string "r"), ("driverId", .string "d"),
    ("sessionId", .string "s"), ("status", .string "active"),
    ("tripState", .string "in_service"), ("direction", .string "forward"),
    ("timestamp", .number 1000), ("lat", .number 0), ("lng", .number (1 / 2)),
    ("motionState", .string "moving"), ("currentStopIndex", .number 1),
    ("hasDepartedOrigin", .bool true), ("routeVersion", .number routeVersion)]

theorem servingFields_stored (routeVersion : ℚ) (field : String) :
    (servingFields routeVersion).get field ≠ .null := by
  intro null
  unfold servingFields JsRecord.get at null
  simp only [List.lookup_cons, List.lookup_nil] at null
  repeat' split at null
  all_goals cases null

def servingNode (routeVersion : ℚ) : LiveNode ℚ :=
  { fields := servingFields routeVersion
    stored := servingFields_stored routeVersion }

def servedRoute : List (RouteStop ℚ) :=
  [{ lat := 0
     lng := 0
     id := "o"
     name := "o"
     shortName := "o" },
    { lat := 0
      lng := 1
      id := "t"
      name := "t"
      shortName := "t" }]

/-- An engine whose documents take each write as it is. -/
def servingEngine : EngineContext ℚ :=
  { nodeKey := "b_r"
    now := 1000
    routeStops := fun _ => servedRoute
    processedTelemetry := none
    restores := fun _ => false
    arms := fun _ => false
    commit := fun write =>
      some
        { tripState := write.state.tripState
          currentStopIndex := write.state.currentStopIndex
          hasDepartedOrigin := write.state.hasDepartedOrigin
          terminalArrival := write.state.terminalArrival }
    completes := fun _ => true
    convert := fun _ => 0
    stringify := fun _ => "null"
    reduceTripState := fun input =>
      { tripState := input.currentTripState
        currentStopIndex := input.currentStopIndex
        hasDepartedOrigin := input.hasDepartedOrigin
        terminalArrival := .null
        gnssGapSince := input.gnssGapSince
        skippedStopIndices := []
        unobservedStopIndices := [] }
    visitedStopIndex := fun _ => none }

def writtenVersion (processing : Processing ℚ) : Option ℚ :=
  processing.activeRide.map fun write => write.state.lastRouteVersion

theorem versions_differ :
    let engine := servingEngine.after (servingNode 1).fields
    engine.processLiveSnapshot (servingNode 1).fields ≠
      engine.processLiveSnapshot (servingNode 2).fields := by
  intro engine alike
  have first : writtenVersion (engine.processLiveSnapshot
      (servingNode 1).fields) = some 1 := by
    decide +kernel
  have second : writtenVersion (engine.processLiveSnapshot
      (servingNode 2).fields) = some 2 := by
    decide +kernel
  rw [alike, second] at first
  exact absurd first (by decide)

theorem filtered_events_are_redundant_rerouted :
    let engine := servingEngine.after (servingNode 1).fields
    ¬ ∀ live other,
      normalizeLiveBusData (servingNode 1).fields engine.nodeKey = some live →
      normalizeLiveBusData (servingNode 2).fields engine.nodeKey = some other →
      engine.SameUnlisted live other.data := by
  intro engine reads
  exact versions_differ
    ((filtered_events_are_redundant engine (servingNode 1) (servingNode 2)
      rfl).mpr reads)

/-- A new version of the route with the same fix is filtered, and the durable
ride stays behind it. -/
theorem filtered_event_is_not_redundant :
    ¬ ∀ (context : EngineContext ℚ) (first second : LiveNode ℚ),
      lifecycleIntakeFingerprint first.fields =
        lifecycleIntakeFingerprint second.fields →
      (context.after first.fields).processLiveSnapshot first.fields =
        (context.after first.fields).processLiveSnapshot second.fields := by
  intro redundant
  exact versions_differ
    (redundant servingEngine (servingNode 1) (servingNode 2) rfl)

end Eki.Intake
