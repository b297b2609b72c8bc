import Eki.Ride.StopDisplay
import Eki.Ride.UnobservedStops

/-!
# Backend and passengers agree on the stops

Before and after each update of a ride that started fresh, the stop that the
backend publishes is one that the passenger's page believes: the stop just
reached, the origin or the terminal.  Every stop that was passed without being
observed lies below the published index, so it is shown as such.
-/

namespace Eki

variable {R : Type} [JsNumber R]

section Page

variable {stopCount current : Nat} {reported : Option Nat}

/-- The bus can be at a stop when this index is published. -/
def Believable (stopCount current stop : Nat) : Prop :=
  stop + 1 = current ∨ stop = current ∧ (current = 0 ∨ current + 1 = stopCount)

theorem believedStop_of_believable {stop : Nat}
    (believable : Believable stopCount current stop) :
    believedStop stopCount current (some stop) = some stop := by
  unfold believedStop
  rw [Option.filter_some, if_pos]
  simp only [Bool.or_eq_true, Bool.and_eq_true, beq_iff_eq]
  rcases believable with reached | ⟨same, origin | terminal⟩
  · omega
  · exact .inr ⟨same, .inl origin⟩
  · right
    exact ⟨same, .inr (by omega)⟩

theorem publishedStopIndex_of_inside {index : Nat}
    (inside : index < stopCount) :
    publishedStopIndex (some (index : Int)) stopCount = some index := by
  unfold publishedStopIndex
  rw [Option.filter_some, if_pos]
  · rfl
  · simp only [Bool.and_eq_true, decide_eq_true_eq]
    omega

/-- How passengers see a ride that shows `atStop`, with the stops passed
without observation. -/
structure AgreesWith (stopCount current : Nat) (atStop : Option Nat)
    (unobserved : Nat → Prop) (page : StopProgress) : Prop where
  length : page.states.length = stopCount
  atStop : page.atStopIndex = atStop
  behind : ∀ index < current, ∃ state, page.states[index]? = some state ∧
    (state = .passed ∨ state = .unobserved ∨ state = .present)
  ahead : ∀ next index, page.nextStopIndex = some next → next < index →
    index < stopCount → page.states[index]? = some .upcoming
  unconfirmed : ∀ index, unobserved index →
    page.states[index]? = some .unobserved

/-- What the page shows for three fields that fit together. -/
theorem agreesWith_of_published {atStop : Option Nat} {unobserved : List Nat}
    (inside : current < stopCount)
    (believable : ∀ stop, atStop = some stop →
      stop < stopCount ∧ Believable stopCount current stop)
    (below : ∀ index ∈ unobserved, index < current)
    (apart : ∀ stop, atStop = some stop → stop ∉ unobserved) :
    ∃ page, stopProgress stopCount (some (current : Int))
        (atStop.map Int.ofNat) unobserved = some page ∧
      AgreesWith stopCount current atStop (· ∈ unobserved) page := by
  have believed : believedStop stopCount current
      (publishedStopIndex (atStop.map Int.ofNat) stopCount) = atStop := by
    cases shown : atStop with
    | none => rfl
    | some stop =>
      obtain ⟨within, fits⟩ := believable stop shown
      have published := publishedStopIndex_of_inside within
      rw [Option.map_some]
      exact (congrArg _ published).trans (believedStop_of_believable fits)
  unfold stopProgress
  rw [publishedStopIndex_of_inside inside, Option.map_some, believed]
  refine ⟨_, rfl, ?_⟩
  have states : ∀ next index, index < stopCount →
      ((List.range stopCount).map (stopState current next atStop
        (unobserved.filter fun index => decide (index < current))))[index]? =
      some (stopState current next atStop
        (unobserved.filter fun index => decide (index < current)) index) := by
    intro next index within
    rw [List.getElem?_map, List.getElem?_range within, Option.map_some]
  constructor
  · simp only [List.length_map, List.length_range]
  · rfl
  · intro index passed
    refine ⟨_, states _ index (by omega), ?_⟩
    unfold stopState
    split
    · exact .inr (.inr rfl)
    · split
      · exact .inr (.inl rfl)
      · exact .inl rfl
  · intro next index named later within
    simp only at named ⊢
    rw [states _ index within]
    obtain ⟨-, expected⟩ := Option.ite_none_right_eq_some.mp named
    have notNext : index ≠ (if atStop == some current then current + 1
        else current) := by
      rw [Option.some.inj expected]
      omega
    have notBelow : ¬ index < current := by
      have next := Option.some.inj expected
      split at next <;> omega
    have elsewhere : (atStop == some index) = false := by
      rw [beq_eq_false_iff_ne]
      intro here
      rcases (believable index here).2 with reached | ⟨same, -⟩
      · omega
      · rw [here, same, if_pos (beq_self_eq_true _)] at expected
        have next := Option.some.inj expected
        omega
    unfold stopState
    rw [elsewhere, if_neg Bool.false_ne_true, if_neg notBelow, if_neg notNext]
  · intro index member
    have passed := below index member
    simp only
    rw [states _ index (by omega)]
    unfold stopState
    have elsewhere : (atStop == some index) = false := by
      rw [beq_eq_false_iff_ne]
      intro here
      exact apart index here member
    have listed : (unobserved.filter fun index =>
        decide (index < current)).contains index = true := by
      rw [List.contains_iff_mem, List.mem_filter]
      exact ⟨member, decide_eq_true passed⟩
    rw [elsewhere, if_neg Bool.false_ne_true, if_pos passed, listed,
      if_pos rfl]

end Page

/-! ### Completion at the terminal -/

theorem ServiceScope.serve_completed {configured : R} {scope : ServiceScope R}
    (completed : (scope.serve configured).tripState = .completed) :
    (scope.serve configured).currentStopIndex = scope.lastIndex := by
  unfold ServiceScope.serve at completed ⊢
  cases recovery : scope.recoverAfterGap with
  | awaitingDirection =>
    rw [recovery] at completed
    cases completed
  | next creditedIndex =>
    rw [recovery] at completed
    simp only at completed ⊢
    cases ending : scope.arrive
        (scope.lastIndex - scope.recoverUnobserved creditedIndex)
        (scope.recoverUnobserved creditedIndex) none false with
    | terminal =>
      exact (ServiceScope.confirmTerminal_fields configured scope _ _).1
    | before stop observedStop =>
      rw [ending] at completed
      cases completed

theorem reduceTripState_completed (configured : R) (input : TripStateInput R)
    (someStop : input.stops.length ≠ 0)
    (serving : input.currentTripState ≠ .trip .completed)
    (completed : (reduceTripState configured input).tripState = .completed) :
    (reduceTripState configured input).currentStopIndex =
      (input.stops.length - 1 : Nat) := by
  unfold reduceTripState at completed ⊢
  rw [if_neg someStop] at completed ⊢
  have unsettled : input.currentTripState.settled ≠ .completed := by
    intro settled
    cases state : input.currentTripState with
    | maintenance =>
      rw [state] at settled
      cases settled
    | trip current =>
      rw [state] at settled serving
      exact serving (congrArg _ settled)
  by_cases unusable : (input.unreliable || input.staleFix) = true
  · rw [if_pos unusable] at completed
    exact absurd completed unsettled
  · rw [if_neg unusable] at completed ⊢
    cases state : input.currentTripState with
    | maintenance =>
      rw [state] at completed
      cases completed
    | trip current =>
      rw [state] at completed serving
      cases current with
      | completed => exact absurd rfl serving
      | inService => exact ServiceScope.serve_completed completed
      | preDeparture =>
        simp only at completed ⊢
        split at completed
        · split at completed <;> cases completed
        · rename_i departing
          rw [if_neg departing]
          exact ServiceScope.serve_completed completed

namespace TripRun

variable {run : TripRun R}

theorem completed_at_terminal (someStop : run.stops.length ≠ 0)
    (fresh : run.start.tripState ≠ .completed) (n : Nat)
    (completed : (run.progress n).tripState = .completed) :
    (run.progress n).currentStopIndex = (run.stops.length - 1 : Nat) := by
  induction n with
  | zero => exact absurd completed fresh
  | succ n induction =>
    by_cases before : (run.progress n).tripState = .completed
    · have update := run.result_update n
      have same : (run.result n).currentStopIndex =
          (run.progress n).currentStopIndex := by
        generalize run.result n = result at update
        cases update with
        | noStops empty => exact absurd empty someStop
        | held | atOrigin | passive => rfl
        | service _ _ leaving state _ =>
          have serving := LegacyTripState.trip.inj state
          rw [before] at serving
          split at serving <;> cases serving
      exact same.trans (induction before)
    · refine reduceTripState_completed _ (run.input n) someStop ?_
        completed
      intro already
      exact before (LegacyTripState.trip.inj already)

/-! ### The stops passed in a run -/

/-- The stop was passed without being observed before update `n`. -/
def Unconfirmed (run : TripRun R) (n index : Nat) : Prop :=
  ∃ earlier < n, index ∈ run.passed earlier

theorem passed_below (n index : Nat) (member : index ∈ run.passed n) :
    (index : Int) < (run.progress (n + 1)).currentStopIndex :=
  (@passedBetween_of_reduced R _ run.configuredConfirmationMs (run.input n)
    index member).below

theorem unconfirmed_below (someStop : run.stops.length ≠ 0)
    (start : RideInRoute run.stops run.start) {n index : Nat}
    (unconfirmed : run.Unconfirmed n index) :
    (index : Int) < (run.progress n).currentStopIndex := by
  obtain ⟨earlier, before, member⟩ := unconfirmed
  have below := passed_below earlier index member
  have grows := run.progress_rel
    (fun before after => before.currentStopIndex ≤ after.currentStopIndex)
    (fun _ => le_refl _) (fun _ _ _ => le_trans)
    (fun k => (run.forwardUpdate someStop start k).indexGrows)
    (show earlier + 1 ≤ n from before)
  exact lt_of_lt_of_le below grows

theorem unconfirmed_succ {n index : Nat} :
    run.Unconfirmed (n + 1) index ↔
      run.Unconfirmed n index ∨ index ∈ run.passed n := by
  constructor
  · rintro ⟨earlier, before, member⟩
    by_cases last : earlier = n
    · subst last
      exact .inr member
    · exact .inl ⟨earlier, by omega, member⟩
  · rintro (⟨earlier, before, member⟩ | member)
    · exact ⟨earlier, by omega, member⟩
    · exact ⟨n, by omega, member⟩

/-- The published set is everything that was passed without being observed. -/
theorem mem_unobservedStops_iff (someStop : run.stops.length ≠ 0)
    (start : RideInRoute run.stops run.start) (n index : Nat) :
    index ∈ run.unobservedStops n ↔ run.Unconfirmed n index := by
  induction n with
  | zero =>
    constructor
    · intro member
      cases member
    · intro unconfirmed
      obtain ⟨earlier, before, -⟩ := unconfirmed
      omega
  | succ n induction =>
    have within := (run.rideInRoute someStop start (n + 1)).withinRoute
    have members : index ∈ run.unobservedStops (n + 1) ↔
        (((index ∈ run.unobservedStops n ∧ index < run.stops.length) ∨
            index ∈ run.passed n) ∧ index < run.stops.length) ∧
          (index : Int) < (run.progress (n + 1)).currentStopIndex := by
      simp only [unobservedStops, List.mem_filter, mem_mergedStopIndices,
        decide_eq_true_eq, List.not_mem_nil, or_false, progress_succ,
        TripStateResult.carried]
    rw [members, induction, unconfirmed_succ]
    constructor
    · intro shown
      exact shown.1.1.imp And.left id
    · intro unconfirmed
      have below := unconfirmed_below someStop start
        (unconfirmed_succ.mpr unconfirmed)
      have inside : index < run.stops.length := by omega
      exact ⟨⟨unconfirmed.imp (fun earlier => ⟨earlier, inside⟩) id,
        inside⟩, below⟩

end TripRun

/-! ### The stop of the bus -/

theorem visitedStopIndex_eq_some {fix : VisitFix R}
    {stops : List (TripRouteStop R)} {tripState : TripState} {current : Nat}
    {hasDepartedOrigin : Bool} {unobserved : List Nat} {stop : Nat}
    (inside : current < stops.length)
    (atTerminal : tripState = .completed → current = stops.length - 1)
    (below : ∀ index ∈ unobserved, index < current)
    (visited : visitedStopIndex fix stops tripState (current : Int)
      hasDepartedOrigin unobserved = some stop) :
    stop < stops.length ∧ Believable stops.length current stop ∧
      stop ∉ unobserved := by
  have apart : current ≤ stop → stop ∉ unobserved := by
    intro above member
    have := below stop member
    omega
  have same : min (current : Int).toNat (stops.length - 1) = current := by
    omega
  unfold visitedStopIndex at visited
  rw [if_neg (by omega)] at visited
  simp only [same] at visited
  split at visited
  · rename_i completed
    have terminal := atTerminal (by simpa using completed)
    have here := Option.some.inj visited
    exact ⟨by omega, .inr ⟨by omega, .inr (by omega)⟩, apart (by omega)⟩
  · split at visited
    · cases visited
    · split at visited
      · rename_i origin
        obtain ⟨-, here⟩ := Option.ite_none_right_eq_some.mp visited
        have here := Option.some.inj here
        exact ⟨by omega, .inr ⟨by omega, .inl origin⟩, apart (by omega)⟩
      · split at visited
        · rename_i notOrigin terminal
          simp only [Bool.and_eq_true, beq_iff_eq] at terminal
          have here := Option.some.inj visited
          exact ⟨by omega, .inr ⟨by omega, .inr (by omega)⟩, apart (by omega)⟩
        · rename_i notOrigin notTerminal
          obtain ⟨observed, here⟩ := Option.ite_none_right_eq_some.mp visited
          have here := Option.some.inj here
          subst here
          simp only [Bool.and_eq_true, Bool.not_eq_true', Bool.eq_false_iff,
            ne_eq, List.contains_iff_mem] at observed
          exact ⟨by omega, .inl (by omega), observed.1⟩

/-- **Backend and passengers agree on the stops.** -/
theorem passengers_see_published_stops (configured : R)
    (stops : List (TripRouteStop R)) (hasDepartedOrigin : Bool)
    (terminalArrival : Option (TerminalArrivalEvidence R))
    (gnssGapSince : Option R) (samples : Nat → TelemetrySample R) (n : Nat)
    (fix : VisitFix R) :
    let run : TripRun R :=
      { configuredConfirmationMs := configured
        stops
        start := .fresh hasDepartedOrigin terminalArrival gnssGapSince
        samples }
    (stops = [] → run.visited n fix = none ∧ run.shown n fix = none) ∧
      (stops ≠ [] → ∃ current : Nat,
        (run.progress n).currentStopIndex = current ∧
          ∃ page, run.shown n fix = some page ∧
            AgreesWith stops.length current (run.visited n fix)
              (run.Unconfirmed n) page) := by
  intro run
  constructor
  · intro empty
    subst empty
    have notVisited : run.visited n fix = none := rfl
    refine ⟨notVisited, ?_⟩
    unfold TripRun.shown stopProgress
    rw [Option.map_eq_none_iff]
    unfold publishedStopIndex
    rw [Option.map_eq_none_iff, Option.filter_some, if_neg]
    simp only [Bool.and_eq_true, decide_eq_true_eq, List.length_nil,
      show run.stops = [] from rfl]
    omega
  · intro nonempty
    have someStop : run.stops.length ≠ 0 :=
      fun empty => nonempty (List.length_eq_zero_iff.mp empty)
    have start : RideInRoute run.stops run.start := by
      refine ⟨le_refl _, ?_, fun left => absurd rfl left⟩
      show (0 : Int) ≤ _
      omega
    have inRoute := run.rideInRoute someStop start n
    obtain ⟨current, index⟩ := Int.eq_ofNat_of_zero_le inRoute.nonnegative
    have within := inRoute.withinRoute
    rw [index] at within
    have inside : current < run.stops.length := by omega
    have members := TripRun.mem_unobservedStops_iff someStop start n
    have below : ∀ index ∈ run.unobservedStops n, index < current := by
      intro stop member
      have := TripRun.unconfirmed_below someStop start
        ((members stop).mp member)
      omega
    have atTerminal : (run.progress n).tripState = .completed →
        current = run.stops.length - 1 := by
      intro completed
      have := TripRun.completed_at_terminal someStop (by
        intro already
        cases already) n completed
      omega
    have visited : ∀ stop, run.visited n fix = some stop →
        stop < run.stops.length ∧
          Believable run.stops.length current stop ∧
          stop ∉ run.unobservedStops n := by
      intro stop reported
      unfold TripRun.visited at reported
      rw [index] at reported
      exact visitedStopIndex_eq_some inside atTerminal below reported
    obtain ⟨page, shown, agrees⟩ := agreesWith_of_published inside
      (fun stop reported =>
        ⟨(visited stop reported).1, (visited stop reported).2.1⟩)
      below (fun stop reported => (visited stop reported).2.2)
    refine ⟨current, index, page, ?_, ?_⟩
    · unfold TripRun.shown
      rw [index]
      exact shown
    · exact { agrees with
        unconfirmed := fun stop passed =>
          agrees.unconfirmed stop ((members stop).mpr passed) }

end Eki
