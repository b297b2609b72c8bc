import Eki.Trip.Reducer

/-!
# What one update of the trip lifecycle can do

One lemma for each mechanism that moves the stop index: the arrival loop, the
recovery after a GNSS gap and the recovery of unobserved stops.  They are
assembled into `ServiceOutcome`, everything the service branch guarantees, so
that no later proof unfolds the reducer.
-/

namespace Eki

variable {R : Type} [JsNumber R]

namespace ServiceScope

variable {scope : ServiceScope R}

/-- The stops from `start` up to `finish` were consumed by the arrival loop,
in the order in which the segment crosses them. -/
structure Consumed (scope : ServiceScope R) (start finish : Nat) : Prop where
  arrives : ∀ index, start ≤ index → index < finish →
    scope.arrives index = true
  ordered : ∀ index, start ≤ index → index + 1 < finish →
    ¬ scope.crossing (index + 1) < scope.crossing index

theorem Consumed.refl (start : Nat) : scope.Consumed start start := by
  constructor
  · intro index above below
    omega
  · intro index above below
    omega

variable {start finish : Nat}

theorem Consumed.cons (reached : scope.arrives start = true)
    (inOrder : start + 1 < finish →
      ¬ scope.crossing (start + 1) < scope.crossing start)
    (rest : scope.Consumed (start + 1) finish) :
    scope.Consumed start finish := by
  constructor
  · intro index above below
    rcases Nat.eq_or_lt_of_le above with rfl | later
    · exact reached
    · exact rest.arrives index later below
  · intro index above below
    rcases Nat.eq_or_lt_of_le above with rfl | later
    · exact inOrder below
    · exact rest.ordered index later below

/-- A range that ends later than where the loop stops consumes at least the
stop that the loop starts from. -/
private theorem arrive_front
    {remaining nextIndex : Nat} {lastCrossing : Option R}
    {observedStop : Bool} {last : R}
    (crossed : lastCrossing = some last) :
    (∀ stop observed, scope.arrive remaining nextIndex lastCrossing
        observedStop = .before stop observed → nextIndex < stop →
      ¬ scope.crossing nextIndex < last) ∧
    (scope.arrive remaining nextIndex lastCrossing observedStop = .terminal →
      ¬ scope.crossing nextIndex < last) := by
  subst crossed
  constructor
  · intro stop observed outcome further behind
    unfold arrive at outcome
    simp only [Option.any_some, behind, decide_true, ↓reduceIte] at outcome
    split at outcome <;> simp only [ArrivalEnd.before.injEq] at outcome <;> omega
  · intro outcome behind
    unfold arrive at outcome
    simp only [Option.any_some, behind, decide_true, ↓reduceIte] at outcome
    split at outcome <;> cases outcome

theorem arrive_spec (remaining nextIndex : Nat) (lastCrossing : Option R)
    (observedStop : Bool) :
    (∀ stop observed, scope.arrive remaining nextIndex lastCrossing
        observedStop = .before stop observed →
      nextIndex ≤ stop ∧ stop ≤ nextIndex + remaining ∧
        scope.Consumed nextIndex stop) ∧
    (scope.arrive remaining nextIndex lastCrossing observedStop = .terminal →
      scope.Consumed nextIndex (nextIndex + remaining + 1)) := by
  fun_induction arrive scope remaining nextIndex lastCrossing observedStop with
  | case1 | case4 =>
    refine ⟨?_, nofun⟩
    rintro stop observed ⟨rfl, -⟩
    exact ⟨le_refl _, by omega, Consumed.refl _⟩
  | case2 nextIndex lastCrossing observedStop reached =>
    exact ⟨nofun, fun _ => Consumed.cons reached (by omega) (Consumed.refl _)⟩
  | case3 nextIndex lastCrossing observedStop reached _ remaining induction =>
    obtain ⟨beforeStop, atTerminal⟩ := induction
    obtain ⟨frontBefore, frontTerminal⟩ :=
      @arrive_front R _ scope remaining (nextIndex + 1)
        (some (scope.crossing nextIndex)) true _ rfl
    constructor
    · intro stop observed outcome
      obtain ⟨lower, upper, rest⟩ := beforeStop stop observed outcome
      exact ⟨by omega, by omega, Consumed.cons reached
        (frontBefore stop observed outcome) rest⟩
    · intro outcome
      have rest := atTerminal outcome
      rw [show nextIndex + 1 + remaining + 1 =
        nextIndex + (remaining + 1) + 1 by omega] at rest
      exact Consumed.cons reached (fun _ => frontTerminal outcome) rest

variable {index : Nat}

theorem resolveSharedStop_mem {resolved : Nat} {copies : List Nat}
    (resolution : scope.resolveSharedStop index copies = some resolved) :
    resolved = index ∨ resolved ∈ copies := by
  induction copies with
  | nil =>
    simp only [resolveSharedStop, Option.some.injEq] at resolution
    exact .inl resolution.symm
  | cons copy copies induction =>
    unfold resolveSharedStop at resolution
    simp only at resolution
    split at resolution
    · rcases induction resolution with same | later
      · exact .inl same
      · exact .inr (List.mem_cons_of_mem _ later)
    · split at resolution
      · exact .inl (Option.some.inj resolution).symm
      · split at resolution
        · exact .inl (Option.some.inj resolution).symm
        · split at resolution
          · exact .inr (by simp [Option.some.inj resolution])
          · obtain ⟨pass, -, chosen⟩ := Option.map_eq_some_iff.mp resolution
            cases pass with
            | earlier => exact .inl chosen.symm
            | later => exact .inr (by simp [← chosen])

theorem sharedStop_bounds {resolved : Nat}
    (resolution : scope.sharedStop index = some resolved) :
    resolved = index ∨ index < resolved ∧ resolved ≤ scope.lastSkippable := by
  rcases resolveSharedStop_mem resolution with same | copy
  · exact .inl same
  · rw [List.mem_range'_1] at copy
    omega

variable {indices : List Nat}

theorem observedAfterGap_mem
    (observed : scope.observedAfterGap indices = some index) :
    index ∈ indices := by
  induction indices with
  | nil => simp [observedAfterGap] at observed
  | cons head tail induction =>
    unfold observedAfterGap at observed
    split at observed
    · cases observed
    · split at observed
      · exact List.mem_cons_of_mem _ (induction observed)
      · split at observed
        · exact List.mem_cons_of_mem _ (induction observed)
        · simp [Option.some.inj observed]

theorem recoverAfterGap_spec {nextIndex : Nat}
    (recovery : scope.recoverAfterGap = .next nextIndex) :
    scope.safeCurrentIndex ≤ nextIndex ∧
      (nextIndex ≠ scope.safeCurrentIndex →
        scope.gnssGap.isSome = true ∧ 0 < scope.safeCurrentIndex ∧
          nextIndex ≤ scope.lastSkippable) := by
  unfold recoverAfterGap at recovery
  split at recovery
  · rename_i gapOpen
    split at recovery
    · cases resolution : scope.sharedStop scope.safeCurrentIndex with
      | none => simp [resolution, creditThrough] at recovery
      | some resolved =>
        simp only [resolution, creditThrough, GapRecovery.next.injEq]
          at recovery
        have bounds := sharedStop_bounds resolution
        exact ⟨by omega, fun moved => ⟨gapOpen.1, gapOpen.2, by omega⟩⟩
    · cases observed : scope.observedAfterGap
          (scope.laterStops scope.lastSkippable) with
      | none =>
        simp only [observed, GapRecovery.next.injEq] at recovery
        exact ⟨by omega, fun moved => absurd recovery.symm moved⟩
      | some index =>
        simp only [observed] at recovery
        have later := observedAfterGap_mem observed
        simp only [laterStops, List.mem_range'_1] at later
        cases resolution : scope.sharedStop index with
        | none => simp [resolution, creditThrough] at recovery
        | some resolved =>
          simp only [resolution, creditThrough, GapRecovery.next.injEq]
            at recovery
          have bounds := sharedStop_bounds resolution
          exact ⟨by omega, fun moved => ⟨gapOpen.1, gapOpen.2, by omega⟩⟩
  · simp only [GapRecovery.next.injEq] at recovery
    exact ⟨by omega, fun moved => absurd recovery.symm moved⟩

theorem drivenThrough_mem (driven : scope.drivenThrough indices = some index) :
    index ∈ indices := by
  induction indices with
  | nil => simp [drivenThrough] at driven
  | cons head tail induction =>
    unfold drivenThrough at driven
    split at driven
    · exact List.mem_cons_of_mem _ (induction driven)
    · split at driven
      · cases driven
      · simp [Option.some.inj driven]

theorem recoverUnobserved_spec (scope : ServiceScope R) (nextIndex : Nat) :
    nextIndex ≤ scope.recoverUnobserved nextIndex ∧
      (scope.recoverUnobserved nextIndex ≠ nextIndex →
        scope.gnssGap = none ∧ 0 < nextIndex ∧
          scope.recoverUnobserved nextIndex ≤
            nextIndex + maxUnobservedRecoveryStops ∧
          scope.recoverUnobserved nextIndex ≤ scope.lastSkippable) := by
  unfold recoverUnobserved
  split
  · rename_i noGap
    simp only
    cases driven : scope.drivenThrough (List.range' (nextIndex + 1)
        (min (nextIndex + maxUnobservedRecoveryStops)
          scope.lastSkippable + 1 - (nextIndex + 1))) with
    | none => simp only [Option.getD_none, le_refl, ne_eq, not_true_eq_false,
        false_implies, and_self]
    | some index =>
      have member := drivenThrough_mem driven
      rw [List.mem_range'_1] at member
      simp only [Option.getD_some]
      exact ⟨by omega, fun _ =>
        ⟨Option.isNone_iff_eq_none.mp noGap.1, noGap.2.1, by omega, by omega⟩⟩
  · exact ⟨le_refl _, fun moved => absurd rfl moved⟩

omit [JsNumber R] in
theorem lastSkippable_le (scope : ServiceScope R) :
    scope.lastSkippable ≤ scope.lastIndex := by
  unfold lastSkippable
  split <;> omega

theorem indicesBetween_eq_some
    (present : indicesBetween start finish = some indices) :
    indices = List.range' start (finish - start) ∧ finish ≠ start := by
  unfold indicesBetween at present
  split at present
  · cases present
  · rename_i different
    exact ⟨(Option.some.inj present).symm, different⟩

theorem indicesBetween_eq_none (absent : indicesBetween start finish = none) :
    finish = start := by
  unfold indicesBetween at absent
  split at absent
  · assumption
  · cases absent

/-- Stops that the service branch credits without observing them: those from
the index of the ride up to `credited`. -/
structure Credited (scope : ServiceScope R) (credited : Nat)
    (skipped unobserved : Option (List Nat)) : Prop where
  above : scope.safeCurrentIndex ≤ credited
  moves : credited ≠ scope.safeCurrentIndex →
    0 < scope.safeCurrentIndex ∧ credited ≤ scope.lastSkippable
  ofSkipped : ∀ indices, skipped = some indices →
    indices = List.range' scope.safeCurrentIndex
        (credited - scope.safeCurrentIndex) ∧
      scope.gnssGap.isSome = true
  ofUnobserved : ∀ indices, unobserved = some indices →
    indices = List.range' scope.safeCurrentIndex
        (credited - scope.safeCurrentIndex) ∧
      indices.length ≤ maxUnobservedRecoveryStops ∧ scope.gnssGap = none
  ofNeither : skipped = none → unobserved = none →
    credited = scope.safeCurrentIndex

theorem Credited.nothing (scope : ServiceScope R) :
    scope.Credited scope.safeCurrentIndex none none := by
  constructor
  · exact le_refl _
  · exact fun moved => absurd rfl moved
  · rintro indices ⟨⟩
  · rintro indices ⟨⟩
  · intros
    rfl

/-- The two recoveries together: a gap admits only the first, its absence only
the second. -/
theorem credited_of_recovery {creditedIndex : Nat}
    (recovery : scope.recoverAfterGap = .next creditedIndex) :
    scope.Credited (scope.recoverUnobserved creditedIndex)
      (indicesBetween scope.safeCurrentIndex creditedIndex)
      (indicesBetween creditedIndex
        (scope.recoverUnobserved creditedIndex)) := by
  obtain ⟨above, gapMoves⟩ := recoverAfterGap_spec recovery
  obtain ⟨further, unobservedMoves⟩ :=
    recoverUnobserved_spec scope creditedIndex
  have notBoth : creditedIndex = scope.safeCurrentIndex ∨
      scope.recoverUnobserved creditedIndex = creditedIndex := by
    by_contra moved
    push Not at moved
    have gapOpen := (gapMoves moved.1).1
    rw [(unobservedMoves moved.2).1] at gapOpen
    cases gapOpen
  constructor
  · exact le_trans above further
  · intro moved
    rcases notBoth with same | same
    · have unobserved := (unobservedMoves (by omega)).2
      exact ⟨by omega, unobserved.2.2⟩
    · rw [same] at moved ⊢
      exact (gapMoves moved).2
  · intro indices present
    obtain ⟨range, moved⟩ := indicesBetween_eq_some present
    have same := notBoth.resolve_left moved
    exact ⟨by rw [same]; exact range, (gapMoves moved).1⟩
  · intro indices present
    obtain ⟨range, moved⟩ := indicesBetween_eq_some present
    have same := notBoth.resolve_right moved
    obtain ⟨noGap, -, few, -⟩ := unobservedMoves moved
    rw [range, List.length_range', same]
    rw [same] at few
    exact ⟨rfl, by omega, noGap⟩
  · intro noneSkipped noneUnobserved
    have first := indicesBetween_eq_none noneSkipped
    have second := indicesBetween_eq_none noneUnobserved
    omega

/-- What a fix adds to the terminal evidence: it starts the evidence, or it
extends evidence that is recent and not in its future. -/
structure EvidenceStep (input : TripStateInput R)
    (evidence : TerminalArrivalEvidence R) (timestamp : R) : Prop where
  sampledAt : input.timestamp = some timestamp
  last : evidence.lastSampledAt = timestamp
  start : evidence.startedAt = timestamp ∨
    ∃ prior, input.terminalArrival = some prior ∧
      evidence.startedAt = prior.startedAt ∧
      prior.lastSampledAt ≤ timestamp ∧
      timestamp - prior.lastSampledAt ≤ maxTerminalEvidenceGapMs

/-- What completes a ride: evidence that this fix follows strictly and
recently, and that began a confirmation time ago. -/
structure Confirmation (configured : R) (input : TripStateInput R)
    (prior : TerminalArrivalEvidence R) (timestamp : R) : Prop where
  sampledAt : input.timestamp = some timestamp
  carried : input.terminalArrival = some prior
  inOrder : prior.lastSampledAt ≤ timestamp
  later : prior.lastSampledAt < timestamp
  recent : timestamp - prior.lastSampledAt ≤ maxTerminalEvidenceGapMs
  confirmed :
    timestamp - prior.startedAt ≥ terminalArrivalConfirmationMs configured

private theorem usablePrior_eq_some
    {carried : Option (TerminalArrivalEvidence R)} {timestamp : R}
    {prior : TerminalArrivalEvidence R}
    (usable : usablePrior carried timestamp = some prior) :
    carried = some prior ∧ prior.lastSampledAt ≤ timestamp ∧
      timestamp - prior.lastSampledAt ≤ maxTerminalEvidenceGapMs := by
  obtain ⟨present, accepted⟩ := Option.filter_eq_some_iff.mp usable
  simp only [Bool.and_eq_true, decide_eq_true_eq] at accepted
  exact ⟨present, accepted.1.2, accepted.2⟩

/-- Terminal evidence and completion come only from a qualifying arrival. -/
structure TerminalOutcome (configured : R) (scope : ServiceScope R)
    (result : TripStateResult R) : Prop where
  evidence : ∀ evidence, result.terminalArrival = some evidence →
    scope.reliableArrival = true ∧
      ∃ timestamp, EvidenceStep scope.input evidence timestamp
  completed : result.tripState = .completed →
    scope.reliableArrival = true ∧
      ∃ prior timestamp, Confirmation configured scope.input prior timestamp
  inRide : result.tripState ≠ .preDeparture

theorem terminalOutcome_of_silent {configured : R}
    {result : TripStateResult R} (inService : result.tripState = .inService)
    (silent : result.terminalArrival = none) :
    TerminalOutcome configured scope result := by
  constructor
  · intro evidence present
    rw [silent] at present
    cases present
  · intro completed
    rw [inService] at completed
    cases completed
  · rw [inService]
    decide

theorem confirmTerminal_fields (configured : R) (scope : ServiceScope R)
    (skipped unobserved : Option (List Nat)) :
    (scope.confirmTerminal configured skipped unobserved).currentStopIndex =
        scope.lastIndex ∧
      (scope.confirmTerminal configured skipped
        unobserved).hasDepartedOrigin = scope.hasDepartedOrigin ∧
      (scope.confirmTerminal configured skipped
        unobserved).skippedStopIndices = skipped ∧
      (scope.confirmTerminal configured skipped
        unobserved).unobservedStopIndices = unobserved := by
  unfold confirmTerminal
  dsimp only
  split
  · simp
  · split
    · simp
    · split
      · simp
      · split <;> simp

theorem confirmTerminal_outcome (configured : R) (scope : ServiceScope R)
    (skipped unobserved : Option (List Nat)) :
    TerminalOutcome configured scope
      (scope.confirmTerminal configured skipped unobserved) := by
  unfold confirmTerminal
  dsimp only
  split
  · exact terminalOutcome_of_silent rfl rfl
  · rename_i timestamp sampledAt
    split
    · exact terminalOutcome_of_silent rfl rfl
    · rename_i qualifies
      have reliable : scope.reliableArrival = true := by
        simpa using qualifies
      split
      · constructor
        · rintro evidence ⟨⟩
          exact ⟨reliable, timestamp, sampledAt, rfl, .inl rfl⟩
        · rintro ⟨⟩
        · simp
      · rename_i prior usable
        obtain ⟨carried, inOrder, recent⟩ := usablePrior_eq_some usable
        split
        · rename_i confirmed
          constructor
          · rintro evidence ⟨⟩
          · intro _
            exact ⟨reliable, prior, timestamp, sampledAt, carried, inOrder,
              confirmed.1, recent, confirmed.2⟩
          · simp
        · constructor
          · rintro evidence ⟨⟩
            exact ⟨reliable, timestamp, sampledAt, rfl,
              .inr ⟨prior, carried, rfl, inOrder, recent⟩⟩
          · rintro ⟨⟩
          · simp

/-- Everything that the service branch guarantees about its result. -/
structure ServiceOutcome (configured : R) (scope : ServiceScope R)
    (result : TripStateResult R) : Prop
    extends TerminalOutcome configured scope result where
  progress : ∃ credited stop : Nat, result.currentStopIndex = stop ∧
    credited ≤ stop ∧ stop ≤ scope.lastIndex ∧
    scope.Credited credited result.skippedStopIndices
      result.unobservedStopIndices ∧
    scope.Consumed credited stop
  departed : result.hasDepartedOrigin =
    (scope.hasDepartedOrigin || scope.leavingOrigin)
  leaving : scope.leavingOrigin = true →
    result.tripState = .inService ∧ result.terminalArrival = none

theorem not_leaving_of_arrives_last
    (arrives : scope.arrives scope.lastIndex = true) :
    scope.leavingOrigin = false := by
  unfold ServiceScope.arrives at arrives
  simp only [beq_self_eq_true, Bool.and_true, Bool.and_eq_true,
    Bool.not_eq_true'] at arrives
  exact arrives.1.1.1.2

theorem serve_outcome (configured : R) {scope : ServiceScope R}
    (within : scope.safeCurrentIndex ≤ scope.lastIndex) :
    ServiceOutcome configured scope (scope.serve configured) := by
  unfold serve
  split
  · exact
      { toTerminalOutcome := terminalOutcome_of_silent rfl rfl
        progress := ⟨scope.safeCurrentIndex, scope.safeCurrentIndex, rfl,
          le_refl _, within, Credited.nothing scope, Consumed.refl _⟩
        departed := rfl
        leaving := fun _ => ⟨rfl, rfl⟩ }
  · rename_i creditedIndex recovery
    have credited := credited_of_recovery recovery
    have creditedWithin :
        scope.recoverUnobserved creditedIndex ≤ scope.lastIndex := by
      have skippable := lastSkippable_le scope
      have moved := credited.moves
      omega
    dsimp only
    split
    · rename_i ending
      have consumed := (arrive_spec _ _ _ _).2 ending
      have notLeaving := not_leaving_of_arrives_last
        (consumed.arrives scope.lastIndex creditedWithin (by omega))
      obtain ⟨index, departed, skippedSame, unobservedSame⟩ :=
        confirmTerminal_fields configured scope
          (indicesBetween scope.safeCurrentIndex creditedIndex)
          (indicesBetween creditedIndex
            (scope.recoverUnobserved creditedIndex))
      refine
        { toTerminalOutcome := confirmTerminal_outcome configured scope _ _
          progress := ⟨_, scope.lastIndex, index, creditedWithin, le_refl _,
            by rw [skippedSame, unobservedSame]; exact credited, ?_⟩
          departed := by rw [departed, notLeaving, Bool.or_false]
          leaving := fun leaving => by rw [notLeaving] at leaving; cases leaving }
      constructor
      · intro index above below
        exact consumed.arrives index above (by omega)
      · intro index above below
        exact consumed.ordered index above (by omega)
    · rename_i stop observedStop ending
      obtain ⟨lower, upper, consumed⟩ := (arrive_spec _ _ _ _).1 _ _ ending
      exact
        { toTerminalOutcome := terminalOutcome_of_silent rfl rfl
          progress := ⟨_, stop, rfl, lower, by omega, credited, consumed⟩
          departed := rfl
          leaving := fun _ => ⟨rfl, rfl⟩ }

end ServiceScope

/-- Everything that one update of the lifecycle can be. -/
inductive Update (configured : R) (input : TripStateInput R) :
    TripStateResult R → Prop where
  | noStops (empty : input.stops.length = 0) :
      Update configured input
        { tripState := input.currentTripState.settled
          currentStopIndex := 0
          hasDepartedOrigin := input.hasDepartedOrigin }
  | held (someStop : input.stops.length ≠ 0)
      (unusable : (input.unreliable || input.staleFix) = true) :
      Update configured input
        { tripState := input.currentTripState.settled
          currentStopIndex := input.currentStopIndex
          hasDepartedOrigin := input.hasDepartedOrigin
          gnssGapSince := input.gnssGap }
  | atOrigin (someStop : input.stops.length ≠ 0)
      (usable : (input.unreliable || input.staleFix) = false)
      (state : input.currentTripState = .trip .preDeparture)
      (stays : input.departs = false ∨ input.stops.length < 2) :
      Update configured input
        { tripState := if input.departs then .inService else .preDeparture
          currentStopIndex := input.currentStopIndex
          hasDepartedOrigin := input.departedOrigin || input.departs
          gnssGapSince := input.gnssGap }
  | service (someStop : input.stops.length ≠ 0)
      (usable : (input.unreliable || input.staleFix) = false)
      (leaving : Bool)
      (state : input.currentTripState =
        .trip (if leaving then .preDeparture else .inService))
      {result : TripStateResult R}
      (outcome : ServiceScope.ServiceOutcome configured
        (input.serviceScope leaving) result) :
      Update configured input result
  | passive (someStop : input.stops.length ≠ 0)
      (usable : (input.unreliable || input.staleFix) = false)
      (state : input.currentTripState = .trip .completed ∨
        input.currentTripState = .maintenance) :
      Update configured input
        { tripState := input.currentTripState.settled
          currentStopIndex := input.currentStopIndex
          hasDepartedOrigin := input.departedOrigin
          gnssGapSince := input.gnssGap }

theorem safeCurrentIndex_of_leaving {input : TripStateInput R} {leaving : Bool}
    (leaves : (input.serviceScope leaving).leavingOrigin = true) :
    (input.serviceScope leaving).safeCurrentIndex =
      max 1 input.routeIndex := by
  unfold TripStateInput.serviceScope at leaves ⊢
  exact if_pos leaves

theorem safeCurrentIndex_of_not_leaving {input : TripStateInput R}
    {leaving : Bool}
    (stays : (input.serviceScope leaving).leavingOrigin = false) :
    (input.serviceScope leaving).safeCurrentIndex = input.routeIndex := by
  unfold TripStateInput.serviceScope at stays ⊢
  exact if_neg (by simpa using stays)

theorem routeIndex_le (input : TripStateInput R) (leaving : Bool) :
    input.routeIndex ≤ (input.serviceScope leaving).safeCurrentIndex := by
  cases leaves : (input.serviceScope leaving).leavingOrigin with
  | true =>
    rw [safeCurrentIndex_of_leaving leaves]
    exact Nat.le_max_right _ _
  | false => rw [safeCurrentIndex_of_not_leaving leaves]

theorem serviceScope_within (input : TripStateInput R) (leaving : Bool)
    (room : leaving = true → 2 ≤ input.stops.length) :
    (input.serviceScope leaving).safeCurrentIndex ≤
      (input.serviceScope leaving).lastIndex := by
  have lastIndex : (input.serviceScope leaving).lastIndex =
    input.stops.length - 1 := rfl
  have routeIndex : input.routeIndex ≤ input.stops.length - 1 :=
    Nat.min_le_right _ _
  cases leaves : (input.serviceScope leaving).leavingOrigin with
  | true =>
    have several : 2 ≤ input.stops.length := by
      unfold TripStateInput.serviceScope at leaves
      simp only [Bool.or_eq_true, Bool.and_eq_true,
        decide_eq_true_eq] at leaves
      rcases leaves with departed | inService
      · exact room departed
      · omega
    rw [safeCurrentIndex_of_leaving leaves]
    omega
  | false =>
    rw [safeCurrentIndex_of_not_leaving leaves]
    omega

theorem reduceTripState_update (configured : R) (input : TripStateInput R) :
    Update configured input (reduceTripState configured input) := by
  unfold reduceTripState
  split
  · rename_i empty
    exact .noStops empty
  · rename_i someStop
    split
    · rename_i unusable
      exact .held someStop unusable
    · rename_i usable
      have usable := Bool.eq_false_iff.mpr usable
      split
      · rename_i state
        split
        · rename_i stays
          refine .atOrigin someStop usable state ?_
          simpa using stays
        · rename_i departs
          simp only [Bool.or_eq_true, Bool.not_eq_true',
            decide_eq_true_eq, not_or, not_lt] at departs
          exact .service someStop usable true state
            (ServiceScope.serve_outcome configured
              (serviceScope_within input true fun _ => departs.2))
      · rename_i state
        exact .service someStop usable false state
          (ServiceScope.serve_outcome configured
            (serviceScope_within input false (by simp)))
      · rename_i notBefore notServing
        cases state : input.currentTripState with
        | maintenance =>
          have passive : Update configured input _ :=
            .passive someStop usable (.inr state)
          rwa [state] at passive
        | trip current =>
          cases current with
          | preDeparture => exact absurd state notBefore
          | inService => exact absurd state notServing
          | completed =>
            have passive : Update configured input _ :=
              .passive someStop usable (.inl state)
            rwa [state] at passive

end Eki
