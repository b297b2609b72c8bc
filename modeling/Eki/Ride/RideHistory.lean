import Eki.Ride.DurableProgress
import Eki.Ride.Journey

/-!
# What the history of a ride holds

A commit adds the entries that the history lacks, up to the last stop that the
ride has reached.  It can do so where its index is a stop of the route, as the
engine has it cached; an index that is not was carried over from an earlier
commit, and the history already vouches for it.
-/

namespace Eki

variable {R : Type} [JsNumber R] {Stop : Type}

def historyStops (history : List (StopReached Stop)) : List Nat :=
  history.map StopReached.stopIndex

def lastReached (tripState : TripState) (currentStopIndex : Int) : Nat :=
  if tripState == .completed then currentStopIndex.toNat
  else currentStopIndex.toNat - 1

@[simp] theorem lastReached_inService (index : Int) :
    lastReached .inService index = index.toNat - 1 := rfl

@[simp] theorem lastReached_completed (index : Int) :
    lastReached .completed index = index.toNat := rfl

theorem historyStops_append (front back : List (StopReached Stop)) :
    historyStops (front ++ back) = historyStops front ++ historyStops back := by
  unfold historyStops
  exact List.map_append

theorem any_stopIndex_iff {history : List (StopReached Stop)} {index : Nat} :
    (history.any fun entry => entry.stopIndex == index) = true ↔
      index ∈ historyStops history := by
  simp only [historyStops, List.any_eq_true, beq_iff_eq, List.mem_map]

section Missing

variable {stops : List Stop} {tripState : TripState} {currentStopIndex : Int}
  {existing : List (StopReached Stop)} {previousStopIndex : Option Int}
  {skippedStopIndices unobservedStopIndices : List Nat}

theorem missingStopHistory_offRoute
    (offRoute : ¬ (0 ≤ currentStopIndex ∧ currentStopIndex < stops.length)) :
    missingStopHistory stops tripState currentStopIndex existing
      previousStopIndex skippedStopIndices unobservedStopIndices = [] := by
  apply if_pos
  simp only [Bool.or_eq_true, decide_eq_true_eq, beq_iff_eq]
  omega

theorem missingStopHistory_preDeparture :
    missingStopHistory stops .preDeparture currentStopIndex existing
      previousStopIndex skippedStopIndices unobservedStopIndices = [] := by
  apply if_pos
  simp

theorem historyStops_missing
    (onRoute : 0 ≤ currentStopIndex ∧ currentStopIndex < stops.length)
    (left : tripState ≠ .preDeparture) :
    historyStops (missingStopHistory stops tripState currentStopIndex existing
        previousStopIndex skippedStopIndices unobservedStopIndices) =
      (List.range (lastReached tripState currentStopIndex + 1)).filter
        fun index => !existing.any fun entry => entry.stopIndex == index := by
  have admitted : (decide (currentStopIndex < 0) ||
      decide (currentStopIndex ≥ stops.length) ||
      tripState == .preDeparture) = false := by
    simp only [Bool.or_eq_false_iff, decide_eq_false_iff_not,
      beq_eq_false_iff_ne]
    exact ⟨⟨by omega, by omega⟩, left⟩
  have inside : ∀ index ∈ List.range
      (lastReached tripState currentStopIndex + 1), index < stops.length := by
    intro index member
    have below := List.mem_range.mp member
    unfold lastReached at below
    split at below <;> omega
  unfold missingStopHistory
  rw [admitted]
  simp only [Bool.false_eq_true, if_false]
  change historyStops (List.filterMap _
    (List.range (lastReached tripState currentStopIndex + 1))) = _
  generalize List.range (lastReached tripState currentStopIndex + 1) = indices
    at inside ⊢
  induction indices with
  | nil => rfl
  | cons index rest induction =>
    have later := induction fun other member =>
      inside other (List.mem_cons_of_mem _ member)
    have present := inside index List.mem_cons_self
    rw [List.filterMap_cons, List.filter_cons]
    cases known : existing.any fun entry => entry.stopIndex == index with
    | true =>
      simp only [if_true, Bool.not_true, Bool.false_eq_true, if_false]
      exact later
    | false =>
      simp only [Bool.false_eq_true, if_false, Bool.not_false, if_true,
        List.getElem?_eq_getElem present, Option.map_some]
      exact congrArg (index :: ·) later

/-- An addition has no entry yet. -/
theorem nodup_remember (once : (historyStops existing).Nodup) :
    (historyStops (existing ++ missingStopHistory stops tripState
      currentStopIndex existing previousStopIndex skippedStopIndices
      unobservedStopIndices)).Nodup := by
  rw [historyStops_append]
  by_cases onRoute : 0 ≤ currentStopIndex ∧ currentStopIndex < stops.length
  · by_cases left : tripState = .preDeparture
    · rw [left, missingStopHistory_preDeparture]
      simpa [historyStops] using once
    · rw [historyStops_missing onRoute left]
      refine List.nodup_append.mpr ⟨once, List.nodup_range.filter _, ?_⟩
      rintro index known other added rfl
      have fresh := (List.mem_filter.mp added).2
      rw [any_stopIndex_iff.mpr known] at fresh
      cases fresh
  · rw [missingStopHistory_offRoute onRoute]
    simpa [historyStops] using once

end Missing

/-- The history vouches for the progress of a ride: before departure there is
none, and in service every reached stop has its entry. -/
def Vouches (known : List Nat) : TripState → Int → Prop
  | .preDeparture, index => index = 0
  | .inService, index =>
    ∀ stop ≤ lastReached .inService index, stop ∈ known
  | .completed, _ => True

/-- The history will vouch for the progress once it is committed. -/
def Committable (known : List Nat) (stopCount : Nat) : TripState → Int → Prop
  | .preDeparture, index => index = 0
  | .inService, index =>
    (0 ≤ index ∧ index < stopCount) ∨ Vouches known .inService index
  | .completed, index => 0 ≤ index ∧ index < stopCount

section Vouching

variable {known more : List Nat} {tripState : TripState} {index other : Int}
  {stopCount : Nat}

theorem Vouches.mono (vouches : Vouches known tripState index)
    (grows : known ⊆ more) : Vouches more tripState index := by
  cases tripState with
  | preDeparture => exact vouches
  | inService => exact fun stop reached => grows (vouches stop reached)
  | completed => trivial

theorem Vouches.lower (vouches : Vouches known .inService index)
    (lower : other.toNat ≤ max 1 index.toNat) :
    Vouches known .inService other := by
  intro stop reached
  apply vouches stop
  rw [lastReached_inService] at reached ⊢
  omega

theorem Vouches.committable (vouches : Vouches known tripState index)
    (running : tripState ≠ .completed) :
    Committable known stopCount tripState index := by
  cases tripState with
  | preDeparture => exact vouches
  | inService => exact .inr vouches
  | completed => exact absurd rfl running

end Vouching

variable {known : List Nat} {tripState : TripState}

section

variable {input : TripStateInput R} (configured : R)
  (state : input.currentTripState = .trip tripState)

include configured state

/-- A snapshot that the history vouches for reduces to progress that can be
committed. -/
theorem committable_of_reduced (running : tripState ≠ .completed)
    (vouches : Vouches known tripState input.currentStopIndex) :
    Committable known input.stops.length
      (reduceTripState configured input).tripState
      (reduceTripState configured input).currentStopIndex := by
  have update := reduceTripState_update configured input
  generalize reduceTripState configured input = result at update ⊢
  have kept : Committable known input.stops.length tripState
      input.currentStopIndex := vouches.committable running
  cases update with
  | noStops =>
    simp only [state, LegacyTripState.settled]
    cases tripState with
    | preDeparture => rfl
    | inService =>
      apply Vouches.committable _ running
      apply vouches.lower
      simp
    | completed => exact absurd rfl running
  | held =>
    simp only [state, LegacyTripState.settled]
    exact kept
  | atOrigin someStop usable atOrigin =>
    have before : tripState = .preDeparture :=
      LegacyTripState.trip.inj (state.symm.trans atOrigin)
    subst before
    have first : input.currentStopIndex = 0 := vouches
    rw [first]
    simp only
    split
    · exact .inl ⟨le_refl _, by omega⟩
    · rfl
  | service someStop usable leaving serving outcome =>
    obtain ⟨credited, stop, ends, -, within, -⟩ := outcome.progress
    have lastIndex : (input.serviceScope leaving).lastIndex =
      input.stops.length - 1 := rfl
    have onRoute : 0 ≤ result.currentStopIndex ∧
        result.currentStopIndex < input.stops.length := by omega
    cases reached : result.tripState with
    | preDeparture => exact absurd reached outcome.inRide
    | inService => exact .inl onRoute
    | completed => exact onRoute
  | passive someStop usable ended =>
    rw [state] at ended
    rcases ended with ended | legacy
    · exact absurd (LegacyTripState.trip.inj ended) running
    · cases legacy

theorem vouches_of_stale
    (vouches : Vouches known tripState input.currentStopIndex)
    (stale : input.staleFix = true) :
    Vouches known (reduceTripState configured input).tripState
      (reduceTripState configured input).currentStopIndex := by
  have update := reduceTripState_update configured input
  generalize reduceTripState configured input = result at update ⊢
  cases update with
  | noStops =>
    simp only [state, LegacyTripState.settled]
    cases tripState with
    | preDeparture => rfl
    | inService =>
      apply vouches.lower
      simp
    | completed => trivial
  | held =>
    simp only [state, LegacyTripState.settled]
    exact vouches
  | atOrigin someStop usable | service someStop usable
  | passive someStop usable =>
    rw [stale, Bool.or_true] at usable
    cases usable

end

/-- The history vouches for what the engine carries from a node. -/
def LiveBus.Vouched (known : List Nat) (data : LiveBus R) : Prop :=
  Vouches known data.progress.tripState data.progress.currentStopIndex

def EngineEvent.old (event : EngineEvent R) : Prop :=
  event.offlineReplay = true →
    ∀ progress, (event.sample.toInput event.stops progress).staleFix = true

/-- What the engine derives from a snapshot that the history vouches for. -/
structure ReadOfVouched (known : List Nat) (update : EngineUpdate R) :
    Prop where
  committable : Committable known update.event.stops.length
    update.progress.tripState update.progress.currentStopIndex
  same : update.tripState = update.progress.tripState
  replayed : update.event.offlineReplay = true → update.event.old →
    Vouches known update.progress.tripState update.progress.currentStopIndex

theorem readOfVouched {config : RideConfig R} {event : EngineEvent R}
    {data : LiveBus R} {update : EngineUpdate R}
    (read : processLiveSnapshot config event data = some update)
    (vouched : data.Vouched known) : ReadOfVouched known update := by
  have reduced := processLiveSnapshot_eq_some read
  have running : data.progress.tripState ≠ .completed := by
    intro completed
    apply reduced.running
    cases carried : data.tripState with
    | none => simp [LiveBus.progress, carried] at completed
    | some tripState => simpa [LiveBus.progress, carried] using completed
  have same : update.tripState = update.progress.tripState := by
    unfold processLiveSnapshot at read
    split at read
    · cases read
    · split at read
      · cases read
      · split at read
        · cases read
          rfl
        · obtain ⟨tripState, carried, rfl⟩ := Option.map_eq_some_iff.mp read
          simp [LiveBus.progress, carried]
  have sameEvent := reduced.sameEvent
  cases fresh : event.isNewTelemetry with
  | true =>
    have progress := reduced.progress
    rw [fresh, if_pos rfl] at progress
    refine ⟨?_, same, ?_⟩
    · rw [progress, sameEvent]
      exact committable_of_reduced _ rfl running vouched
    · intro replayed old
      rw [progress, sameEvent] at *
      exact vouches_of_stale _ rfl vouched (old replayed _)
  | false =>
    have progress := reduced.progress
    rw [fresh, if_neg Bool.false_ne_true] at progress
    refine ⟨?_, same, ?_⟩
    · rw [progress]
      exact Vouches.committable vouched running
    · intro replayed old
      rw [progress]
      exact vouched

section Checkpoint

variable {update : EngineUpdate R} {durable : Option (ActiveRide R)}
  {known : List Nat}

theorem checkpoint_allowed {allowed : TripState → Int → Prop}
    (atOrigin : ∀ index, allowed .preDeparture index ↔ index = 0)
    (raised : ∀ index, allowed .inService index →
      allowed .inService (max index 0))
    (running : update.progress.tripState ≠ .completed)
    (reduced : allowed update.progress.tripState
      update.progress.currentStopIndex)
    (stored : ∀ ride, durable = some ride →
      update.data.sessionId = some ride.sessionId →
      (ride.tripState = .preDeparture ∧
          durableIndex update.event.stops ride = 0) ∨
        (ride.tripState = .inService ∧
          allowed .inService (durableIndex update.event.stops ride))) :
    allowed (update.checkpoint durable).tripState
        (update.checkpoint durable).currentStopIndex ∧
      (update.checkpoint durable).tripState ≠ .completed := by
  have alone : allowed update.progress.tripState
      (max update.progress.currentStopIndex 0) := by
    cases state : update.progress.tripState with
    | preDeparture =>
      rw [state, atOrigin] at reduced
      rw [atOrigin, reduced]
      rfl
    | inService =>
      rw [state] at reduced
      exact raised _ reduced
    | completed => exact absurd state running
  unfold EngineUpdate.checkpoint
  simp only
  split
  · exact ⟨alone, running⟩
  · rename_i ride own
    obtain ⟨present, mine⟩ := Option.filter_eq_some_iff.mp own
    rcases stored ride present (by simpa using mine) with
      ⟨before, zero⟩ | ⟨serving, kept⟩
    · simp only [before, zero]
      exact ⟨alone, running⟩
    · simp only [serving]
      refine ⟨?_, by simp⟩
      show allowed .inService _
      have least := durableIndex_nonneg update.event.stops ride
      cases state : update.progress.tripState with
      | preDeparture =>
        rw [state, atOrigin] at reduced
        rw [reduced, max_eq_right least]
        exact kept
      | inService =>
        rw [state] at reduced
        rcases max_choice update.progress.currentStopIndex
            (durableIndex update.event.stops ride) with first | second
        · rw [first]
          exact reduced
        · rw [second]
          exact kept
      | completed => exact absurd state running

omit [JsNumber R] in
theorem durableIndex_cases (stops : List (TripRouteStop R))
    (ride : ActiveRide R) :
    (durableIndex stops ride = ride.currentStopIndex ∧
        0 ≤ ride.currentStopIndex ∧
        ride.currentStopIndex < stops.length) ∨
      durableIndex stops ride = 0 := by
  unfold durableIndex
  split
  · rename_i inside
    exact .inl ⟨rfl, inside⟩
  · exact .inr rfl

omit [JsNumber R] in
/-- The history vouches for the stored progress as the update counts it. -/
theorem vouches_durableIndex {ride : ActiveRide R}
    (stops : List (TripRouteStop R))
    (vouches : Vouches known ride.tripState ride.currentStopIndex)
    (running : ride.tripState ≠ .completed) :
    (ride.tripState = .preDeparture ∧ durableIndex stops ride = 0) ∨
      (ride.tripState = .inService ∧
        Vouches known .inService (durableIndex stops ride)) := by
  cases state : ride.tripState with
  | preDeparture =>
    rw [state] at vouches
    have first : ride.currentStopIndex = 0 := vouches
    rcases durableIndex_cases stops ride with ⟨same, -⟩ | zero
    · exact .inl ⟨rfl, same.trans first⟩
    · exact .inl ⟨rfl, zero⟩
  | inService =>
    rw [state] at vouches
    right
    rcases durableIndex_cases stops ride with ⟨same, -⟩ | zero
    · exact ⟨rfl, same ▸ vouches⟩
    · exact ⟨rfl, vouches.lower (by simp [zero])⟩
  | completed => exact absurd state running

theorem committable_checkpoint
    (running : update.progress.tripState ≠ .completed)
    (committable : Committable known update.event.stops.length
      update.progress.tripState update.progress.currentStopIndex)
    (stored : ∀ ride, durable = some ride →
      update.data.sessionId = some ride.sessionId →
      Vouches known ride.tripState ride.currentStopIndex ∧
        ride.tripState ≠ .completed) :
    Committable known update.event.stops.length
        (update.checkpoint durable).tripState
        (update.checkpoint durable).currentStopIndex ∧
      (update.checkpoint durable).tripState ≠ .completed := by
  apply checkpoint_allowed _ _ running committable
  · intro ride present own
    obtain ⟨vouches, notEnded⟩ := stored ride present own
    rcases vouches_durableIndex update.event.stops vouches notEnded with
      before | ⟨serving, kept⟩
    · exact .inl before
    · exact .inr ⟨serving, .inr kept⟩
  · intro index
    rfl
  · rintro index (onRoute | vouches)
    · exact .inl (by omega)
    · exact .inr (vouches.lower (by omega))

end Checkpoint

theorem vouches_of_committed {stops : List Stop} {currentStopIndex : Int}
    {existing : List (StopReached Stop)} {previousStopIndex : Option Int}
    {skippedStopIndices unobservedStopIndices : List Nat}
    (committable : Committable (historyStops existing) stops.length tripState
      currentStopIndex) (left : tripState ≠ .preDeparture) :
    ∀ stop ≤ lastReached tripState currentStopIndex,
      stop ∈ historyStops (existing ++ missingStopHistory stops tripState
        currentStopIndex existing previousStopIndex skippedStopIndices
        unobservedStopIndices) := by
  have added : 0 ≤ currentStopIndex ∧ currentStopIndex < stops.length →
      ∀ stop ≤ lastReached tripState currentStopIndex,
        stop ∈ historyStops (existing ++ missingStopHistory stops tripState
          currentStopIndex existing previousStopIndex skippedStopIndices
          unobservedStopIndices) := by
    intro onRoute stop reached
    rw [historyStops_append, List.mem_append, historyStops_missing onRoute left]
    by_cases known : stop ∈ historyStops existing
    · exact .inl known
    · right
      refine List.mem_filter.mpr ⟨List.mem_range.mpr (by omega), ?_⟩
      rw [Bool.not_eq_true', ← Bool.not_eq_true, any_stopIndex_iff]
      exact known
  cases tripState with
  | preDeparture => exact absurd rfl left
  | inService =>
    rcases committable with onRoute | vouches
    · exact added onRoute
    · intro stop reached
      rw [historyStops_append]
      exact List.mem_append_left _ (vouches stop reached)
  | completed => exact added committable

end Eki
