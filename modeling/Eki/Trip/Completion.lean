import Eki.Trip.Progress

/-!
# Completion needs corroborated terminal evidence

The carried evidence is a pair of times.  `EvidenceTrail` is what the pair
stands for: an unbroken range of updates that each qualified as an arrival at
the terminal.  Every update either drops the pair, starts it or extends it, so
the trail holds of every run, and completion reads it.
-/

namespace Eki

variable {R : Type} [JsNumber R]

structure QualifiesAsArrival (input : TripStateInput R) : Prop where
  reliable : input.unreliable = false
  notStale : input.staleFix = false
  departed : input.departedOrigin = true
  inCorridor : haversineMeters input.position
    (stopAt input.stops (input.stops.length - 1)) ≤ stopGeofenceM
  stopped : input.motionState = .stopped
  slow : ∃ speed, input.speed = some speed ∧ speed ≥ 0 ∧
    speed ≤ gnssStationarySpeedKmh
  accurate : ∃ hdop, input.gpsHdop = some hdop ∧
    JsNumber.isFinite hdop = true ∧ hdop ≥ 0 ∧ hdop ≤ gnssHdopMax
  timed : ∃ timestamp, input.timestamp = some timestamp ∧
    JsNumber.isSafeInteger timestamp = true

def TripStateInput.sampledAt (input : TripStateInput R) : R :=
  input.timestamp.getD 0

variable {input : TripStateInput R}

theorem qualifiesAsArrival_of_reliableArrival {leaving : Bool}
    (usable : (input.unreliable || input.staleFix) = false)
    (arrival : (input.serviceScope leaving).reliableArrival = true) :
    QualifiesAsArrival input := by
  simp only [Bool.or_eq_false_iff] at usable
  unfold ServiceScope.reliableArrival at arrival
  simp only [Bool.and_eq_true, decide_eq_true_eq, beq_iff_eq] at arrival
  obtain ⟨⟨⟨⟨⟨departed, stopped⟩, accurate⟩, slow⟩, timed⟩, near⟩ := arrival
  refine ⟨usable.1, usable.2, departed, near, stopped, ?_, ?_, ?_⟩
  · obtain ⟨speed, present, bounds⟩ := (Option.any_eq_true _ _).mp slow
    simp only [Bool.and_eq_true, decide_eq_true_eq] at bounds
    exact ⟨speed, present, bounds⟩
  · obtain ⟨hdop, present, bounds⟩ := (Option.any_eq_true _ _).mp accurate
    simp only [Bool.and_eq_true, decide_eq_true_eq] at bounds
    exact ⟨hdop, present, bounds.1.1, bounds.1.2, bounds.2⟩
  · obtain ⟨timestamp, present, safe⟩ := (Option.any_eq_true _ _).mp timed
    exact ⟨timestamp, present, safe⟩

variable {configured : R} {result : TripStateResult R}

theorem evidence_of_update (update : Update configured input result)
    {evidence : TerminalArrivalEvidence R}
    (present : result.terminalArrival = some evidence) :
    QualifiesAsArrival input ∧
      ∃ timestamp, ServiceScope.EvidenceStep input evidence timestamp := by
  cases update with
  | noStops | held | atOrigin | passive => cases present
  | service _ usable leaving state outcome =>
    obtain ⟨arrival, step⟩ := outcome.evidence evidence present
    exact ⟨qualifiesAsArrival_of_reliableArrival usable arrival, step⟩

/-- A ride becomes completed only by a qualifying input that confirms the
evidence that it carries. -/
theorem confirmation_of_update (update : Update configured input result)
    (before : input.currentTripState ≠ .trip .completed)
    (completed : result.tripState = .completed) :
    QualifiesAsArrival input ∧ ∃ prior timestamp,
      ServiceScope.Confirmation configured input prior timestamp := by
  have unsettled : input.currentTripState.settled ≠ .completed := by
    cases state : input.currentTripState with
    | maintenance => simp [LegacyTripState.settled]
    | trip current =>
      intro settled
      exact before (by rw [state, ← settled]; rfl)
  cases update with
  | noStops | held | passive => exact absurd completed unsettled
  | atOrigin => split at completed <;> cases completed
  | service _ usable leaving state outcome =>
    obtain ⟨arrival, confirmation⟩ := outcome.completed completed
    exact ⟨qualifiesAsArrival_of_reliableArrival usable arrival, confirmation⟩

namespace TripRun

variable (run : TripRun R)

/-- Updates from `first` up to, and without, `next` all qualified as arrivals,
in time order and without a long pause. -/
structure Arrivals (first next : Nat) : Prop where
  qualifies : ∀ i, first ≤ i → i < next → QualifiesAsArrival (run.input i)
  ordered : ∀ i, first ≤ i → i + 1 < next →
    (run.input i).sampledAt ≤ (run.input (i + 1)).sampledAt
  recent : ∀ i, first ≤ i → i + 1 < next →
    (run.input (i + 1)).sampledAt - (run.input i).sampledAt ≤
      maxTerminalEvidenceGapMs

/-- The evidence carried before update `next` times the first and the last of
an unbroken range of arrivals that ends there. -/
structure EvidenceTrail (next : Nat) (evidence : TerminalArrivalEvidence R)
    (first : Nat) : Prop where
  earlier : first < next
  arrivals : run.Arrivals first next
  startedAt : evidence.startedAt = (run.input first).sampledAt
  lastSampledAt : evidence.lastSampledAt = (run.input (next - 1)).sampledAt

variable {run}

theorem Arrivals.snoc {first next : Nat} (nonempty : first < next)
    (arrivals : run.Arrivals first next)
    (qualifies : QualifiesAsArrival (run.input next))
    (ordered : (run.input (next - 1)).sampledAt ≤ (run.input next).sampledAt)
    (recent : (run.input next).sampledAt - (run.input (next - 1)).sampledAt ≤
      maxTerminalEvidenceGapMs) :
    run.Arrivals first (next + 1) := by
  constructor
  · intro i above below
    rcases Nat.lt_succ_iff_lt_or_eq.mp below with earlier | rfl
    · exact arrivals.qualifies i above earlier
    · exact qualifies
  · intro i above below
    rcases Nat.lt_succ_iff_lt_or_eq.mp below with earlier | rfl
    · exact arrivals.ordered i above earlier
    · exact ordered
  · intro i above below
    rcases Nat.lt_succ_iff_lt_or_eq.mp below with earlier | rfl
    · exact arrivals.recent i above earlier
    · exact recent

theorem Arrivals.single {n : Nat}
    (qualifies : QualifiesAsArrival (run.input n)) :
    run.Arrivals n (n + 1) := by
  constructor
  · intro i above below
    rwa [show i = n by omega]
  · intro i above below
    omega
  · intro i above below
    omega

theorem evidenceTrail (absent : run.start.terminalArrival = none) :
    ∀ (n : Nat) (evidence : TerminalArrivalEvidence R),
      (run.progress n).terminalArrival = some evidence →
      ∃ first, run.EvidenceTrail n evidence first := by
  intro n
  induction n with
  | zero =>
    intro evidence present
    have carried : run.start.terminalArrival = some evidence := present
    rw [absent] at carried
    cases carried
  | succ n induction =>
    intro evidence present
    obtain ⟨qualifies, timestamp, step⟩ :=
      evidence_of_update (run.result_update n) present
    have sampledAt : (run.input n).sampledAt = timestamp := by
      simp [TripStateInput.sampledAt, step.sampledAt]
    have last : evidence.lastSampledAt =
        (run.input (n + 1 - 1)).sampledAt := by
      rw [step.last, ← sampledAt]
      rfl
    rcases step.start with fresh | ⟨prior, carried, same, ordered, recent⟩
    · exact ⟨n, by omega, .single qualifies, by rw [fresh, sampledAt], last⟩
    · obtain ⟨first, trail⟩ := induction prior carried
      rw [trail.lastSampledAt, ← sampledAt] at ordered recent
      exact ⟨first, by have := trail.earlier; omega,
        trail.arrivals.snoc trail.earlier qualifies ordered recent,
        by rw [same, trail.startedAt], last⟩

/-- **Completion needs corroborated terminal evidence.**  When update `n`
completes the ride, an unbroken range of arrivals from an earlier update to `n`
spans the confirmation time, and the last one is strictly later than the one
before it. -/
theorem completion_is_corroborated (run : TripRun R)
    (absent : run.start.terminalArrival = none) (n : Nat)
    (before : (run.progress n).tripState ≠ .completed)
    (completed : (run.progress (n + 1)).tripState = .completed) :
    ∃ m, m < n ∧ run.Arrivals m (n + 1) ∧
      (run.input (n - 1)).sampledAt < (run.input n).sampledAt ∧
      (run.input n).sampledAt - (run.input m).sampledAt ≥
        terminalArrivalConfirmationMs run.configuredConfirmationMs := by
  obtain ⟨qualifies, prior, timestamp, confirmation⟩ :=
    confirmation_of_update (run.result_update n)
      (fun ended => before (LegacyTripState.trip.inj ended)) completed
  have sampledAt : (run.input n).sampledAt = timestamp := by
    simp [TripStateInput.sampledAt, confirmation.sampledAt]
  obtain ⟨first, trail⟩ := evidenceTrail absent n prior confirmation.carried
  have inOrder := confirmation.inOrder
  have later := confirmation.later
  have recent := confirmation.recent
  have confirmed := confirmation.confirmed
  rw [trail.lastSampledAt, ← sampledAt] at inOrder later recent
  rw [trail.startedAt, ← sampledAt] at confirmed
  exact ⟨first, trail.earlier,
    trail.arrivals.snoc trail.earlier qualifies inOrder recent, later,
    confirmed⟩

/-- A bus that stands at the terminal of a two-stop route for three seconds. -/
def standingAtTerminal : TripRun ℚ :=
  { configuredConfirmationMs := 2000
    stops := [{ lat := 0, lng := 0 }, { lat := 0, lng := 1 / 100 }]
    start :=
      { tripState := .inService
        currentStopIndex := 1
        hasDepartedOrigin := true
        terminalArrival := none
        gnssGapSince := none }
    samples := fun n =>
      { lat := 0
        lng := 1 / 100
        previousPosition := none
        motionState := .stopped
        timestamp := some (3000 * n)
        now := none
        gpsHdop := some 1
        speed := some 0
        heading := none
        assumedGapSince := none } }

theorem completion_is_corroborated_standing :
    ∃ m, m < 1 ∧ standingAtTerminal.Arrivals m 2 ∧
      (standingAtTerminal.input 0).sampledAt <
        (standingAtTerminal.input 1).sampledAt ∧
      (standingAtTerminal.input 1).sampledAt -
          (standingAtTerminal.input m).sampledAt ≥
        terminalArrivalConfirmationMs (2000 : ℚ) :=
  completion_is_corroborated standingAtTerminal rfl 1 (by decide +kernel)
    (by decide +kernel)

end TripRun

end Eki
