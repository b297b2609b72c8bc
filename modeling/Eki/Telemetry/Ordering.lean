import Mathlib.Data.Prod.Lex
import Eki.Telemetry.LivePosition

/-!
# The order of telemetry

A node stores its fixes in the order of their times and sequence numbers, and
a delivery that is not above the stored fix is a duplicate.  The time is the
capture time of the device, or the server's where the device is ahead of it:
such a sample is above its own stored fix once the server's clock has moved on.
-/

namespace Eki

open Transition

variable {R : Type} [JsNumber R]

/-- A raw sample at the endpoint, and the server's clock when it is parsed. -/
structure RawDelivery (R : Type) where
  assignment : DeviceAssignment
  record : TelemetryRecord R
  now : Int
  backendReceivedAt : Int

namespace RawDelivery

def seq (delivery : RawDelivery R) : Int :=
  delivery.record.schema.seq.getD 1

/-- What makes it the same raw sample: its capture time and sequence. -/
def identity (delivery : RawDelivery R) : Int × Int :=
  (delivery.record.timestamp, delivery.seq)

/-- Its place in the order of the node. -/
def order (delivery : RawDelivery R) : Int ×ₗ Int :=
  toLex (min delivery.record.timestamp delivery.now, delivery.seq)

end RawDelivery

namespace TelemetryPayload

def capture (sample : TelemetryPayload R) : Int :=
  sample.deviceTimestamp.getD sample.timestamp

def identity (sample : TelemetryPayload R) : Int × Int :=
  (sample.capture, sample.seq)

def order (sample : TelemetryPayload R) : Int ×ₗ Int :=
  toLex (sample.timestamp, sample.seq)

/-- The device was ahead of the server. -/
def Clamped (sample : TelemetryPayload R) : Prop :=
  sample.deviceTimestamp ≠ none

end TelemetryPayload

def ingest : System (PresenceRun R) (RawDelivery R) := fun run delivery =>
  match parseTelemetryValue delivery.record delivery.now with
  | .error _ => some run
  | .ok sample => run.step
      { assignment := delivery.assignment
        sample := sample
        backendReceivedAt := delivery.backendReceivedAt }

structure Parsed (delivery : RawDelivery R) (sample : TelemetryPayload R) :
    Prop where
  identity : sample.identity = delivery.identity
  order : sample.order = delivery.order
  safe : isSafeInteger sample.seq = true
  clamped : sample.timestamp ≤ sample.capture

variable {delivery : RawDelivery R} {sample : TelemetryPayload R}

theorem parsed
    (parse : parseTelemetryValue delivery.record delivery.now = .ok sample) :
    Parsed delivery sample := by
  unfold parseTelemetryValue at parse
  iterate 5 (split at parse; · cases parse)
  split at parse
  · cases parse
  · rename_i sequenced
    iterate 2 (split at parse; · cases parse)
    cases parse
    have safe : isSafeInteger delivery.seq = true := by
      unfold RawDelivery.seq
      cases known : delivery.record.schema.seq with
      | none => decide
      | some seq =>
        simp only [known, Option.any_some, Bool.or_eq_true, not_or,
          Bool.not_eq_true', Bool.not_eq_false] at sequenced
        exact sequenced.1.1
    have capture : (if delivery.record.timestamp >
          min delivery.record.timestamp delivery.now then
          some delivery.record.timestamp else none).getD
            (min delivery.record.timestamp delivery.now) =
        delivery.record.timestamp := by
      split
      · rfl
      · simp only [Option.getD_none]
        omega
    constructor
    · simp only [TelemetryPayload.identity, TelemetryPayload.capture, capture]
      rfl
    · rfl
    · exact safe
    · simp only [TelemetryPayload.capture, capture]
      omega

omit [JsNumber R] in
theorem lt_of_isNewer {timestamp sequence : Int} {deviceTimestamp : Option Int}
    (newer : telemetrySampleIsNewer (some timestamp) (some sequence) sample
      deviceTimestamp = true) :
    toLex (timestamp, sequence) < sample.order := by
  unfold telemetrySampleIsNewer at newer
  simp only [Option.any_some] at newer
  split at newer
  · cases newer
  · rw [TelemetryPayload.order, Prod.Lex.toLex_lt_toLex]
    split at newer
    · exact .inl (of_decide_eq_true newer)
    · rename_i same
      simp only [ne_eq, not_not] at same
      simp only [Bool.and_eq_true, decide_eq_true_eq] at newer
      exact .inr ⟨same.symm, newer.2⟩

omit [JsNumber R] in
/-- Under a whole sequence number, a sample is newer exactly when it is above
the stored fix and does not precede it in both capture and sequence. -/
theorem isNewer_iff {last : TelemetryPayload R}
    (safe : isSafeInteger last.seq = true) :
    telemetrySampleIsNewer (some last.timestamp) (some last.seq) sample
        last.deviceTimestamp = true ↔
      last.order < sample.order ∧
        ¬ (sample.seq < last.seq ∧ sample.capture < last.capture) := by
  constructor
  · intro newer
    refine ⟨lt_of_isNewer newer, ?_⟩
    intro late
    unfold telemetrySampleIsNewer at newer
    simp only [Option.any_some, safe, Bool.true_and, Bool.and_eq_true,
      decide_eq_true_eq] at newer
    rw [TelemetryPayload.capture, TelemetryPayload.capture] at late
    rw [if_pos late] at newer
    cases newer
  · rintro ⟨above, early⟩
    rw [TelemetryPayload.order, TelemetryPayload.order,
      Prod.Lex.toLex_lt_toLex] at above
    unfold telemetrySampleIsNewer
    simp only [Option.any_some, safe, Bool.true_and, Bool.and_eq_true,
      decide_eq_true_eq]
    rw [TelemetryPayload.capture, TelemetryPayload.capture] at early
    rw [if_neg early]
    split
    · rename_i other
      rcases above with after | ⟨same, -⟩
      · exact decide_eq_true after
      · exact absurd same.symm other
    · rename_i same
      simp only [ne_eq, not_not] at same
      rcases above with after | ⟨-, after⟩
      · exact absurd same after.ne'
      · exact decide_eq_true after

/-- The node stores the sample committed last, and every committed sample was
parsed. -/
structure Recorded (run : PresenceRun R) : Prop where
  timestamp : run.node.bind (·.timestamp) =
    run.committed.head?.map (·.timestamp)
  seq : run.node.bind (·.seq) = run.committed.head?.map (·.seq)
  deviceTimestamp : run.node.bind (·.deviceTimestamp) =
    run.committed.head?.bind (·.deviceTimestamp)
  retired : run.node.bind (·.retiredAssignmentRevision) = none
  safe : ∀ fix ∈ run.committed, isSafeInteger fix.seq = true
  clamped : ∀ fix ∈ run.committed, fix.timestamp ≤ fix.capture

/-- A later fix was never stored below an earlier one, and no raw sample was
stored twice. -/
structure InOrderOnce (run : PresenceRun R) : Prop where
  stored : run.node.bind (·.timestamp) =
      run.committed.head?.map (·.timestamp) ∧
    run.node.bind (·.seq) = run.committed.head?.map (·.seq)
  increasing : run.committed.Pairwise fun later earlier =>
    earlier.order < later.order
  once : (run.committed.map TelemetryPayload.identity).Nodup

def RepeatsClamped (run : PresenceRun R) (delivery : RawDelivery R) : Prop :=
  ∃ earlier ∈ run.committed,
    earlier.identity = delivery.identity ∧ earlier.Clamped

/-- The delivery is not above the fix committed last, or precedes it in both
capture and sequence. -/
def BehindLast (run : PresenceRun R) (delivery : RawDelivery R) : Prop :=
  ∀ last ∈ run.committed.head?,
    delivery.order ≤ last.order ∨
      (delivery.seq < last.seq ∧ delivery.record.timestamp < last.capture)

instance (run : PresenceRun R) (delivery : RawDelivery R) :
    Decidable (BehindLast run delivery) :=
  inferInstanceAs (Decidable (∀ last ∈ run.committed.head?,
    delivery.order ≤ last.order ∨
      (delivery.seq < last.seq ∧ delivery.record.timestamp < last.capture)))

/-- A clamped sample is repeated only while it stays behind. -/
def RepeatsBehind (run : PresenceRun R) (delivery : RawDelivery R) : Prop :=
  RepeatsClamped run delivery → BehindLast run delivery

variable {run next : PresenceRun R}

theorem ingest_eq_some (taken : ingest run delivery = some next) :
    next = run ∨ ∃ sample, Parsed delivery sample ∧
      retiredSample run.node delivery.assignment = false ∧
      telemetrySampleIsNewer (run.node.bind (·.timestamp))
        (run.node.bind (·.seq)) sample
        (run.node.bind (·.deviceTimestamp)) = true ∧
      next = {
        node := some (telemetryPresence run.node delivery.assignment sample
          delivery.backendReceivedAt)
        committed := sample :: run.committed } := by
  unfold ingest at taken
  split at taken
  · exact .inl (Option.some.inj taken).symm
  · rename_i sample parse
    unfold PresenceRun.step at taken
    split at taken
    · exact .inl (Option.some.inj taken).symm
    · rename_i presence accepted
      obtain ⟨unretired, newer, rfl⟩ := nextTelemetryValue_eq_some.mp accepted
      exact .inr ⟨sample, parsed parse, unretired, newer,
        (Option.some.inj taken).symm⟩

theorem acceptedSample_order (current : Option (DevicePresence R))
    (sample : TelemetryPayload R) :
    (acceptedSample current sample).timestamp = sample.timestamp ∧
      (acceptedSample current sample).seq = sample.seq ∧
      (acceptedSample current sample).deviceTimestamp =
        sample.deviceTimestamp := by
  unfold acceptedSample
  split
  · exact ⟨rfl, rfl, rfl⟩
  · split
    · exact ⟨rfl, rfl, rfl⟩
    · exact ⟨rfl, rfl, rfl⟩

theorem recorded_step (recorded : Recorded run)
    (taken : ingest run delivery = some next) : Recorded next := by
  rcases ingest_eq_some taken with rfl | ⟨sample, parsed, -, -, rfl⟩
  · exact recorded
  · obtain ⟨timestamp, seq, deviceTimestamp⟩ :=
      acceptedSample_order run.node sample
    constructor
    · simp [telemetryPresence, timestamp]
    · simp [telemetryPresence, seq]
    · simp [telemetryPresence, deviceTimestamp]
    · rfl
    · intro fix member
      rcases List.mem_cons.mp member with rfl | earlier
      · exact parsed.safe
      · exact recorded.safe fix earlier
    · intro fix member
      rcases List.mem_cons.mp member with rfl | earlier
      · exact parsed.clamped
      · exact recorded.clamped fix earlier

omit [JsNumber R] in
theorem above_of_isNewer (recorded : Recorded run)
    (increasing : run.committed.Pairwise fun later earlier =>
      earlier.order < later.order)
    (newer : telemetrySampleIsNewer (run.node.bind (·.timestamp))
      (run.node.bind (·.seq)) sample
      (run.node.bind (·.deviceTimestamp)) = true) :
    ∀ earlier ∈ run.committed, earlier.order < sample.order := by
  intro earlier member
  rw [recorded.timestamp, recorded.seq, recorded.deviceTimestamp] at newer
  cases known : run.committed with
  | nil =>
    rw [known] at member
    cases member
  | cons last rest =>
    rw [known] at member newer increasing
    have above : last.order < sample.order := lt_of_isNewer newer
    rcases List.mem_cons.mp member with rfl | before
    · exact above
    · exact (List.rel_of_pairwise_cons increasing before).trans above

omit [JsNumber R] in
theorem fresh_of_isNewer (recorded : Recorded run)
    (parsed : Parsed delivery sample) (behind : RepeatsBehind run delivery)
    (above : ∀ earlier ∈ run.committed, earlier.order < sample.order)
    (newer : telemetrySampleIsNewer (run.node.bind (·.timestamp))
      (run.node.bind (·.seq)) sample
      (run.node.bind (·.deviceTimestamp)) = true) :
    sample.identity ∉ run.committed.map TelemetryPayload.identity := by
  intro repeated
  obtain ⟨earlier, member, same⟩ := List.mem_map.mp repeated
  cases clamped : earlier.deviceTimestamp with
  | none =>
    -- An unclamped sample was stored under its capture time, and no later
    -- delivery of it can be stored under a greater one.
    have below := above earlier member
    have bounded := parsed.clamped
    simp only [TelemetryPayload.identity, Prod.mk.injEq] at same
    simp only [TelemetryPayload.order, Prod.Lex.toLex_lt_toLex] at below
    have capture : earlier.timestamp = sample.capture := by
      rw [← same.1, TelemetryPayload.capture, clamped, Option.getD_none]
    omega
  | some deviceTimestamp =>
    have repeats : RepeatsClamped run delivery :=
      ⟨earlier, member, same.trans parsed.identity, by
        simp [TelemetryPayload.Clamped, clamped]⟩
    rw [recorded.timestamp, recorded.seq, recorded.deviceTimestamp] at newer
    cases known : run.committed with
    | nil =>
      rw [known] at member
      cases member
    | cons last rest =>
      have safe := recorded.safe last (by simp [known])
      rw [known] at newer
      obtain ⟨ahead, notLate⟩ := (isNewer_iff safe).mp newer
      have identity := parsed.identity
      simp only [TelemetryPayload.identity, RawDelivery.identity,
        Prod.mk.injEq] at identity
      rcases behind repeats last (by simp [known]) with below | late
      · rw [← parsed.order] at below
        exact absurd ahead (not_lt.mpr below)
      · rw [← identity.1, ← identity.2] at late
        exact notLate late

theorem inOrderOnce_step (recorded : Recorded run) (ordered : InOrderOnce run)
    (behind : RepeatsBehind run delivery)
    (taken : ingest run delivery = some next) : InOrderOnce next := by
  have after : Recorded next := recorded_step recorded taken
  rcases ingest_eq_some taken with rfl | ⟨sample, parsed, -, newer, rfl⟩
  · exact ordered
  · have above := above_of_isNewer recorded ordered.increasing newer
    constructor
    · exact ⟨after.timestamp, after.seq⟩
    · exact List.pairwise_cons.mpr ⟨above, ordered.increasing⟩
    · have fresh := fresh_of_isNewer recorded parsed behind above newer
      exact List.nodup_cons.mpr ⟨fresh, ordered.once⟩

omit [JsNumber R] in
theorem recorded_empty :
    Recorded { node := none, committed := ([] : List (TelemetryPayload R)) }
    where
  timestamp := rfl
  seq := rfl
  deviceTimestamp := rfl
  retired := rfl
  safe := by simp
  clamped := by simp

/-- Telemetry commits in order, and once where clamped samples are repeated
only while they stay behind. -/
theorem telemetry_commits_once {run : PresenceRun R}
    (steps : System.Steps ingest RepeatsBehind ⟨none, []⟩ run) :
    InOrderOnce run := by
  have both : Recorded run ∧ InOrderOnce run := by
    apply steps.invariant
    · exact ⟨recorded_empty, ⟨rfl, rfl⟩, .nil, .nil⟩
    · intro before delivery after holds behind taken
      exact ⟨recorded_step holds.1 taken,
        inOrderOnce_step holds.1 holds.2 behind taken⟩
  exact both.2

theorem committed_again
    (steps : System.Steps ingest (fun _ _ => True) ⟨none, []⟩ run)
    (parse : parseTelemetryValue delivery.record delivery.now = .ok sample)
    (repeats : RepeatsClamped run delivery)
    (ahead : ¬ BehindLast run delivery) :
    ∃ next, ingest run delivery = some next ∧ ¬ InOrderOnce next := by
  have recorded : Recorded run := by
    apply steps.invariant recorded_empty
    intro before other after recorded _ taken
    exact recorded_step recorded taken
  have parsed : Parsed delivery sample := parsed parse
  have identity := parsed.identity
  simp only [TelemetryPayload.identity, RawDelivery.identity,
    Prod.mk.injEq] at identity
  unfold BehindLast at ahead
  push Not at ahead
  obtain ⟨last, member, above, early⟩ := ahead
  have newer : telemetrySampleIsNewer (run.node.bind (·.timestamp))
      (run.node.bind (·.seq)) sample
      (run.node.bind (·.deviceTimestamp)) = true := by
    rw [recorded.timestamp, recorded.seq, recorded.deviceTimestamp,
      Option.mem_def.mp member]
    have safe := recorded.safe last (List.mem_of_mem_head? member)
    apply (isNewer_iff safe).mpr
    rw [parsed.order, identity.1, identity.2]
    exact ⟨above, fun late => absurd late.2 (not_lt.mpr (early late.1))⟩
  have unretired : retiredSample run.node delivery.assignment = false := by
    have none := recorded.retired
    cases known : run.node with
    | none => rfl
    | some presence =>
      rw [known, Option.bind_some] at none
      simp [retiredSample, none]
  refine ⟨{
      node := some (telemetryPresence run.node delivery.assignment sample
        delivery.backendReceivedAt)
      committed := sample :: run.committed }, ?_, ?_⟩
  · unfold ingest PresenceRun.step
    simp only [parse]
    rw [nextTelemetryValue_eq_some.mpr ⟨unretired, newer, rfl⟩]
  · intro ordered
    obtain ⟨earlier, before, same, -⟩ := repeats
    have fresh := (List.nodup_cons.mp ordered.once).1
    exact fresh (List.mem_map.mpr ⟨earlier, before,
      same.trans parsed.identity.symm⟩)

/-- A standstill captured two seconds ahead of the server's first clock. -/
def aheadRecord : TelemetryRecord ℚ where
  lat := 0
  lng := 0
  speed := 0
  heading := 0
  motionState := .stopped
  timestamp := 3000
  schema := .sequenced 1 1 3000

def aheadDelivery (now : Int) : RawDelivery ℚ where
  assignment := equatorAssignment
  record := aheadRecord
  now := now
  backendReceivedAt := now

theorem telemetry_commits_once_ahead :
    ∃ run : PresenceRun ℚ, run.committed.length = 1 ∧ InOrderOnce run := by
  have repeated : (System.run ingest
      (fun run delivery => decide (BehindLast run delivery)) ⟨none, []⟩
      [aheadDelivery 1000, aheadDelivery 1000]).any (fun run =>
        decide (run.committed.length = 1)) = true := by
    decide +kernel
  obtain ⟨run, steps, one⟩ := System.exists_of_run repeated
  refine ⟨run, of_decide_eq_true one, telemetry_commits_once ?_⟩
  exact steps.mono fun _ _ checked _ => of_decide_eq_true checked

/-- Deliveries under a clock that does not go back commit once, in order. -/
def CommitsOnce : Prop :=
  ∀ deliveries : List (RawDelivery ℚ),
    deliveries.Pairwise (fun earlier later => earlier.now ≤ later.now) →
    ∀ run, System.run ingest (fun _ _ => true) ⟨none, []⟩ deliveries =
      some run → InOrderOnce run

/-- The same raw sample is committed a second later, then clamped to the later
clock. -/
theorem sample_committed_twice : ¬ CommitsOnce := by
  intro once
  have twice : ((System.run ingest (fun _ _ => true) ⟨none, []⟩
      [aheadDelivery 1000, aheadDelivery 2000]).any fun run =>
        decide (¬ (run.committed.map TelemetryPayload.identity).Nodup)) =
      true := by
    decide +kernel
  obtain ⟨run, ran, repeated⟩ := (Option.any_eq_true _ _).mp twice
  have ordered := once [aheadDelivery 1000, aheadDelivery 2000]
    (by decide) run ran
  exact of_decide_eq_true repeated ordered.once

end Eki
