import Eki.Library.Transition
import Eki.Telemetry.Presence

/-!
# The live position

A sample outside the reach of the trusted fix is held: the node goes on
publishing the trusted position.  Only a long silence, or three coherent fixes
that the trusted fix can each reach over the whole gap, move the position
further.  The evidence for the latter is a counter on the node; a run shows
which committed samples stand behind it.
-/

namespace Eki

open Transition

variable {R : Type} [JsNumber R]

structure ReachesOverGap (anchor : TelemetryMotionSample R)
    (fix : QualifiedMotionSample R) : Prop where
  usable : usableReacquisitionFix fix = true
  after : telemetryMaxTransitionGapMs < fix.timestamp - anchor.timestamp
  within : fix.timestamp - anchor.timestamp ≤ telemetryReacquireAfterMs
  reach : withinTravelEnvelope anchor fix.toTelemetryMotionSample
    (fix.timestamp - anchor.timestamp) = true

structure Follows (first second : QualifiedMotionSample R) : Prop where
  soonest : 500 ≤ second.timestamp - first.timestamp
  latest : second.timestamp - first.timestamp ≤ 5000
  fitting : isPlausibleTelemetryTransition
    (some first.toTelemetryMotionSample) second.toTelemetryMotionSample = true

/-- What an evaluation of coherent fixes can answer. -/
inductive Evaluated (anchor : TelemetryMotionSample R)
    (next : QualifiedMotionSample R) (raw : Option (QualifiedMotionSample R))
    (evidence : Option OutageReacquisitionEvidence) :
    OutageReacquisition → Prop where
  | refuse : Evaluated anchor next raw evidence { accepted := false }
  | first (reaches : ReachesOverGap anchor next) :
      Evaluated anchor next raw evidence
        { accepted := false, pending := some ⟨1, next.timestamp⟩ }
  | second (reaches : ReachesOverGap anchor next)
      {candidate : QualifiedMotionSample R}
      {pending : OutageReacquisitionEvidence}
      (last : raw = some candidate) (known : evidence = some pending)
      (one : pending.count = 1)
      (started : pending.startedAt = candidate.timestamp)
      (follows : Follows candidate next) :
      Evaluated anchor next raw evidence
        { accepted := false, pending := some ⟨2, pending.startedAt⟩ }
  | third (reaches : ReachesOverGap anchor next)
      {candidate : QualifiedMotionSample R}
      {pending : OutageReacquisitionEvidence}
      (last : raw = some candidate) (known : evidence = some pending)
      (two : pending.count = 2) (follows : Follows candidate next) :
      Evaluated anchor next raw evidence { accepted := true }

theorem evaluated (anchor : TelemetryMotionSample R)
    (next : QualifiedMotionSample R) (raw : Option (QualifiedMotionSample R))
    (evidence : Option OutageReacquisitionEvidence) :
    Evaluated anchor next raw evidence
      (evaluateOutageReacquisition (some anchor) next raw evidence) := by
  unfold evaluateOutageReacquisition
  simp only
  split
  · exact .refuse
  · rename_i qualified
    simp only [Bool.or_eq_true, Bool.not_eq_true', decide_eq_true_eq,
      not_or, Bool.not_eq_false, not_le, not_lt] at qualified
    obtain ⟨⟨⟨usable, after⟩, within⟩, reach⟩ := qualified
    have reaches : ReachesOverGap anchor next := ⟨usable, after, within, reach⟩
    split
    · rename_i candidate pending
      split
      · exact .first reaches
      · rename_i coherent
        simp only [Bool.or_eq_true, Bool.not_eq_true', decide_eq_true_eq,
          not_or, Bool.not_eq_false, not_lt, Bool.and_eq_true, not_and,
          bne_iff_ne, ne_eq, beq_iff_eq, not_not] at coherent
        obtain ⟨⟨⟨⟨⟨⟨⟨⟨⟨usableRaw, soonest⟩, latest⟩, fitting⟩, counted⟩,
          safe⟩, afterAnchor⟩, beforeRaw⟩, starts⟩, spaced⟩ := coherent
        have follows : Follows candidate next := ⟨soonest, latest, fitting⟩
        split
        · rename_i two
          simp only [beq_iff_eq] at two
          exact .third reaches rfl rfl two follows
        · rename_i notTwo
          simp only [beq_iff_eq] at notTwo
          have one : pending.count = 1 := by
            by_contra notOne
            exact notTwo (counted notOne)
          exact .second reaches rfl rfl one (starts one) follows
    · exact .first reaches

/-- The same fix, with at most its dilution filled in since. -/
def SameFix (earlier later : TelemetryMotionSample R) : Prop :=
  ∃ gpsHdop, (gpsHdop = none ∨ gpsHdop = later.gpsHdop) ∧
    earlier = { later with gpsHdop := gpsHdop }

omit [JsNumber R] in
theorem SameFix.trans {first second third : TelemetryMotionSample R}
    (front : SameFix first second) (back : SameFix second third) :
    SameFix first third := by
  obtain ⟨early, unknown, rfl⟩ := front
  obtain ⟨late, filled, rfl⟩ := back
  refine ⟨early, ?_, rfl⟩
  rcases unknown with none | same
  · exact .inl none
  · rw [show early = late from same]
    exact filled

/-- A committed fix that an anchor reaches over the whole gap; the dilution of
the anchor may have been filled in since. -/
def Supports (anchor : TelemetryMotionSample R) (fix : TelemetryPayload R) :
    Prop :=
  ∃ earlier, SameFix earlier anchor ∧
    ReachesOverGap earlier fix.toQualifiedMotionSample

variable {anchor : TelemetryMotionSample R}

omit [JsNumber R] in
theorem Supports.later [JsNumber R] {later : TelemetryMotionSample R}
    {fix : TelemetryPayload R} (supports : Supports anchor fix)
    (same : SameFix anchor later) : Supports later fix := by
  obtain ⟨earlier, before, reaches⟩ := supports
  exact ⟨earlier, before.trans same, reaches⟩

/-- The three last committed fixes, the sample itself among them, all usable,
closely spaced, each plausible from the one before and each within the reach
of the anchor. -/
structure Corroborated (anchor : TelemetryMotionSample R)
    (committed : List (TelemetryPayload R)) (sample : TelemetryPayload R) :
    Prop where
  reaches : ReachesOverGap anchor sample.toQualifiedMotionSample
  fixes : ∃ first second rest, committed = second :: first :: rest ∧
    Supports anchor first ∧ Supports anchor second ∧
    Follows first.toQualifiedMotionSample second.toQualifiedMotionSample ∧
    Follows second.toQualifiedMotionSample sample.toQualifiedMotionSample

/-- A node and the samples committed to it, the last one first. -/
structure PresenceRun (R : Type) where
  node : Option (DevicePresence R)
  committed : List (TelemetryPayload R)

structure Delivery (R : Type) where
  assignment : DeviceAssignment
  sample : TelemetryPayload R
  backendReceivedAt : Int

/-- One transaction on the node; a rejected sample changes nothing. -/
def PresenceRun.step (run : PresenceRun R) (delivery : Delivery R) :
    Option (PresenceRun R) :=
  match nextTelemetryValue run.node delivery.assignment delivery.sample
    delivery.backendReceivedAt with
  | none => some run
  | some next => some
      { node := some next
        committed := delivery.sample :: run.committed }

def presence : System (PresenceRun R) (Delivery R) := PresenceRun.step

/-- Everything a trusted fix is made of has passed as finite. -/
structure Finite (fix : TelemetryMotionSample R) : Prop where
  lat : JsNumber.isFinite fix.lat = true
  lng : JsNumber.isFinite fix.lng = true
  speed : JsNumber.isFinite fix.speed = true
  gpsHdop : ∀ hdop, fix.gpsHdop = some hdop → JsNumber.isFinite hdop = true

variable {current : Option (DevicePresence R)}

theorem finite_of_trustedFix {fix : TelemetryMotionSample R}
    (trusted : trustedFix current = some fix) : Finite fix := by
  unfold trustedFix at trusted
  simp only at trusted
  split at trusted
  · rename_i lat lng speed timestamp finiteLat finiteLng finiteSpeed _
    cases trusted
    constructor
    · exact (Option.filter_eq_some_iff.mp finiteLat).2
    · exact (Option.filter_eq_some_iff.mp finiteLng).2
    · exact (Option.filter_eq_some_iff.mp finiteSpeed).2
    · intro hdop known
      unfold previousTelemetryGpsHdop at known
      simp only at known
      rcases Option.or_eq_some_iff.mp known with own | ⟨-, filled⟩
      · exact (Option.filter_eq_some_iff.mp own).2
      · exact (Option.filter_eq_some_iff.mp filled).2
  · cases trusted

theorem trustedFix_of_anchor {presence : DevicePresence R}
    {fix : TelemetryMotionSample R} (finite : Finite fix)
    (stored : presence.plausibilityAnchor = some fix.anchor) :
    ∃ later, trustedFix (some presence) = some later ∧ SameFix fix later := by
  refine ⟨{ fix with
    gpsHdop := previousTelemetryGpsHdop (some fix.anchor) (some presence) },
    ?_, fix.gpsHdop, ?_, rfl⟩
  · unfold trustedFix
    simp [stored, TelemetryMotionSample.anchor, Option.filter, finite.lat,
      finite.lng, finite.speed]
  · cases known : fix.gpsHdop with
    | none => exact .inl rfl
    | some hdop =>
      right
      simp [previousTelemetryGpsHdop, TelemetryMotionSample.anchor, known,
        Option.filter, finite.gpsHdop hdop known]

structure Coherent (run : PresenceRun R) : Prop where
  raw : run.node.bind (·.rawLocation) =
    run.committed.head?.map TelemetryPayload.raw
  evidence : ∀ pending,
    run.node.bind (·.plausibilityReacquisition) = some pending →
    ∃ anchor, trustedFix run.node = some anchor ∧
      ((pending.count = 1 ∧ ∃ fix rest, run.committed = fix :: rest ∧
          Supports anchor fix) ∨
        (pending.count = 2 ∧ ∃ first second rest,
          run.committed = second :: first :: rest ∧
          Supports anchor first ∧ Supports anchor second ∧
          Follows first.toQualifiedMotionSample
            second.toQualifiedMotionSample))

variable {sample : TelemetryPayload R}

theorem evaluated_of_outlying (trusted : trustedFix current = some anchor)
    (outlying : isPlausibleTelemetryTransition (some anchor)
      sample.toTelemetryMotionSample = false) :
    Evaluated anchor sample.toQualifiedMotionSample
      ((current.bind (·.rawLocation)).map RawLocation.candidate)
      (current.bind (·.plausibilityReacquisition))
      (reacquisitionOf current sample) := by
  unfold reacquisitionOf
  simp only [trusted, outlying, Bool.false_eq_true, if_false]
  exact evaluated anchor _ _ _

theorem trustedFix_of_refused (assignment : DeviceAssignment)
    (backendReceivedAt : Int) (trusted : trustedFix current = some anchor)
    (outlying : isPlausibleTelemetryTransition (some anchor)
      sample.toTelemetryMotionSample = false)
    (refused : (reacquisitionOf current sample).accepted = false) :
    ∃ later, trustedFix (some (telemetryPresence current assignment sample
      backendReceivedAt)) = some later ∧ SameFix anchor later := by
  apply trustedFix_of_anchor (finite_of_trustedFix trusted)
  simp [telemetryPresence, nextAnchor, trusted, transitionIsPlausible,
    outlying, refused]

variable {run : PresenceRun R}

omit [JsNumber R] in
theorem Coherent.committed_of_raw [JsNumber R] (coherent : Coherent run)
    {candidate : QualifiedMotionSample R}
    (last : (run.node.bind (·.rawLocation)).map RawLocation.candidate =
      some candidate) :
    ∃ fix rest, run.committed = fix :: rest ∧
      fix.toQualifiedMotionSample = candidate := by
  rw [coherent.raw] at last
  cases known : run.committed with
  | nil =>
    rw [known] at last
    cases last
  | cons fix rest =>
    rw [known] at last
    cases last
    exact ⟨fix, rest, rfl, rfl⟩

theorem coherent_commit (coherent : Coherent run)
    (assignment : DeviceAssignment) (sample : TelemetryPayload R)
    (backendReceivedAt : Int) :
    Coherent {
      node := some (telemetryPresence run.node assignment sample
        backendReceivedAt)
      committed := sample :: run.committed } := by
  refine ⟨rfl, ?_⟩
  intro pending found
  have asked : (reacquisitionOf run.node sample).pending = some pending := found
  cases trusted : trustedFix run.node with
  | none =>
    unfold reacquisitionOf at asked
    simp [trusted, isPlausibleTelemetryTransition] at asked
  | some anchor =>
    cases fitting : isPlausibleTelemetryTransition (some anchor)
        sample.toTelemetryMotionSample with
    | true =>
      unfold reacquisitionOf at asked
      simp [trusted, fitting] at asked
    | false =>
      have answer := evaluated_of_outlying trusted fitting
      have stays := trustedFix_of_refused assignment backendReceivedAt
        trusted fitting
      generalize reacquisitionOf run.node sample = outcome
        at answer asked stays
      cases answer with
      | refuse | third => cases asked
      | first reaches =>
        cases asked
        obtain ⟨later, trustedLater, same⟩ := stays rfl
        refine ⟨later, trustedLater, .inl ⟨rfl, sample, run.committed,
          rfl, anchor, same, reaches⟩⟩
      | second reaches last known one started follows =>
        cases asked
        obtain ⟨later, trustedLater, same⟩ := stays rfl
        obtain ⟨fix, rest, committed, rfl⟩ :=
          coherent.committed_of_raw last
        obtain ⟨judged, judgedTrusted, counted⟩ :=
          coherent.evidence _ known
        rw [trusted] at judgedTrusted
        cases judgedTrusted
        rcases counted with ⟨-, own, ownRest, ownCommitted, supports⟩ |
          ⟨two, -⟩
        · rw [committed] at ownCommitted
          cases ownCommitted
          exact ⟨later, trustedLater, .inr ⟨rfl, fix, sample, rest,
            by rw [committed], supports.later same,
            ⟨anchor, same, reaches⟩, follows⟩⟩
        · rw [one] at two
          cases two

theorem coherent_of_steps {last : PresenceRun R}
    (steps : System.Steps presence (fun _ _ => True) run last)
    (coherent : Coherent run) : Coherent last := by
  apply steps.invariant coherent
  intro before delivery after coherent _ taken
  have stepped : before.step delivery = some after := taken
  unfold PresenceRun.step at stepped
  split at stepped
  · cases stepped
    exact coherent
  · rename_i next accepted
    cases stepped
    obtain ⟨-, -, rfl⟩ := nextTelemetryValue_eq_some.mp accepted
    exact coherent_commit coherent delivery.assignment delivery.sample
      delivery.backendReceivedAt

structure Published (sample : TelemetryPayload R)
    (presence : DevicePresence R) : Prop where
  lat : presence.lat = some sample.lat
  lng : presence.lng = some sample.lng
  speed : presence.speed = some sample.speed
  motionState : presence.motionState = some sample.motionState

def equatorAssignment : DeviceAssignment where
  busId := "a"
  routeId := "r"
  deviceId := some "d"
  assignmentRevision := some 0

def equatorFix (seq timestamp : Int) (lng speed : ℚ) (gpsHdop : Option ℚ) :
    TelemetryPayload ℚ where
  lat := 0
  lng := lng
  speed := speed
  timestamp := timestamp
  gpsHdop := gpsHdop
  motionState := if speed = 0 then .stopped else .moving
  heading := 0
  seq := seq
  deviceSentAt := timestamp

end Eki
