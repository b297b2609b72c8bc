import Eki.Firmware.TelemetryPolicy
import Eki.Telemetry.Motion
import Mathlib.Analysis.SpecialFunctions.Complex.Arg
import Mathlib.Tactic.Positivity

/-!
# Firmware and backend agree on plausible motion

The policy is stated once over the real numbers.  Firmware and backend, in
exact arithmetic and with one great-circle distance, both compute it.
-/

namespace Eki

/-! ## The policy -/

namespace Policy

/-- The receiver's error, in metres. -/
noncomputable def errorAllowance (quality : Option ℝ) (speed other : ℝ)
    (elapsed : ℕ) : ℝ :=
  min 50 (max 15
    (quality.elim 50 (fun hdop => 15 + hdop * 7) +
      (if max speed other ≤ 5 / 2 then 10 else 0) +
      min 10 (((elapsed - 10000 : ℕ) : ℝ) / 2000)))

theorem errorAllowance_worst (speed other : ℝ) (elapsed : ℕ) :
    errorAllowance (some 99) speed other elapsed =
      errorAllowance none speed other elapsed := by
  have still : 0 ≤ (if max speed other ≤ 5 / 2 then 10 else 0 : ℝ) := by
    split <;> norm_num
  have gap : 0 ≤ min 10 (((elapsed - 10000 : ℕ) : ℝ) / 2000) :=
    le_min (by norm_num) (by positivity)
  have saturated {error : ℝ} (large : 50 ≤ error) :
      min 50 (max 15 error) = 50 :=
    min_eq_left (large.trans (le_max_right 15 error))
  unfold errorAllowance
  rw [saturated, saturated]
  · rw [Option.elim_none]
    linarith
  · rw [Option.elim_some]
    linarith

/-- The error of either fix and the way at the faster speed. -/
noncomputable def reach (quality other : Option ℝ) (speed otherSpeed : ℝ)
    (elapsed : ℕ) : ℝ :=
  max (errorAllowance other otherSpeed speed elapsed)
      (errorAllowance quality speed otherSpeed elapsed) +
    min 200 (max (max speed otherSpeed) 0) / (36 / 10) *
      ((elapsed : ℝ) / 1000)

theorem errorAllowance_mono (quality : Option ℝ) (speed other : ℝ)
    {earlier later : ℕ} (order : earlier ≤ later) :
    errorAllowance quality speed other earlier ≤
      errorAllowance quality speed other later := by
  have gaps : ((earlier - 10000 : ℕ) : ℝ) / 2000 ≤
      ((later - 10000 : ℕ) : ℝ) / 2000 := by
    have whole : earlier - 10000 ≤ later - 10000 := by omega
    gcongr
  unfold errorAllowance
  gcongr

theorem reach_mono (quality other : Option ℝ) (speed otherSpeed : ℝ)
    {earlier later : ℕ} (order : earlier ≤ later) :
    reach quality other speed otherSpeed earlier ≤
      reach quality other speed otherSpeed later := by
  have fastest : 0 ≤ min 200 (max (max speed otherSpeed) 0) / (36 / 10) := by
    apply div_nonneg
    · exact le_min (by norm_num) (le_max_right _ _)
    · norm_num
  unfold reach
  apply add_le_add
  · exact max_le_max (errorAllowance_mono other otherSpeed speed order)
      (errorAllowance_mono quality speed otherSpeed order)
  · gcongr

end Policy

/-! ## Exact arithmetic -/

/-- The functions under the great-circle distance, and what a position off the
globe is away. -/
class Trigonometry where
  floor : ℝ → ℝ
  sqrt : ℝ → ℝ
  sin : ℝ → ℝ
  cos : ℝ → ℝ
  atan2 : ℝ → ℝ → ℝ
  hypot : ℝ → ℝ → ℝ
  pi : ℝ
  infinity : ℝ

open Classical in
noncomputable abbrev exactReals [Trigonometry] : JsNumber ℝ where
  beq x y := decide (x = y)
  ofNat n := n
  decidableLT := inferInstance
  decidableLE := inferInstance
  isFinite _ := true
  isSafeInteger x := decide (∃ n : ℤ, x = n ∧ n.natAbs ≤ 9007199254740991)
  floor := Trigonometry.floor
  abs x := |x|
  min x y := Min.min x y
  max x y := Max.max x y
  sqrt := Trigonometry.sqrt
  sin := Trigonometry.sin
  cos := Trigonometry.cos
  atan2 := Trigonometry.atan2
  hypot := Trigonometry.hypot
  pi := Trigonometry.pi
  infinity := Trigonometry.infinity

/-- The same quality, as the firmware has it and as the backend does: a number
of at most 99, none, or none sent as 99. -/
inductive SameQuality : Bool → ℝ → Option ℝ → Prop
  | reported (hdop : ℝ) (lower : 0 ≤ hdop) (upper : hdop ≤ 99) :
      SameQuality true hdop (some hdop)
  | absent (hdop : ℝ) : SameQuality false hdop none
  | sentAsWorst (hdop : ℝ) : SameQuality false hdop (some 99)

section Implementations

variable [Trigonometry]

theorem stdMax_eq (x y : ℝ) : @Firmware.stdMax ℝ exactReals x y = max x y := by
  unfold Firmware.stdMax
  rcases lt_or_ge x y with h | h
  · exact (if_pos h).trans (max_eq_right h.le).symm
  · exact (if_neg (not_lt.mpr h)).trans (max_eq_left h).symm

theorem stdMin_eq (x y : ℝ) : @Firmware.stdMin ℝ exactReals x y = min x y := by
  unfold Firmware.stdMin
  rcases lt_or_ge y x with h | h
  · exact (if_pos h).trans (min_eq_right h.le).symm
  · exact (if_neg (not_lt.mpr h)).trans (min_eq_left h).symm

theorem literal (n : ℕ) [n.AtLeastTwo] :
    @OfNat.ofNat ℝ n (@JsNumber.instOfNat ℝ exactReals n) = OfNat.ofNat n :=
  Nat.cast_ofNat

theorem literal_zero :
    @OfNat.ofNat ℝ 0 (@JsNumber.instOfNat ℝ exactReals 0) = 0 :=
  Nat.cast_zero

omit [Trigonometry] in
theorem late_toNat (elapsedMs : BitVec 32) :
    (if elapsedMs > 10000 then elapsedMs - 10000 else 0).toNat =
      elapsedMs.toNat - 10000 := by
  split <;> bv_omega

omit [Trigonometry] in
theorem stationary_eq (speed : ℝ) :
    (if speed ≤ 25 / 10 then 10 else 0 : ℝ) =
      if speed ≤ 5 / 2 then 10 else 0 := by
  have same : (25 / 10 : ℝ) = 5 / 2 := by norm_num
  rw [same]

variable {valid : Bool} {hdop : ℝ} {gpsHdop : Option ℝ}

theorem firmware_error (same : SameQuality valid hdop gpsHdop)
    (speed other : ℝ) (elapsedMs : BitVec 32) :
    @Firmware.adaptiveGnssErrorMeters ℝ exactReals valid hdop speed other
        elapsedMs =
      Policy.errorAllowance gpsHdop speed other elapsedMs.toNat := by
  unfold Firmware.adaptiveGnssErrorMeters Policy.errorAllowance
    Firmware.gnssErrorMinM Firmware.gnssErrorMaxM
    Firmware.gnssStationarySpeedKmh
  simp only [stdMax_eq, stdMin_eq, late_toNat, literal, literal_zero]
  rw [stationary_eq]
  cases same with
  | reported hdop lower upper =>
    rw [if_pos]
    · rfl
    · exact decide_eq_true lower
  | absent hdop =>
    rw [if_neg]
    · rfl
    · exact Bool.false_ne_true
  | sentAsWorst hdop =>
    rw [if_neg]
    · exact (Policy.errorAllowance_worst speed other elapsedMs.toNat).symm
    · exact Bool.false_ne_true

theorem clamp_eq (value minimum maximum : ℝ) :
    @clamp ℝ exactReals value minimum maximum =
      max minimum (min maximum value) :=
  rfl

theorem max_eq (x y : ℝ) : @JsNumber.max ℝ exactReals x y = max x y :=
  rfl

omit [Trigonometry] in
theorem clamped_error (error : ℝ) :
    max 15 (min 50 error) = min 50 (max 15 error) := by
  rw [max_min_distrib_left, max_eq_right (by norm_num : (15 : ℝ) ≤ 50)]

theorem ofInt_late (elapsed : ℕ) :
    @JsNumber.ofInt ℝ exactReals (max 0 ((elapsed : ℤ) - 10000)) =
      ((elapsed - 10000 : ℕ) : ℝ) := by
  have late : max 0 ((elapsed : ℤ) - 10000) = ((elapsed - 10000 : ℕ) : ℤ) := by
    omega
  rw [late]
  rfl

theorem backend_error (quality : ∀ hdop ∈ gpsHdop, 0 ≤ hdop ∧ hdop ≤ 99)
    (speed other : ℝ) (elapsed : ℕ) :
    @adaptiveGnssErrorMeters ℝ exactReals gpsHdop speed other elapsed none =
      Policy.errorAllowance gpsHdop speed other elapsed := by
  have gap : max 0 (min 10 (((elapsed - 10000 : ℕ) : ℝ) / 2000)) =
      min 10 (((elapsed - 10000 : ℕ) : ℝ) / 2000) :=
    max_eq_right (le_min (by norm_num) (by positivity))
  have still : (if max (max speed other) 0 ≤ 5 / 2 then 10 else 0 : ℝ) =
      if max speed other ≤ 5 / 2 then 10 else 0 := by
    apply if_congr _ rfl rfl
    rw [max_le_iff]
    exact and_iff_left (by norm_num)
  unfold adaptiveGnssErrorMeters Policy.errorAllowance gnssErrorMinM
    gnssErrorMaxM gnssStationarySpeedKmh
  simp only [clamp_eq, max_eq, literal, literal_zero, ofInt_late, gap,
    decide_eq_true_eq]
  rw [clamped_error, still]
  cases gpsHdop with
  | none => rfl
  | some hdop =>
    obtain ⟨lower, upper⟩ := quality hdop rfl
    simp only [Option.elim_some]
    rw [if_pos]
    exact Bool.and_eq_true_iff.mpr
      ⟨decide_eq_true lower, decide_eq_true upper⟩

theorem firmware_envelope {previousValid : Bool} {previousHdop : ℝ}
    {previousGpsHdop : Option ℝ} (same : SameQuality valid hdop gpsHdop)
    (samePrevious : SameQuality previousValid previousHdop previousGpsHdop)
    (distance : ℝ → ℝ → ℝ → ℝ → ℝ) (elapsedMs : BitVec 32)
    (lat lng previousLat previousLng speed previousSpeed : ℝ) :
    @Firmware.withinTravelEnvelope ℝ exactReals distance elapsedMs lat lng
        previousLat previousLng speed previousSpeed valid hdop previousValid
        previousHdop = true ↔
      distance previousLat previousLng lat lng ≤
        Policy.reach gpsHdop previousGpsHdop speed previousSpeed
          elapsedMs.toNat := by
  unfold Firmware.withinTravelEnvelope Policy.reach
  simp only [stdMax_eq, stdMin_eq, firmware_error same,
    firmware_error samePrevious, literal, literal_zero]
  exact decide_eq_true_iff

theorem backend_envelope {previous next : TelemetryMotionSample ℝ}
    (quality : ∀ hdop ∈ next.gpsHdop, 0 ≤ hdop ∧ hdop ≤ 99)
    (previousQuality : ∀ hdop ∈ previous.gpsHdop, 0 ≤ hdop ∧ hdop ≤ 99)
    (elapsed : ℕ) :
    @withinTravelEnvelope ℝ exactReals previous next elapsed = true ↔
      @haversineMeters ℝ exactReals previous.position next.position ≤
        Policy.reach next.gpsHdop previous.gpsHdop next.speed previous.speed
          elapsed := by
  have capped (speed : ℝ) :
      max 0 (min 200 (max speed 0)) = min 200 (max speed 0) :=
    max_eq_right (le_min (by norm_num) (le_max_right _ _))
  unfold withinTravelEnvelope Policy.reach
  simp only [clamp_eq, max_eq, backend_error quality,
    backend_error previousQuality, literal, literal_zero, capped]
  rw [max_comm previous.speed next.speed]
  exact decide_eq_true_iff

/-! ## The same verdict -/

structure DeviceFix where
  lat : ℝ
  lng : ℝ
  speedKmh : ℝ
  hdopValid : Bool
  hdop : ℝ

structure Received (fix : DeviceFix) (sample : TelemetryMotionSample ℝ) :
    Prop where
  lat : fix.lat = sample.lat
  lng : fix.lng = sample.lng
  speed : fix.speedKmh = sample.speed
  quality : SameQuality fix.hdopValid fix.hdop sample.gpsHdop

omit [Trigonometry] in
theorem SameQuality.within (same : SameQuality valid hdop gpsHdop) :
    ∀ hdop ∈ gpsHdop, 0 ≤ hdop ∧ hdop ≤ 99 := by
  intro quality member
  cases same with
  | reported hdop lower upper =>
    cases member
    exact ⟨lower, upper⟩
  | absent hdop => cases member
  | sentAsWorst hdop =>
    cases member
    exact ⟨by norm_num, le_refl _⟩

/-- The device forwards one fix after another, by the backend's distance. -/
noncomputable def DeviceFix.forwards (previous next : DeviceFix)
    (elapsedMs : BitVec 32) : Bool :=
  @Firmware.locationTransitionIsPlausible ℝ exactReals
    (fun previousLat previousLng lat lng =>
      @haversineMeters ℝ exactReals ⟨previousLat, previousLng⟩ ⟨lat, lng⟩)
    true elapsedMs next.lat next.lng previous.lat previous.lng next.speedKmh
    previous.speedKmh next.hdopValid next.hdop previous.hdopValid previous.hdop

section Fixes

variable {previousFix nextFix : DeviceFix}
  {previous next : TelemetryMotionSample ℝ}

/-- Up to the reacquisition limit the device takes the envelope of the whole
gap. -/
theorem forwards_iff (samePrevious : Received previousFix previous)
    (sameNext : Received nextFix next) {elapsedMs : BitVec 32}
    (soon : elapsedMs.toNat ≤ 300000) :
    previousFix.forwards nextFix elapsedMs = true ↔
      @withinTravelEnvelope ℝ exactReals previous next elapsedMs.toNat =
        true := by
  have early : ¬ elapsedMs > Firmware.gnssReacquireAfterMs := by
    unfold Firmware.gnssReacquireAfterMs
    bv_omega
  have present : ¬ (!true) = true := Bool.false_ne_true
  unfold DeviceFix.forwards Firmware.locationTransitionIsPlausible
  rw [if_neg present, if_neg early,
    firmware_envelope sameNext.quality samePrevious.quality,
    backend_envelope sameNext.quality.within samePrevious.quality.within,
    sameNext.lat, sameNext.lng, sameNext.speed, samePrevious.lat,
    samePrevious.lng, samePrevious.speed]
  exact Iff.rfl

theorem forwards_late {elapsedMs : BitVec 32}
    (late : 300000 < elapsedMs.toNat) :
    previousFix.forwards nextFix elapsedMs = true := by
  have passed : elapsedMs > Firmware.gnssReacquireAfterMs := by
    unfold Firmware.gnssReacquireAfterMs
    bv_omega
  have present : ¬ (!true) = true := Bool.false_ne_true
  unfold DeviceFix.forwards Firmware.locationTransitionIsPlausible
  rw [if_neg present, if_pos passed]

theorem ordinary_le (samePrevious : Received previousFix previous)
    (sameNext : Received nextFix next) {elapsed : ℕ}
    (gap : max 0 (next.timestamp - previous.timestamp) = elapsed)
    (ordinary : @withinOrdinaryEnvelope ℝ exactReals previous next = true) :
    @withinTravelEnvelope ℝ exactReals previous next elapsed = true := by
  have capped : min telemetryMaxTransitionGapMs
      (max 0 (next.timestamp - previous.timestamp)) =
        ((min 60000 elapsed : ℕ) : ℤ) := by
    unfold telemetryMaxTransitionGapMs
    omega
  unfold withinOrdinaryEnvelope at ordinary
  rw [capped, backend_envelope sameNext.quality.within
    samePrevious.quality.within] at ordinary
  rw [backend_envelope sameNext.quality.within samePrevious.quality.within]
  exact ordinary.trans (Policy.reach_mono _ _ _ _ (min_le_right _ _))

theorem envelope_of_reacquisition {motionState : MotionState}
    {raw : Option (QualifiedMotionSample ℝ)}
    {evidence : Option OutageReacquisitionEvidence}
    (used : @evaluateOutageReacquisition ℝ exactReals (some previous)
      ⟨next, motionState⟩ raw evidence ≠ { accepted := false }) :
    60000 < next.timestamp - previous.timestamp ∧
      @withinTravelEnvelope ℝ exactReals previous next
        (next.timestamp - previous.timestamp) = true := by
  by_contra outside
  apply used
  unfold evaluateOutageReacquisition
  apply if_pos
  rw [Bool.or_eq_true]
  rcases not_and_or.mp outside with short | far
  · left
    rw [Bool.or_eq_true]
    left
    rw [Bool.or_eq_true]
    right
    exact decide_eq_true (not_lt.mp short)
  · right
    rw [Bool.eq_false_of_not_eq_true far]
    rfl

end Fixes

/-- **Firmware and backend agree.**  For a fix after another, `elapsedMs` later:
the error allowances are equal; up to sixty seconds the device forwards the fix
exactly if the backend takes the transition for plausible; up to five minutes,
exactly if the fix is within the envelope of the whole gap; so it forwards every
fix that the backend takes for plausible or for evidence of a reacquisition. -/
theorem firmware_and_backend_agree {previousFix nextFix : DeviceFix}
    {previous next : TelemetryMotionSample ℝ}
    (samePrevious : Received previousFix previous)
    (sameNext : Received nextFix next) (elapsedMs : BitVec 32)
    (gap : max 0 (next.timestamp - previous.timestamp) = elapsedMs.toNat) :
    @Firmware.adaptiveGnssErrorMeters ℝ exactReals nextFix.hdopValid
        nextFix.hdop nextFix.speedKmh previousFix.speedKmh elapsedMs =
      @adaptiveGnssErrorMeters ℝ exactReals next.gpsHdop next.speed
        previous.speed elapsedMs.toNat none ∧
    (elapsedMs.toNat ≤ 60000 →
      (previousFix.forwards nextFix elapsedMs = true ↔
        @isPlausibleTelemetryTransition ℝ exactReals (some previous) next =
          true)) ∧
    (60000 < elapsedMs.toNat → elapsedMs.toNat ≤ 300000 →
      (previousFix.forwards nextFix elapsedMs = true ↔
        @withinTravelEnvelope ℝ exactReals previous next
          (next.timestamp - previous.timestamp) = true)) ∧
    (@isPlausibleTelemetryTransition ℝ exactReals (some previous) next = true →
      previousFix.forwards nextFix elapsedMs = true) ∧
    (∀ motionState raw evidence,
      @evaluateOutageReacquisition ℝ exactReals (some previous)
          ⟨next, motionState⟩ raw evidence ≠ { accepted := false } →
        previousFix.forwards nextFix elapsedMs = true) := by
  have whole (far : 300000 < elapsedMs.toNat ∨
      @withinTravelEnvelope ℝ exactReals previous next elapsedMs.toNat =
        true) : previousFix.forwards nextFix elapsedMs = true := by
    rcases Nat.lt_or_ge 300000 elapsedMs.toNat with late | soon
    · exact forwards_late late
    · rcases far with late | within
      · omega
      · exact (forwards_iff samePrevious sameNext soon).mpr within
  have plausible_iff :
      @isPlausibleTelemetryTransition ℝ exactReals (some previous) next =
          true ↔
        300000 < elapsedMs.toNat ∨
          @withinOrdinaryEnvelope ℝ exactReals previous next = true := by
    unfold isPlausibleTelemetryTransition telemetryReacquireAfterMs
    simp only
    rw [Bool.or_eq_true, decide_eq_true_iff, gap]
    apply or_congr _ Iff.rfl
    omega
  refine ⟨?_, ?_, ?_, ?_, ?_⟩
  · rw [firmware_error sameNext.quality, backend_error sameNext.quality.within,
      sameNext.speed, samePrevious.speed]
  · intro short
    have uncapped : min telemetryMaxTransitionGapMs
        (max 0 (next.timestamp - previous.timestamp)) = elapsedMs.toNat := by
      unfold telemetryMaxTransitionGapMs
      omega
    rw [forwards_iff samePrevious sameNext (by omega), plausible_iff]
    unfold withinOrdinaryEnvelope
    rw [uncapped]
    exact (or_iff_right (by omega)).symm
  · intro long soon
    have same : next.timestamp - previous.timestamp = elapsedMs.toNat := by
      omega
    rw [forwards_iff samePrevious sameNext soon, same]
  · intro taken
    rcases plausible_iff.mp taken with late | ordinary
    · exact whole (.inl late)
    · exact whole (.inr (ordinary_le samePrevious sameNext gap ordinary))
  · intro motionState raw evidence used
    obtain ⟨long, within⟩ := envelope_of_reacquisition used
    have same : next.timestamp - previous.timestamp = elapsedMs.toNat := by
      omega
    rw [same] at within
    exact whole (.inr within)

end Implementations

/-- The real functions. -/
@[reducible] noncomputable def realTrigonometry : Trigonometry where
  floor x := ⌊x⌋
  sqrt := Real.sqrt
  sin := Real.sin
  cos := Real.cos
  atan2 y x := Complex.arg ⟨x, y⟩
  hypot x y := Real.sqrt (x * x + y * y)
  pi := Real.pi
  infinity := 1000000000

theorem firmware_and_backend_agree_moving :
    @DeviceFix.forwards realTrigonometry ⟨27, 85, 30, true, 1⟩
        ⟨27, 86, 0, false, 99⟩ 2000 = true ↔
      @isPlausibleTelemetryTransition ℝ (@exactReals realTrigonometry)
        (some ⟨27, 85, 30, 1000, some 1⟩) ⟨27, 86, 0, 3000, some 99⟩ = true :=
  (@firmware_and_backend_agree realTrigonometry ⟨27, 85, 30, true, 1⟩
    ⟨27, 86, 0, false, 99⟩ ⟨27, 85, 30, 1000, some 1⟩
    ⟨27, 86, 0, 3000, some 99⟩
    ⟨rfl, rfl, rfl, .reported 1 (by norm_num) (by norm_num)⟩
    ⟨rfl, rfl, rfl, .sentAsWorst 99⟩ 2000 rfl).2.1 (by decide)

end Eki
