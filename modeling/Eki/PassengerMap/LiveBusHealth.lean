import Mathlib.Algebra.Order.Field.Rat
import Mathlib.Data.Rat.Floor
import Mathlib.Tactic.Linarith

/-!
# When the health of a bus changes

The health of a live bus is a nest of thresholds on the age of its last
packet.  A separate function answers when it changes next, and is right about
that for exactly the packets described by `Foreseen`.
-/

namespace Eki.PassengerMap

/-- A number of the language; the finite ones are added without rounding. -/
inductive JsNumber where
  | finite (value : ℚ)
  | positiveInfinity
  | negativeInfinity
  | nan
  deriving DecidableEq

namespace JsNumber

def plus : JsNumber → ℚ → JsNumber
  | finite value, ms => finite (value + ms)
  | number, _ => number

/-- `ms - number` -/
def subtractFrom (ms : ℚ) : JsNumber → JsNumber
  | finite value => finite (ms - value)
  | positiveInfinity => negativeInfinity
  | negativeInfinity => positiveInfinity
  | nan => nan

def lt : JsNumber → JsNumber → Bool
  | finite value, finite other => decide (value < other)
  | negativeInfinity, finite _ => true
  | negativeInfinity, positiveInfinity => true
  | finite _, positiveInfinity => true
  | _, _ => false

def le : JsNumber → JsNumber → Bool
  | finite value, finite other => decide (value ≤ other)
  | nan, _ => false
  | _, nan => false
  | negativeInfinity, _ => true
  | _, positiveInfinity => true
  | _, _ => false

/-- `Math.max(0, number)` -/
def maxZero : JsNumber → JsNumber
  | finite value => finite (max 0 value)
  | negativeInfinity => finite 0
  | number => number

def isFinite : JsNumber → Bool
  | finite _ => true
  | _ => false

end JsNumber

/-- What the environment gives; the default is 300000. -/
structure HealthSettings where
  busExpiryMs : ℚ
  positive : 0 < busExpiryMs

inductive LiveBusHealthState where
  | live
  | delayed
  | gnssLost
  | lost
  | offline
  deriving DecidableEq

structure LiveBusHealth where
  state : LiveBusHealthState
  lastUpdateAt : Option JsNumber
  ageMs : Option JsNumber

/-- A state that is not a text, and a time that is not a number, is none. -/
structure LiveBusHealthInput where
  deviceState : Option String
  motionState : Option String
  signalState : Option String
  timestamp : Option JsNumber
  backendReceivedAt : Option JsNumber

def liveBusFreshnessTimestamp (bus : LiveBusHealthInput) : Option JsNumber :=
  match bus.backendReceivedAt, bus.timestamp with
  | some (.finite received), some sample =>
    let skew := sample.subtractFrom received
    if (JsNumber.finite (-10000)).le skew && skew.le (.finite 60000) then
      some (.finite received)
    else some sample
  | _, sample => sample

def liveBusGnssLost (bus : LiveBusHealthInput) : Bool :=
  bus.signalState == some "gnss_lost" || bus.motionState == some "uncertain"

namespace HealthSettings

variable (settings : HealthSettings)

def signalLostMs : Int := min 30000 ⌊settings.busExpiryMs / 2⌋

def liveDelayedMs : Int := min 12000 settings.signalLostMs

def isLiveBusTimestamp (timestamp : JsNumber) (now : Int) : Bool :=
  if !timestamp.isFinite then false
  else
    let age := timestamp.subtractFrom now
    (JsNumber.finite (-10000)).le age && age.lt (.finite settings.busExpiryMs)

def liveBusHealth (bus : LiveBusHealthInput) (now : Int) : LiveBusHealth :=
  let lastUpdateAt := liveBusFreshnessTimestamp bus
  let usable := lastUpdateAt.filter fun at_ =>
    settings.isLiveBusTimestamp at_ now
  let answer (state : LiveBusHealthState) : LiveBusHealth :=
    { state := state
      lastUpdateAt := lastUpdateAt
      ageMs := usable.map fun at_ => (at_.subtractFrom now).maxZero }
  if bus.deviceState == some "offline" then answer .offline
  else if liveBusGnssLost bus then answer .gnssLost
  else
    match usable with
    | none => answer .lost
    | some at_ =>
      let age := at_.subtractFrom now
      if (JsNumber.finite settings.signalLostMs).lt age then answer .lost
      else if (JsNumber.finite settings.liveDelayedMs).lt age then
        answer .delayed
      else answer .live

def nextLiveBusHealthChangeAt (bus : LiveBusHealthInput) (now : Int) :
    Option JsNumber :=
  if bus.deviceState == some "offline" then none
  else
    (liveBusFreshnessTimestamp bus).bind fun lastUpdateAt =>
      [lastUpdateAt.plus (settings.liveDelayedMs + 1),
          lastUpdateAt.plus (settings.signalLostMs + 1),
          lastUpdateAt.plus settings.busExpiryMs].find?
        (JsNumber.finite now).lt

/-! ## Exact change times -/

/-- The health stays as it is before the change time, and for ever where there
is none. -/
def ChangesExactly (bus : LiveBusHealthInput) (now : Int) : Prop :=
  ∀ time : Int, now ≤ time →
    (∀ change ∈ settings.nextLiveBusHealthChangeAt bus now,
      (JsNumber.finite time).lt change = true) →
    (settings.liveBusHealth bus time).state =
      (settings.liveBusHealth bus now).state

/-- The last packet is at most ten seconds ahead of now, and is of a whole
millisecond, lost, or within a millisecond of being delayed. -/
def Foreseen (bus : LiveBusHealthInput) (now : Int) : Prop :=
  bus.deviceState = some "offline" ∨ liveBusGnssLost bus = true ∨
    ∀ at_, liveBusFreshnessTimestamp bus = some (.finite at_) →
      -10000 ≤ now - at_ ∧
        (at_.den = 1 ∨ settings.signalLostMs < now - at_ ∨
          settings.liveDelayedMs < now - at_ ∧
            now - at_ < settings.liveDelayedMs + 1)

theorem thresholds :
    0 ≤ settings.liveDelayedMs ∧
      settings.liveDelayedMs ≤ settings.signalLostMs ∧
      settings.signalLostMs < settings.busExpiryMs := by
  have positive := settings.positive
  have half : 0 ≤ ⌊settings.busExpiryMs / 2⌋ :=
    Int.floor_nonneg.mpr (by linarith)
  have floor := Int.floor_le (settings.busExpiryMs / 2)
  have lost : (settings.signalLostMs : ℚ) ≤ ⌊settings.busExpiryMs / 2⌋ :=
    Int.cast_le.mpr (min_le_right _ _)
  refine ⟨?_, min_le_right _ _, by linarith⟩
  exact le_min (by decide) (le_min (by decide) half)

structure Reports (bus : LiveBusHealthInput) (at_ : ℚ) : Prop where
  online : bus.deviceState ≠ some "offline"
  located : liveBusGnssLost bus = false
  last : liveBusFreshnessTimestamp bus = some (.finite at_)

section Reports

variable {settings} {bus : LiveBusHealthInput} {at_ : ℚ}
  (reports : Reports bus at_) (now : Int)

include reports

theorem Reports.state_eq :
    (settings.liveBusHealth bus now).state =
      if -10000 ≤ now - at_ ∧ now - at_ ≤ settings.signalLostMs then
        if now - at_ ≤ settings.liveDelayedMs then .live else .delayed
      else .lost := by
  obtain ⟨-, -, unexpired⟩ := settings.thresholds
  unfold liveBusHealth
  simp only [reports.last, reports.located, beq_iff_eq, reports.online,
    isLiveBusTimestamp, JsNumber.isFinite, JsNumber.subtractFrom,
    Option.filter_some, JsNumber.le, JsNumber.lt, ← not_le]
  by_cases early : -10000 ≤ now - at_
  · by_cases seen : now - at_ ≤ settings.signalLostMs
    · have fresh : ¬ settings.busExpiryMs ≤ now - at_ := by
        linarith
      by_cases prompt : now - at_ ≤ settings.liveDelayedMs
      · simp [early, seen, fresh, prompt]
      · simp [early, seen, fresh, prompt]
    · by_cases expired : settings.busExpiryMs ≤ now - at_
      · simp [early, seen, expired]
      · simp [early, seen, expired]
  · simp [early]

theorem Reports.live_iff :
    (settings.liveBusHealth bus now).state = .live ↔
      -10000 ≤ now - at_ ∧ now - at_ ≤ settings.liveDelayedMs := by
  have mono : (settings.liveDelayedMs : ℚ) ≤ settings.signalLostMs :=
    Int.cast_le.mpr settings.thresholds.2.1
  rw [reports.state_eq]
  split
  · rename_i seen
    simp [seen.1]
  · rename_i unseen
    refine ⟨fun impossible => (by cases impossible), fun prompt => ?_⟩
    exact absurd ⟨prompt.1, prompt.2.trans mono⟩ unseen

theorem Reports.delayed_iff :
    (settings.liveBusHealth bus now).state = .delayed ↔
      settings.liveDelayedMs < now - at_ ∧
        now - at_ ≤ settings.signalLostMs := by
  have zero : (0 : ℚ) ≤ settings.liveDelayedMs :=
    Int.cast_nonneg settings.thresholds.1
  rw [reports.state_eq]
  split
  · rename_i seen
    simp only [seen.2, and_true, ← not_le]
    split <;> simp_all
  · rename_i unseen
    refine ⟨fun impossible => (by cases impossible), fun late => ?_⟩
    exact absurd ⟨by linarith [late.1], late.2⟩ unseen

theorem Reports.state_lost (late : settings.signalLostMs < now - at_) :
    (settings.liveBusHealth bus now).state = .lost := by
  rw [reports.state_eq, if_neg fun seen => not_le.mpr late seen.2]

theorem Reports.next_eq :
    settings.nextLiveBusHealthChangeAt bus now =
      if now - at_ < settings.liveDelayedMs + 1 then
        some (.finite (at_ + (settings.liveDelayedMs + 1)))
      else if now - at_ < settings.signalLostMs + 1 then
        some (.finite (at_ + (settings.signalLostMs + 1)))
      else if now - at_ < settings.busExpiryMs then
        some (.finite (at_ + settings.busExpiryMs))
      else none := by
  simp only [nextLiveBusHealthChangeAt, reports.last, beq_iff_eq,
    reports.online, if_false, Option.bind_some, List.find?_cons,
    List.find?_nil, JsNumber.plus, JsNumber.lt, ← sub_lt_iff_lt_add']
  repeat' split
  all_goals simp_all

end Reports

theorem fractional {at_ : ℚ} (broken : at_.den ≠ 1) (threshold : Int) :
    ∃ time : Int, at_ + threshold < time ∧ time < at_ + (threshold + 1) := by
  have below : (⌊at_⌋ : ℚ) < at_ := by
    apply lt_of_le_of_ne (Int.floor_le at_)
    intro same
    rw [← same] at broken
    exact broken (Rat.den_intCast _)
  have above := Int.lt_floor_add_one at_
  refine ⟨⌊at_⌋ + 1 + threshold, ?_, ?_⟩
  · push_cast
    linarith
  · push_cast
    linarith

theorem whole {at_ : ℚ} (integral : at_.den = 1) {threshold time : Int}
    (before : time < at_ + (threshold + 1)) : time - at_ ≤ threshold := by
  rw [← Rat.coe_int_num_of_den_eq_one integral] at before ⊢
  have step : time < at_.num + (threshold + 1) := by
    exact_mod_cast before
  have bound : time - at_.num ≤ threshold := by
    omega
  exact_mod_cast bound

section Reports

variable {settings} {bus : LiveBusHealthInput} {at_ : ℚ}
  (reports : Reports bus at_) {now : Int}

theorem ChangesExactly.passed (exact : settings.ChangesExactly bus now)
    (broken : at_.den ≠ 1) {threshold : Int}
    (kept : now - at_ ≤ threshold)
    (change : settings.nextLiveBusHealthChangeAt bus now =
      some (.finite (at_ + (threshold + 1)))) :
    ∃ time : Int, threshold < time - at_ ∧
      (settings.liveBusHealth bus time).state =
        (settings.liveBusHealth bus now).state := by
  obtain ⟨time, after, before⟩ := fractional broken threshold
  refine ⟨time, by linarith, exact time ?_ ?_⟩
  · have later : (now : ℚ) ≤ time := by
      linarith
    exact_mod_cast later
  · simpa [change, JsNumber.lt] using before

include reports

theorem Reports.foreseen (exact : settings.ChangesExactly bus now) :
    -10000 ≤ now - at_ ∧
      (at_.den = 1 ∨ settings.signalLostMs < now - at_ ∨
        settings.liveDelayedMs < now - at_ ∧
          now - at_ < settings.liveDelayedMs + 1) := by
  have zero : (0 : ℚ) ≤ settings.liveDelayedMs :=
    Int.cast_nonneg settings.thresholds.1
  have accepted : -10000 ≤ now - at_ := by
    -- the packet comes into the accepted skew before it is delayed
    by_contra ahead
    obtain ⟨time, low, high⟩ : ∃ time : Int, at_ - 10000 ≤ time ∧
        time < at_ - 9999 := by
      refine ⟨⌈at_ - 10000⌉, Int.le_ceil _, ?_⟩
      have high := Int.ceil_lt_add_one (at_ - 10000)
      linarith
    have later : (now : ℚ) ≤ time := by
      linarith
    have same := exact time (by exact_mod_cast later) (by
      rw [reports.next_eq, if_pos (by linarith)]
      simp only [Option.mem_def, Option.some.injEq, forall_eq', JsNumber.lt,
        decide_eq_true_eq]
      linarith)
    have live : (settings.liveBusHealth bus time).state = .live :=
      (reports.live_iff time).mpr ⟨by linarith, by linarith⟩
    exact ahead ((reports.live_iff now).mp (same.symm.trans live)).1
  refine ⟨accepted, ?_⟩
  by_contra! unforeseen
  obtain ⟨broken, seen, apart⟩ := unforeseen
  by_cases prompt : now - at_ ≤ settings.liveDelayedMs
  · obtain ⟨time, passed, same⟩ := exact.passed broken prompt
      (by rw [reports.next_eq, if_pos (by linarith)])
    have live := (reports.live_iff now).mpr ⟨accepted, prompt⟩
    have kept := ((reports.live_iff time).mp (same.trans live)).2
    exact not_le.mpr passed kept
  · have delayed := not_le.mp prompt
    obtain ⟨time, passed, same⟩ := exact.passed broken seen
      (by rw [reports.next_eq, if_neg (not_lt.mpr (apart delayed)),
        if_pos (by linarith)])
    have state := (reports.delayed_iff now).mpr ⟨delayed, seen⟩
    have kept := ((reports.delayed_iff time).mp (same.trans state)).2
    exact not_le.mpr passed kept

theorem Reports.changesExactly (accepted : -10000 ≤ now - at_)
    (foreseen : at_.den = 1 ∨ settings.signalLostMs < now - at_ ∨
      settings.liveDelayedMs < now - at_ ∧
        now - at_ < settings.liveDelayedMs + 1) :
    settings.ChangesExactly bus now := by
  intro time later before
  have after : (now : ℚ) ≤ time := Int.cast_le.mpr later
  by_cases lost : settings.signalLostMs < now - at_
  · rw [reports.state_lost now lost, reports.state_lost time (by linarith)]
  have seen := not_lt.mp lost
  rw [reports.next_eq] at before
  by_cases prompt : now - at_ < settings.liveDelayedMs + 1
  · rw [if_pos prompt] at before
    have early : time < at_ + (settings.liveDelayedMs + 1) := by
      simpa [JsNumber.lt] using before
    rcases foreseen with integral | gone | ⟨delayed, -⟩
    · have kept := whole integral early
      rw [(reports.live_iff now).mpr ⟨accepted, by linarith⟩]
      exact (reports.live_iff time).mpr ⟨by linarith, kept⟩
    · exact absurd gone lost
    · -- no other whole millisecond is left
      have near : (time : ℚ) < now + 1 := by
        linarith
      have only : time < now + 1 := by
        exact_mod_cast near
      rw [show time = now by omega]
  · have delayed := not_lt.mp prompt
    rw [if_neg prompt, if_pos (by linarith)] at before
    have early : time < at_ + (settings.signalLostMs + 1) := by
      simpa [JsNumber.lt] using before
    rcases foreseen with integral | gone | ⟨-, near⟩
    · have kept := whole integral early
      rw [(reports.delayed_iff now).mpr ⟨by linarith, seen⟩]
      exact (reports.delayed_iff time).mpr ⟨by linarith, kept⟩
    · exact absurd gone lost
    · exact absurd near prompt

end Reports

theorem changes_exactly_iff_foreseen (bus : LiveBusHealthInput) (now : Int) :
    settings.ChangesExactly bus now ↔ settings.Foreseen bus now := by
  by_cases offline : bus.deviceState = some "offline"
  · refine ⟨fun _ => .inl offline, fun _ time _ _ => ?_⟩
    simp [liveBusHealth, offline]
  by_cases located : liveBusGnssLost bus = true
  · refine ⟨fun _ => .inr (.inl located), fun _ time _ _ => ?_⟩
    simp [liveBusHealth, offline, located]
  by_cases reporting : ∃ at_, liveBusFreshnessTimestamp bus =
      some (.finite at_)
  · obtain ⟨at_, last⟩ := reporting
    have reports : Reports bus at_ := ⟨offline, by simpa using located, last⟩
    constructor
    · intro exact
      refine .inr (.inr ?_)
      intro other same
      rw [last] at same
      cases same
      exact reports.foreseen exact
    · rintro (impossible | impossible | foreseen)
      · exact absurd impossible offline
      · exact absurd impossible located
      · obtain ⟨accepted, rest⟩ := foreseen at_ last
        exact reports.changesExactly accepted rest
  · refine ⟨fun _ => .inr (.inr fun at_ last =>
      absurd ⟨at_, last⟩ reporting), fun _ time _ _ => ?_⟩
    -- without a finite time the bus is lost now and for ever
    have none_usable (now : Int) : (liveBusFreshnessTimestamp bus).filter
        (fun at_ => settings.isLiveBusTimestamp at_ now) = none := by
      cases last : liveBusFreshnessTimestamp bus with
      | none => rfl
      | some number =>
        cases number with
        | finite at_ => exact absurd ⟨at_, last⟩ reporting
        | positiveInfinity => rfl
        | negativeInfinity => rfl
        | nan => rfl
    simp [liveBusHealth, offline, located, none_usable]

/-- The settings without an environment. -/
def standard : HealthSettings where
  busExpiryMs := 300000
  positive := by decide

/-- A packet twenty seconds ahead of the viewer: the bus is lost, and live in
ten seconds, and the change is announced after thirty-two. -/
def ahead : LiveBusHealthInput where
  deviceState := some "online"
  motionState := some "moving"
  signalState := none
  timestamp := some (.finite 1800000020000)
  backendReceivedAt := some (.finite 1800000020000)

theorem change_missed :
    ¬ standard.ChangesExactly ahead 1800000000000 := by
  intro exact
  have same := exact 1800000010000 (by decide) (by decide +kernel)
  revert same
  decide +kernel

end HealthSettings

end Eki.PassengerMap
