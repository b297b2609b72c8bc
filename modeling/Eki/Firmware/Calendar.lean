import Mathlib.Data.Int.Order.Basic
import Mathlib.Tactic.IntervalCases

/-!
# Days since the Unix epoch

The closed form of the firmware clock counts the days of the proleptic
Gregorian calendar, and its milliseconds follow the order of the fields.
-/

namespace Eki.Firmware

def utcYearMin : Int := 2023

def utcYearMax : Int := 2099

def trustedEpochMinMs : Int := 1700000000000

structure UtcDateTime where
  year : Int
  month : Int
  day : Int
  hour : Int
  minute : Int
  second : Int
  centisecond : Int

def isLeapYear (year : Int) : Bool :=
  year.tmod 4 == 0 && (year.tmod 100 != 0 || year.tmod 400 == 0)

def daysInMonth (year month : Int) : Int :=
  let days : List Int := [31, 28, 31, 30, 31, 30, 31, 31, 30, 31, 30, 31]
  if month < 1 || 12 < month then 0
  else if month == 2 && isLeapYear year then 29
  else days.getD (month - 1).toNat 0

def isValidUtc (utc : UtcDateTime) : Bool :=
  utcYearMin ≤ utc.year && utc.year ≤ utcYearMax &&
    1 ≤ utc.month && utc.month ≤ 12 &&
    1 ≤ utc.day && utc.day ≤ daysInMonth utc.year utc.month &&
    0 ≤ utc.hour && utc.hour ≤ 23 && 0 ≤ utc.minute && utc.minute ≤ 59 &&
    0 ≤ utc.second && utc.second ≤ 59 &&
    0 ≤ utc.centisecond && utc.centisecond ≤ 99

/-- What is cast to `unsigned` is a number of 32 bits; the other numbers are
read as unbounded. -/
def daysSinceUnixEpoch (year month day : Int) : Int :=
  let year := if month ≤ 2 then year - 1 else year
  let era := (if 0 ≤ year then year else year - 399).tdiv 400
  let yearOfEra := BitVec.ofInt 32 (year - era * 400)
  let shiftedMonth := BitVec.ofInt 32 (month + if 2 < month then -3 else 9)
  let dayOfYear := (153 * shiftedMonth + 2) / 5 + BitVec.ofInt 32 (day - 1)
  let dayOfEra := yearOfEra * 365 + yearOfEra / 4 - yearOfEra / 100 + dayOfYear
  era * 146097 + dayOfEra.toNat - 719468

/-- The epoch where it answers true. -/
def utcToEpochMilliseconds (utc : UtcDateTime) : Option Int :=
  if !isValidUtc utc then none
  else
    let seconds := daysSinceUnixEpoch utc.year utc.month utc.day * 86400 +
      utc.hour * 3600 + utc.minute * 60 + utc.second
    let epochMs := seconds * 1000 + utc.centisecond * 10
    if trustedEpochMinMs ≤ epochMs then some epochMs else none

/-! ## The proleptic Gregorian calendar -/

def monthLength (year month : Int) : Int :=
  if month = 2 then
    if 4 ∣ year ∧ (¬ 100 ∣ year ∨ 400 ∣ year) then 29 else 28
  else if month = 4 ∨ month = 6 ∨ month = 9 ∨ month = 11 then 30
  else 31

structure Date where
  year : Int
  month : Int
  day : Int
  months : 1 ≤ month ∧ month ≤ 12
  days : 1 ≤ day ∧ day ≤ monthLength year month

theorem monthLength_range (year month : Int) :
    28 ≤ monthLength year month ∧ monthLength year month ≤ 31 := by
  unfold monthLength
  split
  · split <;> omega
  · split <;> omega

namespace Date

theorem days_first (year month : Int) :
    1 ≤ (1 : Int) ∧ 1 ≤ monthLength year month := by
  have length := (monthLength_range year month).1
  omega

def first (year month : Int) (months : 1 ≤ month ∧ month ≤ 12) : Date where
  year := year
  month := month
  day := 1
  months := months
  days := days_first year month

theorem january : 1 ≤ (1 : Int) ∧ (1 : Int) ≤ 12 := by
  decide

variable (date : Date)

theorem months_next (inYear : date.month < 12) :
    1 ≤ date.month + 1 ∧ date.month + 1 ≤ 12 := by
  have months := date.months
  omega

theorem days_next (inMonth : date.day < monthLength date.year date.month) :
    1 ≤ date.day + 1 ∧ date.day + 1 ≤ monthLength date.year date.month := by
  have days := date.days
  omega

def next : Date :=
  if inMonth : date.day < monthLength date.year date.month then
    { date with
      day := date.day + 1
      days := date.days_next inMonth }
  else if inYear : date.month < 12 then
    first date.year (date.month + 1) (date.months_next inYear)
  else first (date.year + 1) 1 january

def number : Int :=
  daysSinceUnixEpoch date.year date.month date.day

end Date

/-- The number of the first of a month: years begin in March, and three months
of five have a day more. -/
def monthStart (year month : Int) : Int :=
  let year := if month ≤ 2 then year - 1 else year
  let shifted := if 2 < month then month - 3 else month + 9
  365 * year + year / 4 - year / 100 + year / 400 + (153 * shifted + 2) / 5 -
    719468

/-! ## The closed form -/

theorem era_eq (year : Int) :
    (if 0 ≤ year then year else year - 399).tdiv 400 = year / 400 := by
  split
  · rename_i late
    exact Int.tdiv_eq_ediv_of_nonneg late
  · have flipped : year - 399 = -(399 - year) := by
      omega
    rw [flipped, Int.neg_tdiv, Int.tdiv_eq_ediv_of_nonneg (by omega)]
    omega

theorem dayOfEra_toNat {yearOfEra shiftedMonth day : Nat}
    (era : yearOfEra < 400) (months : shiftedMonth < 12) (days : day < 31) :
    (BitVec.ofNat 32 yearOfEra * 365 + BitVec.ofNat 32 yearOfEra / 4 -
        BitVec.ofNat 32 yearOfEra / 100 +
        ((153 * BitVec.ofNat 32 shiftedMonth + 2) / 5 +
          BitVec.ofNat 32 day)).toNat =
      yearOfEra * 365 + yearOfEra / 4 - yearOfEra / 100 +
        ((153 * shiftedMonth + 2) / 5 + day) := by
  simp only [BitVec.toNat_add, BitVec.toNat_sub, BitVec.toNat_mul,
    BitVec.toNat_udiv, BitVec.toNat_ofNat, BitVec.ofNat_eq_ofNat,
    Nat.reducePow, Nat.reduceMod]
  simp (disch := omega) only [Nat.mod_eq_of_lt]
  omega

theorem daysSinceUnixEpoch_eq {year month day : Int}
    (months : 1 ≤ month ∧ month ≤ 12) (days : 1 ≤ day ∧ day ≤ 31) :
    daysSinceUnixEpoch year month day = monthStart year month + (day - 1) := by
  unfold daysSinceUnixEpoch monthStart
  simp only [era_eq]
  generalize (if month ≤ 2 then year - 1 else year) = marchYear
  obtain ⟨yearOfEra, inEra⟩ := Int.eq_ofNat_of_zero_le
    (show 0 ≤ marchYear - marchYear / 400 * 400 by omega)
  obtain ⟨shiftedMonth, shifted⟩ := Int.eq_ofNat_of_zero_le
    (show 0 ≤ month + if 2 < month then -3 else 9 by split <;> omega)
  obtain ⟨before, earlier⟩ := Int.eq_ofNat_of_zero_le
    (show 0 ≤ day - 1 by omega)
  rw [inEra, shifted, earlier, BitVec.ofInt_natCast, BitVec.ofInt_natCast,
    BitVec.ofInt_natCast, dayOfEra_toNat (by omega)
      (by split at shifted <;> omega) (by omega)]
  split at shifted
  · rename_i late
    simp only [late, if_true]
    omega
  · rename_i early
    simp only [early, if_false]
    omega

theorem Date.number_eq (date : Date) :
    date.number = monthStart date.year date.month + (date.day - 1) := by
  have length := (monthLength_range date.year date.month).2
  have days := date.days
  exact daysSinceUnixEpoch_eq date.months ⟨days.1, by omega⟩

theorem monthStart_le {year month later next : Int}
    (months : 1 ≤ month ∧ month ≤ 12) (others : 1 ≤ next ∧ next ≤ 12)
    (before : year < later ∨ year = later ∧ month < next) :
    monthStart year month + monthLength year month ≤
      monthStart later next := by
  unfold monthStart monthLength
  obtain ⟨first, last⟩ := months
  interval_cases month
  all_goals simp; split <;> split <;> omega

theorem monthStart_next {year month : Int} (first : 1 ≤ month)
    (last : month < 12) :
    monthStart year (month + 1) =
      monthStart year month + monthLength year month := by
  unfold monthStart monthLength
  interval_cases month
  all_goals simp; omega

theorem Date.number_next (date : Date) :
    date.next.number = date.number + 1 := by
  rw [number_eq, number_eq, next]
  have days := date.days
  split
  · simp only
    omega
  · split
    · rename_i inYear
      have step := @monthStart_next date.year _ date.months.1 inYear
      simp only [first]
      omega
    · have december : date.month = 12 := by
        have months := date.months
        omega
      rw [december] at *
      simp [monthStart, monthLength, first] at *
      omega

theorem daysInMonth_eq {year month : Int} (months : 1 ≤ month ∧ month ≤ 12) :
    daysInMonth year month = monthLength year month := by
  have leap : isLeapYear year = true ↔
      4 ∣ year ∧ (¬ 100 ∣ year ∨ 400 ∣ year) := by
    simp [isLeapYear, Int.dvd_iff_tmod_eq_zero]
  unfold daysInMonth monthLength
  obtain ⟨first, last⟩ := months
  interval_cases month
  all_goals simp [leap]

theorem Date.number_lt {date other : Date}
    (before : date.year < other.year ∨ date.year = other.year ∧
      (date.month < other.month ∨ date.month = other.month ∧
        date.day < other.day)) : date.number < other.number := by
  rw [number_eq, number_eq]
  have days := date.days
  have others := other.days
  rcases before with earlier | ⟨sameYear, earlier | ⟨sameMonth, earlier⟩⟩
  · have ends := monthStart_le date.months other.months (.inl earlier)
    omega
  · have ends := monthStart_le date.months other.months
      (.inr ⟨sameYear, earlier⟩)
    omega
  · rw [sameYear, sameMonth]
    omega

/-! ## Milliseconds -/

/-- The fields from the greatest unit to the least. -/
def UtcDateTime.fields (utc : UtcDateTime) : List Int :=
  [utc.year, utc.month, utc.day, utc.hour, utc.minute, utc.second,
    utc.centisecond]

theorem utcToEpochMilliseconds_eq_some {utc : UtcDateTime} {epochMs : Int}
    (accepted : utcToEpochMilliseconds utc = some epochMs) :
    ∃ date : Date, date.year = utc.year ∧ date.month = utc.month ∧
      date.day = utc.day ∧ epochMs = date.number * 86400000 +
        utc.hour * 3600000 + utc.minute * 60000 + utc.second * 1000 +
          utc.centisecond * 10 ∧
      (0 ≤ utc.hour ∧ utc.hour ≤ 23) ∧ (0 ≤ utc.minute ∧ utc.minute ≤ 59) ∧
      (0 ≤ utc.second ∧ utc.second ≤ 59) ∧
      (0 ≤ utc.centisecond ∧ utc.centisecond ≤ 99) := by
  unfold utcToEpochMilliseconds at accepted
  split at accepted
  · cases accepted
  · rename_i valid
    simp only [isValidUtc, Bool.not_eq_true', Bool.not_eq_false,
      Bool.and_eq_true, decide_eq_true_eq] at valid
    obtain ⟨⟨⟨⟨⟨⟨⟨⟨⟨⟨⟨⟨⟨-, -⟩, first⟩, last⟩, low⟩, high⟩, hour⟩, hours⟩,
      minute⟩, minutes⟩, second⟩, seconds⟩, centisecond⟩, centiseconds⟩ :=
        valid
    rw [daysInMonth_eq ⟨first, last⟩] at high
    simp only [Option.ite_none_right_eq_some, Option.some.injEq] at accepted
    refine ⟨⟨utc.year, utc.month, utc.day, ⟨first, last⟩, ⟨low, high⟩⟩, rfl,
      rfl, rfl, ?_, ⟨hour, hours⟩, ⟨minute, minutes⟩, ⟨second, seconds⟩,
      centisecond, centiseconds⟩
    rw [← accepted.2]
    simp only [Date.number]
    omega

theorem utcToEpochMilliseconds_lt {utc later : UtcDateTime}
    {epochMs laterMs : Int}
    (accepted : utcToEpochMilliseconds utc = some epochMs)
    (taken : utcToEpochMilliseconds later = some laterMs)
    (before : utc.fields < later.fields) : epochMs < laterMs := by
  obtain ⟨date, year, month, day, rfl, rest⟩ :=
    utcToEpochMilliseconds_eq_some accepted
  obtain ⟨other, year', month', day', rfl, others⟩ :=
    utcToEpochMilliseconds_eq_some taken
  simp only [UtcDateTime.fields, List.cons_lt_cons_iff, List.not_lt_nil,
    and_false, or_false] at before
  have days : date.number < other.number ∨ date.number = other.number ∧
      (utc.hour < later.hour ∨ utc.hour = later.hour ∧
        (utc.minute < later.minute ∨ utc.minute = later.minute ∧
          (utc.second < later.second ∨ utc.second = later.second ∧
            utc.centisecond < later.centisecond))) := by
    rw [← year, ← month, ← day, ← year', ← month', ← day'] at before
    rcases before with earlier | ⟨y, earlier | ⟨m, earlier | ⟨d, earlier⟩⟩⟩
    · exact .inl (Date.number_lt (.inl earlier))
    · exact .inl (Date.number_lt (.inr ⟨y, .inl earlier⟩))
    · exact .inl (Date.number_lt (.inr ⟨y, .inr ⟨m, earlier⟩⟩))
    · refine .inr ⟨?_, earlier⟩
      rw [Date.number, Date.number, y, m, d]
  omega

/-- The epoch has number zero and each date the number after its predecessor;
the accepted milliseconds count them and keep the order of the fields. -/
theorem calendar_correct :
    daysSinceUnixEpoch 1970 1 1 = 0 ∧
      (∀ date : Date, daysSinceUnixEpoch date.next.year date.next.month
          date.next.day =
        daysSinceUnixEpoch date.year date.month date.day + 1) ∧
      (∀ utc epochMs, utcToEpochMilliseconds utc = some epochMs →
        epochMs = daysSinceUnixEpoch utc.year utc.month utc.day * 86400000 +
          utc.hour * 3600000 + utc.minute * 60000 + utc.second * 1000 +
            utc.centisecond * 10) ∧
      ∀ utc later epochMs laterMs,
        utcToEpochMilliseconds utc = some epochMs →
        utcToEpochMilliseconds later = some laterMs →
        utc.fields < later.fields → epochMs < laterMs := by
  refine ⟨by decide, Date.number_next, ?_, ?_⟩
  · intro utc epochMs accepted
    obtain ⟨date, year, month, day, same, -⟩ :=
      utcToEpochMilliseconds_eq_some accepted
    rw [same, Date.number, year, month, day]
  · intro utc later epochMs laterMs accepted taken before
    exact utcToEpochMilliseconds_lt accepted taken before

theorem calendar_correct_leap :
    daysSinceUnixEpoch 2024 3 1 = daysSinceUnixEpoch 2024 2 29 + 1 ∧
      utcToEpochMilliseconds ⟨2024, 2, 28, 23, 59, 59, 99⟩ =
        some 1709164799990 ∧
      (1709164799990 : Int) = daysSinceUnixEpoch 2024 2 28 * 86400000 +
        23 * 3600000 + 59 * 60000 + 59 * 1000 + 99 * 10 ∧
      (1709164799990 : Int) < 1709164800000 := by
  have accepted : utcToEpochMilliseconds ⟨2024, 2, 28, 23, 59, 59, 99⟩ =
      some 1709164799990 := by
    decide +kernel
  have counted := calendar_correct.2.2.1 _ _ accepted
  have before := calendar_correct.2.2.2 _ ⟨2024, 2, 29, 0, 0, 0, 0⟩ _
    1709164800000 accepted (by decide +kernel) (by decide)
  exact ⟨calendar_correct.2.1 ⟨2024, 2, 29, by decide, by decide⟩, accepted,
    counted, before⟩

end Eki.Firmware
