import Eki.Library.Elapsed
import Mathlib.Algebra.Order.Ring.Nat

/-!
# Aged clocks and fixes

An observation and a clock reference carry a flag that falls when an evaluation
finds them too old.  The readings wrap; the flag does not come back.
-/

namespace Eki.Firmware

def latchFreshness (valid : Bool)
    (observedAtMs nowMs maximumAgeMs : BitVec 32) : Bool :=
  if valid && maximumAgeMs < nowMs - observedAtMs then false else valid

def projectEpochMillisecondsIfFresh (referenceEpochMs : Int)
    (referenceMonotonicMs nowMonotonicMs maximumAgeMs : BitVec 32) :
    Option Int :=
  let ageMs := nowMonotonicMs - referenceMonotonicMs
  if maximumAgeMs < ageMs then none else some (referenceEpochMs + ageMs.toNat)

/-- The flag after the call, and the projected epoch where it answers true. -/
def projectEpochMillisecondsFromReference (referenceValid : Bool)
    (referenceEpochMs : Int)
    (referenceMonotonicMs nowMonotonicMs maximumAgeMs : BitVec 32) :
    Bool × Option Int :=
  if !referenceValid then (referenceValid, none)
  else
    match projectEpochMillisecondsIfFresh referenceEpochMs
      referenceMonotonicMs nowMonotonicMs maximumAgeMs with
    | none => (false, none)
    | some projectedEpochMs => (referenceValid, some projectedEpochMs)

theorem latchFreshness_eq (valid : Bool)
    (observedAtMs nowMs maximumAgeMs : BitVec 32) :
    latchFreshness valid observedAtMs nowMs maximumAgeMs =
      (valid &&
        decide ((nowMs - observedAtMs).toNat ≤ maximumAgeMs.toNat)) := by
  unfold latchFreshness
  by_cases aged : maximumAgeMs < nowMs - observedAtMs
  · have above := BitVec.lt_def.mp aged
    rw [decide_eq_true aged, decide_eq_false (Nat.not_le.mpr above)]
    cases valid <;> rfl
  · have within := BitVec.le_def.mp (BitVec.not_lt.mp aged)
    rw [decide_eq_false aged, decide_eq_true within]
    cases valid <;> rfl

theorem projectEpochMillisecondsFromReference_eq (referenceValid : Bool)
    (referenceEpochMs : Int)
    (referenceMonotonicMs nowMonotonicMs maximumAgeMs : BitVec 32) :
    projectEpochMillisecondsFromReference referenceValid referenceEpochMs
        referenceMonotonicMs nowMonotonicMs maximumAgeMs =
      (latchFreshness referenceValid referenceMonotonicMs nowMonotonicMs
          maximumAgeMs,
        if latchFreshness referenceValid referenceMonotonicMs nowMonotonicMs
          maximumAgeMs then
          some (referenceEpochMs +
            (nowMonotonicMs - referenceMonotonicMs).toNat)
        else none) := by
  unfold projectEpochMillisecondsFromReference
    projectEpochMillisecondsIfFresh latchFreshness
  cases referenceValid with
  | false => rfl
  | true =>
    by_cases aged : maximumAgeMs < nowMonotonicMs - referenceMonotonicMs
    · simp [aged]
    · simp [aged]

/-- The true times of the evaluations of a value that was set at one of
them. -/
structure Evaluations where
  setAt : Nat
  times : Nat → Nat
  first : setAt ≤ times 0 ∧ times 0 ≤ setAt + 2 ^ 31
  apart : ∀ n, times n ≤ times (n + 1) ∧ times (n + 1) ≤ times n + 2 ^ 31

namespace Evaluations

variable (evaluations : Evaluations) (referenceEpochMs : Int)
  (maximumAgeMs : BitVec 32)

def age (n : Nat) : Nat :=
  evaluations.times n - evaluations.setAt

/-- `millis` when the value was set. -/
def reference : BitVec 32 :=
  BitVec.ofNat 32 evaluations.setAt

/-- `millis` at an evaluation. -/
def millis (n : Nat) : BitVec 32 :=
  BitVec.ofNat 32 (evaluations.times n)

/-- The answer of each evaluation, which is the flag that it leaves. -/
def fresh : Nat → Bool
  | 0 => latchFreshness true evaluations.reference (evaluations.millis 0)
      maximumAgeMs
  | n + 1 => latchFreshness (fresh n) evaluations.reference
      (evaluations.millis (n + 1)) maximumAgeMs

/-- The flag and the answer of each evaluation. -/
def projected : Nat → Bool × Option Int
  | 0 => projectEpochMillisecondsFromReference true referenceEpochMs
      evaluations.reference (evaluations.millis 0) maximumAgeMs
  | n + 1 => projectEpochMillisecondsFromReference (projected n).1
      referenceEpochMs evaluations.reference (evaluations.millis (n + 1))
      maximumAgeMs

variable {evaluations referenceEpochMs maximumAgeMs}

theorem since_eq_age (n : Nat) :
    Elapsed.since evaluations.reference evaluations.millis n =
      evaluations.age n := by
  have first := evaluations.first
  refine (Elapsed.since_ofNat ⟨first.1, by omega⟩ ?_ n).2
  intro m
  have apart := evaluations.apart m
  exact ⟨apart.1, by omega⟩

theorem projected_eq (n : Nat) :
    evaluations.projected referenceEpochMs maximumAgeMs n =
      (evaluations.fresh maximumAgeMs n,
        if evaluations.fresh maximumAgeMs n then
          some (referenceEpochMs +
            (evaluations.millis n - evaluations.reference).toNat)
        else none) := by
  induction n with
  | zero => exact projectEpochMillisecondsFromReference_eq ..
  | succ n induction =>
    rw [projected, induction]
    exact projectEpochMillisecondsFromReference_eq ..

theorem fresh_iff (bound : maximumAgeMs.toNat < 2 ^ 31) (n : Nat) :
    evaluations.fresh maximumAgeMs n = true ↔
      ∀ m ≤ n, evaluations.age m ≤ maximumAgeMs.toNat := by
  simp only [← since_eq_age]
  apply Elapsed.latch_iff
  · exact latchFreshness_eq ..
  · intro m
    exact latchFreshness_eq ..
  · intro m
    have apart := evaluations.apart m
    rw [millis, millis, Elapsed.ofNat_sub_toNat apart.1 (by omega)]
    omega

end Evaluations

/-- An evaluation finds the value fresh, and projects it to its true age, as
long as none has come above the maximum age. -/
theorem fresh_iff_never_aged (evaluations : Evaluations)
    (referenceEpochMs : Int) {maximumAgeMs : BitVec 32}
    (bound : maximumAgeMs.toNat < 2 ^ 31) (n : Nat) :
    (evaluations.fresh maximumAgeMs n = true ↔
        ∀ m ≤ n, evaluations.age m ≤ maximumAgeMs.toNat) ∧
      ((evaluations.projected referenceEpochMs maximumAgeMs n).2.isSome =
          true ↔ ∀ m ≤ n, evaluations.age m ≤ maximumAgeMs.toNat) ∧
      ∀ epochMs ∈ (evaluations.projected referenceEpochMs maximumAgeMs n).2,
        epochMs = referenceEpochMs + evaluations.age n := by
  have fresh := @Evaluations.fresh_iff evaluations maximumAgeMs bound n
  rw [Evaluations.projected_eq]
  refine ⟨fresh, ?_, ?_⟩
  · rw [← fresh]
    split <;> simp_all
  · intro epochMs answered
    simp only [Option.mem_def, Option.ite_none_right_eq_some] at answered
    obtain ⟨valid, same⟩ := answered
    cases same
    have young := fresh.mp valid n (Nat.le_refl n)
    have wrapped := @Elapsed.sub_toNat evaluations.millis
      evaluations.reference n
    rw [wrapped, Evaluations.since_eq_age, Nat.mod_eq_of_lt (by omega)]

/-- A value that is looked at once in two thousand million milliseconds, and
is too old from the second time on. -/
def Evaluations.sparse : Evaluations where
  setAt := 4000000000
  times n := 4000000000 + 2000000000 * n
  first := by decide
  apart n := by constructor <;> omega

theorem sparse_never_aged :
    Evaluations.sparse.fresh 1000 0 = true ∧
      Evaluations.sparse.fresh 1000 5 = false ∧
      (Evaluations.sparse.projected 7 1000 5).2.isSome = false ∧
      ∀ epochMs ∈ (Evaluations.sparse.projected 7 1000 0).2, epochMs = 7 := by
  have bound : (1000 : BitVec 32).toNat < 2 ^ 31 := by decide
  have first := fresh_iff_never_aged Evaluations.sparse 7 bound 0
  have fifth := fresh_iff_never_aged Evaluations.sparse 7 bound 5
  have aged : ¬ ∀ m ≤ 5, Evaluations.sparse.age m ≤ (1000 : BitVec 32).toNat :=
    fun young => absurd (young 1 (by decide)) (by decide)
  refine ⟨by decide, ?_, ?_, ?_⟩
  · exact Bool.eq_false_iff.mpr (mt fifth.1.mp aged)
  · exact Bool.eq_false_iff.mpr (mt fifth.2.1.mp aged)
  · intro epochMs answered
    rw [first.2.2 epochMs answered]
    decide

end Eki.Firmware
