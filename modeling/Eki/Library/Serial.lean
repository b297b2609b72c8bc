import Mathlib.Data.Nat.Basic

/-!
# Serial numbers

A counter of 32 bits that wraps around and skips zero, so that zero can mean
that there is no number.  The age of a number is how often the counter has
advanced since; within half of the range, the sign of a difference tells which
of two numbers is newer.
-/

namespace Serial

abbrev Number := BitVec 32

/-- How many numbers there are. -/
def period : Nat := 4294967295

def next (number : Number) : Number :=
  if number + 1 = 0 then 1 else number + 1

/-- The sign of the difference, as in `static_cast<int32_t>(a - b) > 0`. -/
def isNewer (first second : Number) : Bool :=
  decide (0 < (first - second).toInt)

/-- The place of a number in the cycle; zero stands before the first one. -/
def rank (number : Number) : Nat :=
  (number.toNat + (period - 1)) % period

/-- How often the counter advances from one number to another. -/
def age (top number : Number) : Nat :=
  (rank top + period - rank number) % period

theorem next_ne_zero (number : Number) : next number ≠ 0 := by
  unfold next
  split
  · decide
  · assumption

theorem rank_lt (number : Number) : rank number < period :=
  Nat.mod_lt _ (by decide)

theorem age_eq (top number : Number) :
    age top number =
      if rank number ≤ rank top then rank top - rank number
      else rank top + period - rank number := by
  have first := rank_lt top
  have second := rank_lt number
  unfold age
  unfold period at *
  split <;> omega

theorem age_self (number : Number) : age number number = 0 := by
  unfold age
  have bound := rank_lt number
  rw [Nat.add_sub_cancel_left, Nat.mod_self]

theorem rank_of_ne_zero {number : Number} (some : number ≠ 0) :
    rank number = number.toNat - 1 := by
  have positive : number.toNat ≠ 0 := by
    intro zero
    exact some (BitVec.eq_of_toNat_eq zero)
  have bound := number.isLt
  unfold rank period
  omega

theorem rank_next (number : Number) :
    rank (next number) = (rank number + 1) % period := by
  have bound := number.isLt
  have sum : (number + 1).toNat = (number.toNat + 1) % 4294967296 :=
    BitVec.toNat_add number 1
  unfold next
  split
  · rename_i wraps
    have zero : (number + 1).toNat = 0 := congrArg BitVec.toNat wraps
    have one : rank 1 = 0 := by decide
    rw [one]
    unfold rank period
    omega
  · rename_i stays
    rw [rank_of_ne_zero stays, sum]
    have positive : (number + 1).toNat ≠ 0 := by
      intro zero
      exact stays (BitVec.eq_of_toNat_eq zero)
    unfold rank period
    omega

/-- Everything grows older by one. -/
theorem age_next {top number : Number} (young : age top number + 1 < period) :
    age (next top) number = age top number + 1 := by
  have first := rank_lt top
  have second := rank_lt number
  unfold age at young ⊢
  rw [rank_next]
  unfold period at *
  omega

theorem age_sub {top first second : Number}
    (older : age top first ≤ age top second) :
    age first second = age top second - age top first := by
  have bound := rank_lt top
  have boundFirst := rank_lt first
  have boundSecond := rank_lt second
  unfold age at older ⊢
  unfold period at *
  omega

/-- Within half of the range the sign of the difference compares ages. -/
theorem isNewer_iff {top first second : Number} (left : first ≠ 0)
    (right : second ≠ 0) (young : age top first < 2147483647)
    (youngToo : age top second < 2147483647) :
    isNewer first second = true ↔ age top first < age top second := by
  have bound := first.isLt
  have boundToo := second.isLt
  have difference : (first - second).toNat =
      (4294967296 - second.toNat + first.toNat) % 4294967296 :=
    BitVec.toNat_sub first second
  have signed := BitVec.toInt_eq_toNat_cond (first - second)
  have leftNat : first.toNat ≠ 0 := by
    intro zero
    exact left (BitVec.eq_of_toNat_eq zero)
  have rightNat : second.toNat ≠ 0 := by
    intro zero
    exact right (BitVec.eq_of_toNat_eq zero)
  have topBound := rank_lt top
  have wraps : (first - second).toNat =
      if second.toNat ≤ first.toNat then first.toNat - second.toNat
      else 4294967296 + first.toNat - second.toNat := by
    rw [difference]
    split <;> omega
  unfold isNewer
  rw [decide_eq_true_eq]
  rw [age_eq, rank_of_ne_zero left] at young ⊢
  rw [age_eq, rank_of_ne_zero right] at youngToo ⊢
  unfold period at *
  rw [wraps] at signed
  split_ifs at young youngToo signed ⊢ <;> omega

/-- The number that is reached after this many steps. -/
def advance (number : Number) : Nat → Number
  | 0 => number
  | steps + 1 => next (advance number steps)

theorem advance_ne_zero {number : Number} (some : number ≠ 0) (steps : Nat) :
    advance number steps ≠ 0 := by
  cases steps with
  | zero => exact some
  | succ steps => exact next_ne_zero _

theorem rank_advance (number : Number) (steps : Nat) :
    rank (advance number steps) = (rank number + steps) % period := by
  induction steps with
  | zero =>
    unfold advance
    rw [Nat.add_zero, Nat.mod_eq_of_lt (rank_lt number)]
  | succ steps induction =>
    unfold advance
    rw [rank_next, induction, Nat.mod_add_mod, Nat.add_assoc]

theorem advance_inj {number : Number} {first second : Nat}
    (before : first < second) (close : second < first + period) :
    advance number first ≠ advance number second := by
  intro same
  have ranks := congrArg rank same
  rw [rank_advance, rank_advance] at ranks
  have bound := rank_lt number
  unfold period at *
  omega

/-- The first numbers after one, the last of them first. -/
def issued (number : Number) : Nat → List Number
  | 0 => []
  | count + 1 => advance number (count + 1) :: issued number count

theorem mem_issued {number reached : Number} {count : Nat}
    (member : reached ∈ issued number count) :
    ∃ steps, 0 < steps ∧ steps ≤ count ∧ reached = advance number steps := by
  induction count with
  | zero => cases member
  | succ count induction =>
    rcases List.mem_cons.mp member with rfl | before
    · exact ⟨count + 1, Nat.succ_pos _, Nat.le_refl _, rfl⟩
    · obtain ⟨steps, positive, bounded, same⟩ := induction before
      exact ⟨steps, positive, Nat.le_succ_of_le bounded, same⟩

theorem issued_nodup (number : Number) {count : Nat}
    (few : count ≤ period) : (issued number count).Nodup := by
  induction count with
  | zero => exact List.nodup_nil
  | succ count induction =>
    apply List.nodup_cons.mpr
    constructor
    · intro again
      obtain ⟨steps, positive, bounded, same⟩ := mem_issued again
      apply advance_inj (Nat.lt_succ_of_le bounded) _ same.symm
      omega
    · exact induction (Nat.le_of_succ_le few)

end Serial
