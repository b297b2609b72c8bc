import Mathlib.Data.Nat.Find

/-!
# Elapsed time on a wrapping clock

Readings of an unsigned clock of 32 bits.  As long as no reading jumps over the
rest of a period, the unsigned difference to the first one tells that a time is
over.
-/

namespace Elapsed

variable {now : Nat → BitVec 32} {first : BitVec 32}

/-- The time from the first reading to a later one. -/
def since (first : BitVec 32) (now : Nat → BitVec 32) : Nat → Nat
  | 0 => (now 0 - first).toNat
  | n + 1 => since first now n + (now (n + 1) - now n).toNat

/-- The difference is the time, up to periods. -/
theorem sub_toNat (n : Nat) :
    (now n - first).toNat = since first now n % 4294967296 := by
  induction n with
  | zero =>
    rw [since]
    exact (Nat.mod_eq_of_lt (now 0 - first).isLt).symm
  | succ n induction =>
    have split : now (n + 1) - first =
        (now n - first) + (now (n + 1) - now n) := by
      grind
    rw [split, BitVec.toNat_add, induction, since, Nat.mod_add_mod]

theorem since_mono {n m : Nat} (later : n ≤ m) :
    since first now n ≤ since first now m := by
  induction later with
  | refl => exact Nat.le_refl _
  | step _ induction => exact Nat.le_trans induction (Nat.le_add_right _ _)

theorem exists_le_since (goes : ∀ n, ∃ m, n ≤ m ∧ now m ≠ now n)
    (time : Nat) : ∃ n, time ≤ since first now n := by
  induction time with
  | zero => exact ⟨0, Nat.zero_le _⟩
  | succ time induction =>
    obtain ⟨n, reached⟩ := induction
    obtain ⟨m, later, changed⟩ := goes n
    refine ⟨m, Nat.lt_of_le_of_ne (Nat.le_trans reached (since_mono later)) ?_⟩
    intro same
    apply changed
    have equal : since first now m = since first now n :=
      Nat.le_antisymm (Nat.le_trans (Nat.le_of_eq same.symm) reached)
        (since_mono later)
    have differences : now m - first = now n - first := by
      apply BitVec.eq_of_toNat_eq
      rw [sub_toNat, sub_toNat, equal]
    grind

/-- The difference reaches a limit that no reading jumps over. -/
theorem exists_le_sub (goes : ∀ n, ∃ m, n ≤ m ∧ now m ≠ now n)
    {limit : BitVec 32}
    (steps : ∀ n, (now (n + 1) - now n).toNat + limit.toNat < 4294967296) :
    ∃ n, limit ≤ now n - first := by
  have passes := @exists_le_since now first goes limit.toNat
  classical
  refine ⟨Nat.find passes, ?_⟩
  have reached := Nat.find_spec passes
  apply BitVec.le_def.mpr
  rw [sub_toNat]
  cases found : Nat.find passes with
  | zero =>
    rw [found] at reached
    rw [since, Nat.mod_eq_of_lt (now 0 - first).isLt]
    exact reached
  | succ n =>
    rw [found] at reached
    have before := Nat.find_min passes
      (Nat.lt_of_lt_of_eq (Nat.lt_succ_self n) found.symm)
    have step := steps n
    rw [since] at reached ⊢
    omega

/-- A clock that is read modulo a period tells how far it has come since. -/
theorem ofNat_sub_toNat {start time : Nat} (later : start ≤ time)
    (near : time - start < 4294967296) :
    (BitVec.ofNat 32 time - BitVec.ofNat 32 start).toNat = time - start := by
  simp only [BitVec.toNat_sub, BitVec.toNat_ofNat]
  omega

theorem since_ofNat {start : Nat} {times : Nat → Nat}
    (first : start ≤ times 0 ∧ times 0 - start < 4294967296)
    (steps : ∀ n, times n ≤ times (n + 1) ∧
      times (n + 1) - times n < 4294967296) (n : Nat) :
    start ≤ times n ∧
      since (BitVec.ofNat 32 start) (fun n => BitVec.ofNat 32 (times n)) n =
        times n - start := by
  induction n with
  | zero => exact ⟨first.1, ofNat_sub_toNat first.1 first.2⟩
  | succ n induction =>
    obtain ⟨later, same⟩ := induction
    obtain ⟨goes, near⟩ := steps n
    refine ⟨Nat.le_trans later goes, ?_⟩
    rw [since, same, ofNat_sub_toNat goes near]
    omega

/-- A flag that falls with the first difference above a limit, and then stays
down, stands as long as no reading came later than the limit: the reading that
passes the limit is too near to it for its difference to start anew. -/
theorem latch_iff {flag : Nat → Bool} {limit : Nat}
    (start : flag 0 = decide ((now 0 - first).toNat ≤ limit))
    (next : ∀ n, flag (n + 1) =
      (flag n && decide ((now (n + 1) - first).toNat ≤ limit)))
    (steps : ∀ n, limit + (now (n + 1) - now n).toNat < 4294967296)
    (n : Nat) : flag n = true ↔ ∀ m ≤ n, since first now m ≤ limit := by
  induction n with
  | zero => simp [start, since]
  | succ n induction =>
    rw [next, Bool.and_eq_true, induction, decide_eq_true_eq]
    have difference := @sub_toNat now first (n + 1)
    have step := steps n
    constructor
    · rintro ⟨fresh, young⟩ m reached
      rcases Nat.le_succ_iff.mp reached with earlier | rfl
      · exact fresh m earlier
      · have before := fresh n (Nat.le_refl n)
        rw [since] at difference ⊢
        omega
    · intro fresh
      have last := fresh (n + 1) (Nat.le_refl _)
      refine ⟨fun m earlier => fresh m (Nat.le_succ_of_le earlier), ?_⟩
      omega

end Elapsed
