/-!
# Strings of C

What a `const char *` points at when it is not null.
-/

namespace Eki.Firmware

abbrev Byte := BitVec 8

structure CString where
  bytes : List Byte
  terminated : 0 ∉ bytes
deriving DecidableEq

/-- `*cursor >= '0' && *cursor <= '9'` -/
def isDigit (byte : Byte) : Bool :=
  decide (48 ≤ byte.toNat) && decide (byte.toNat ≤ 57)

/-- `*cursor - '0'`, of a digit. -/
def digitOf (byte : Byte) : BitVec 32 :=
  (byte - 48).setWidth 32

/-- The number that decimal digits spell after those of another one. -/
def decimalFrom (number : Nat) (bytes : List Byte) : Nat :=
  bytes.foldl (fun number byte => number * 10 + (byte.toNat - 48)) number

def decimal (bytes : List Byte) : Nat :=
  decimalFrom 0 bytes

theorem digitOf_toNat {byte : Byte} (digit : isDigit byte = true) :
    (digitOf byte).toNat = byte.toNat - 48 ∧ byte.toNat - 48 ≤ 9 := by
  simp only [isDigit, Bool.and_eq_true, decide_eq_true_eq] at digit
  have bound := byte.isLt
  have low : (48 : Byte) ≤ byte := by
    apply BitVec.le_def.mpr
    exact digit.1
  have difference : (byte - 48).toNat = byte.toNat - 48 :=
    BitVec.toNat_sub_of_le low
  rw [digitOf, BitVec.toNat_setWidth, difference]
  omega

end Eki.Firmware
