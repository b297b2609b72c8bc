import Eki.Firmware.CString
import Mathlib.Data.List.TakeWhile
import Mathlib.Tactic.ByContra

/-!
# The delay of a Retry-After field

Seconds in decimal digits of any length, between blanks.
-/

namespace Eki.Firmware

def httpsRetryAfterMaxMs : BitVec 32 := 5 * 60 * 1000

def isBlank (byte : Byte) : Bool :=
  decide (byte = 32) || decide (byte = 9)

/-- The loop over the digits: the seconds, whether there was a digit, and what
is left. -/
def retrySeconds (seconds : BitVec 32) (hasDigit : Bool) :
    List Byte → BitVec 32 × Bool × List Byte
  | [] => (seconds, hasDigit, [])
  | byte :: rest =>
    if isDigit byte then
      let maximumSeconds := httpsRetryAfterMaxMs / 1000
      let digit := digitOf byte
      retrySeconds
        (if seconds > (maximumSeconds - digit) / 10 then maximumSeconds
          else seconds * 10 + digit)
        true rest
    else (seconds, hasDigit, byte :: rest)

def retryAfterDelayMs (value : Option CString) : BitVec 32 :=
  match value with
  | none => 0
  | some value =>
    let (seconds, hasDigit, rest) :=
      retrySeconds 0 false (value.bytes.dropWhile isBlank)
    if hasDigit = false ∨ rest.dropWhile isBlank ≠ [] then 0
    else if httpsRetryAfterMaxMs < seconds * 1000 then httpsRetryAfterMaxMs
    else seconds * 1000

def Delays (number : Nat) (bytes : List Byte) : Prop :=
  ∃ front digits back, bytes = front ++ (digits ++ back) ∧
    (∀ byte ∈ front, isBlank byte = true) ∧
    digits ≠ [] ∧ (∀ byte ∈ digits, isDigit byte = true) ∧
    (∀ byte ∈ back, isBlank byte = true) ∧ number = decimal digits

theorem isDigit_of_isBlank {byte : Byte} (blank : isBlank byte = true) :
    isDigit byte = false := by
  simp only [isBlank, Bool.or_eq_true, decide_eq_true_eq] at blank
  rcases blank with rfl | rfl
  · rfl
  · rfl

theorem saturated_digit {number : Nat} {seconds : BitVec 32} {byte : Byte}
    (same : seconds.toNat = min number 300) (digit : isDigit byte = true) :
    (if seconds > (httpsRetryAfterMaxMs / 1000 - digitOf byte) / 10 then
        httpsRetryAfterMaxMs / 1000
      else seconds * 10 + digitOf byte).toNat =
      min (number * 10 + (byte.toNat - 48)) 300 := by
  obtain ⟨value, small⟩ := digitOf_toNat digit
  have maximum : httpsRetryAfterMaxMs / 1000 = 300 := by decide
  have room : ((300 - digitOf byte) / 10 : BitVec 32).toNat =
      (300 - (byte.toNat - 48)) / 10 := by
    have below : digitOf byte ≤ 300 := by
      apply BitVec.le_def.mpr
      rw [value]
      exact Nat.le_trans small (by decide)
    rw [BitVec.toNat_udiv, BitVec.toNat_sub_of_le below, value]
    rfl
  rw [maximum]
  split
  · rename_i above
    have larger := BitVec.lt_def.mp above
    rw [room] at larger
    have whole : (300 : BitVec 32).toNat = 300 := rfl
    omega
  · rename_i fits
    have inside := BitVec.le_def.mp (BitVec.not_lt.mp fits)
    rw [room] at inside
    have ten : (10 : BitVec 32).toNat = 10 := rfl
    rw [BitVec.toNat_add, BitVec.toNat_mul, ten, value]
    omega

theorem retrySeconds_digits {digits : List Byte} {number : Nat}
    {seconds : BitVec 32} {hasDigit : Bool} (rest : List Byte)
    (same : seconds.toNat = min number 300)
    (all : ∀ byte ∈ digits, isDigit byte = true)
    (ends : ∀ byte ∈ rest.head?, isDigit byte = false) :
    ∃ reached, retrySeconds seconds hasDigit (digits ++ rest) =
        (reached, hasDigit || !digits.isEmpty, rest) ∧
      reached.toNat = min (decimalFrom number digits) 300 := by
  induction digits generalizing number seconds hasDigit with
  | nil =>
    refine ⟨seconds, ?_, same⟩
    cases rest with
    | nil => simp [retrySeconds]
    | cons byte rest =>
      simp [retrySeconds, ends byte rfl]
  | cons byte digits induction =>
    have digit := all byte List.mem_cons_self
    obtain ⟨reached, read, value⟩ :=
      @induction (number * 10 + (byte.toNat - 48)) _ true
        (saturated_digit same digit)
        (fun other member => all other (List.mem_cons_of_mem _ member))
    refine ⟨reached, ?_, value⟩
    rw [List.cons_append, retrySeconds, if_pos digit]
    simp only [read]
    simp

theorem retrySeconds_split (bytes : List Byte) :
    ∃ digits rest, bytes.dropWhile isBlank = digits ++ rest ∧
      (∀ byte ∈ digits, isDigit byte = true) ∧
      ∀ byte ∈ rest.head?, isDigit byte = false := by
  refine ⟨(bytes.dropWhile isBlank).takeWhile isDigit,
    (bytes.dropWhile isBlank).dropWhile isDigit,
    List.takeWhile_append_dropWhile.symm, ?_, ?_⟩
  · intro byte member
    exact List.mem_takeWhile_imp member
  · intro byte head
    have stops := List.head?_dropWhile_not isDigit (bytes.dropWhile isBlank)
    rw [head] at stops
    simpa using stops

theorem retryAfterDelayMs_of_split {value : CString}
    {digits rest : List Byte}
    (split : value.bytes.dropWhile isBlank = digits ++ rest)
    (all : ∀ byte ∈ digits, isDigit byte = true)
    (ends : ∀ byte ∈ rest.head?, isDigit byte = false) :
    (retryAfterDelayMs (some value)).toNat =
      if digits = [] ∨ rest.dropWhile isBlank ≠ [] then 0
      else min (decimal digits) 300 * 1000 := by
  obtain ⟨reached, read, value⟩ :=
    @retrySeconds_digits digits 0 0 false rest rfl all ends
  have none : (!digits.isEmpty) = false ↔ digits = [] := by
    simp
  simp only [retryAfterDelayMs, split, read, Bool.false_or, none]
  split
  · rfl
  · have bound := Nat.min_le_right (decimalFrom 0 digits) 300
    have product : (reached * 1000).toNat =
        min (decimalFrom 0 digits) 300 * 1000 := by
      have thousand : (1000 : BitVec 32).toNat = 1000 := rfl
      rw [BitVec.toNat_mul, thousand, value]
      omega
    rw [if_neg]
    · exact product
    · apply BitVec.not_lt.mpr
      apply BitVec.le_def.mpr
      rw [product]
      have limit : httpsRetryAfterMaxMs.toNat = 300000 := rfl
      omega

theorem Delays.split {number : Nat} {bytes : List Byte}
    (delays : Delays number bytes) :
    ∃ digits back, bytes.dropWhile isBlank = digits ++ back ∧
      digits ≠ [] ∧ (∀ byte ∈ digits, isDigit byte = true) ∧
      (∀ byte ∈ back.head?, isDigit byte = false) ∧
      back.dropWhile isBlank = [] ∧ number = decimal digits := by
  obtain ⟨front, digits, back, rfl, blank, some, all, blanks, rfl⟩ := delays
  refine ⟨digits, back, ?_, some, all, ?_, ?_, rfl⟩
  · rw [List.dropWhile_append_of_pos blank]
    cases digits with
    | nil => exact absurd rfl some
    | cons byte digits =>
      rw [List.cons_append, List.dropWhile_cons_of_neg]
      intro first
      have digit := all byte List.mem_cons_self
      rw [isDigit_of_isBlank first] at digit
      cases digit
  · intro byte head
    exact isDigit_of_isBlank (blanks byte (List.mem_of_head? head))
  · exact List.dropWhile_eq_nil_iff.mpr blanks

theorem retryAfterDelayMs_spec (value : CString) :
    (∀ number, Delays number value.bytes →
      (retryAfterDelayMs (some value)).toNat = min number 300 * 1000) ∧
    ((¬ ∃ number, Delays number value.bytes) →
      retryAfterDelayMs (some value) = 0) := by
  constructor
  · intro number delays
    obtain ⟨digits, back, split, some, all, ends, blanks, rfl⟩ := delays.split
    rw [retryAfterDelayMs_of_split split all ends, if_neg]
    simp [some, blanks]
  · intro none
    obtain ⟨digits, rest, split, all, ends⟩ := retrySeconds_split value.bytes
    apply BitVec.eq_of_toNat_eq
    rw [retryAfterDelayMs_of_split split all ends, if_pos]
    · rfl
    · by_contra both
      simp only [not_or, not_not] at both
      apply none
      refine ⟨decimal digits, value.bytes.takeWhile isBlank, digits, rest, ?_,
        ?_, both.1, all, ?_, rfl⟩
      · rw [← split, List.takeWhile_append_dropWhile]
      · intro byte member
        exact List.mem_takeWhile_imp member
      · exact List.dropWhile_eq_nil_iff.mp both.2

end Eki.Firmware
