import Eki.Routing.PolylineUtils
import Mathlib.Tactic.Positivity

/-!
# The polyline codec round-trips

A coordinate is a group of characters that carry five bits each.  What the
encoder writes for a number is the group of the number, and what the decoder
reads is the number of a group.
-/

namespace Eki.Polyline

/-! ## Groups -/

/-- Characters that announce another one, and a last one that does not. -/
inductive Group : List CodeUnit → Prop where
  | last (unit : CodeUnit) (low : 63 ≤ unit.toNat) (high : unit.toNat ≤ 94) :
      Group [unit]
  | more {rest : List CodeUnit} (unit : CodeUnit) (low : 95 ≤ unit.toNat)
      (high : unit.toNat ≤ 126) (tail : Group rest) : Group (unit :: rest)

/-- The five bits of a character. -/
def payload (unit : CodeUnit) : Nat :=
  (unit.toNat - 63) % 32

/-- The number that a group spells, the lowest bits first. -/
def raw : List CodeUnit → Nat
  | [] => 0
  | unit :: rest => payload unit + 32 * raw rest

/-- The signed number of a group; bits beyond the 32nd are lost. -/
def groupValue (group : List CodeUnit) : Int :=
  unfolded (BitVec.ofNat 32 (raw group))

theorem byte_toNat (unit : CodeUnit) (low : 63 ≤ unit.toNat)
    (high : unit.toNat ≤ 126) :
    (BitVec.ofInt 32 ((unit.toNat : Int) - 63) &&& 0x1f).toNat =
      payload unit := by
  have whole : (unit.toNat : Int) - 63 = ((unit.toNat - 63 : Nat) : Int) := by
    omega
  have mask : (0x1f : BitVec 32).toNat = 2 ^ 5 - 1 := rfl
  rw [whole, BitVec.ofInt_natCast, BitVec.toNat_and, BitVec.toNat_ofNat, mask,
    Nat.and_two_pow_sub_one_eq_mod, payload]
  omega

variable {low shift : Nat}

theorem or_shiftLeft_eq {bits : Nat} {byte : BitVec 32}
    (below : low < 2 ^ shift) (small : shift < 32) (same : byte.toNat = bits) :
    BitVec.ofNat 32 low ||| (byte <<< shift) =
      BitVec.ofNat 32 (low + 2 ^ shift * bits) := by
  apply BitVec.eq_of_toNat_eq
  have width : (2 : Nat) ^ shift ≤ 2 ^ 32 :=
    Nat.pow_le_pow_right (by decide) (Nat.le_of_lt small)
  have fits : low < 2 ^ 32 := Nat.lt_of_lt_of_le below width
  rw [BitVec.toNat_or, BitVec.toNat_shiftLeft, BitVec.toNat_ofNat,
    BitVec.toNat_ofNat, same, ← Nat.or_mod_two_pow, Nat.or_comm,
    ← Nat.shiftLeft_add_eq_or_of_lt below, Nat.shiftLeft_eq]
  congr 1
  rw [Nat.mul_comm, Nat.add_comm]

variable {rest : List CodeUnit}

/-- One round of the decoder's loop adds the bits of a character. -/
theorem decodeFrom_cons {unit : CodeUnit} (below : low < 2 ^ shift)
    (small : shift ≤ 30) (first : 63 ≤ unit.toNat) (final : unit.toNat ≤ 126) :
    decodeFrom (BitVec.ofNat 32 low) shift (unit :: rest) =
      if unit.toNat ≤ 94 then
        .ok (unfolded (BitVec.ofNat 32 (low + 2 ^ shift * payload unit)), rest)
      else
        decodeFrom (BitVec.ofNat 32 (low + 2 ^ shift * payload unit))
          (shift + 5) rest := by
  rw [decodeFrom, if_neg (by omega),
    or_shiftLeft_eq below (by omega) (byte_toNat unit first final)]
  split
  · rw [if_pos (by omega)]
  · rw [if_neg (by omega)]

theorem payload_lt (unit : CodeUnit) : payload unit < 32 :=
  Nat.mod_lt _ (by decide)

/-- The bits so far and those of one more character. -/
theorem add_payload_lt (below : low < 2 ^ shift) (unit : CodeUnit) :
    low + 2 ^ shift * payload unit < 2 ^ (shift + 5) := by
  have bound := payload_lt unit
  calc
    low + 2 ^ shift * payload unit < 2 ^ shift + 2 ^ shift * payload unit :=
      Nat.add_lt_add_right below _
    _ = 2 ^ shift * (1 + payload unit) := by rw [Nat.mul_add, Nat.mul_one]
    _ ≤ 2 ^ shift * 32 := Nat.mul_le_mul_left _ (by omega)
    _ = 2 ^ (shift + 5) := by rw [Nat.pow_add]

theorem decodeFrom_group {group rest : List CodeUnit} {low shift : Nat}
    (isGroup : Group group) (below : low < 2 ^ shift)
    (short : shift + 5 * group.length ≤ 35) :
    decodeFrom (BitVec.ofNat 32 low) shift (group ++ rest) =
      .ok (unfolded (BitVec.ofNat 32 (low + 2 ^ shift * raw group)), rest) := by
  induction isGroup generalizing low shift with
  | last unit first final =>
    simp only [List.length_singleton] at short
    rw [List.singleton_append,
      decodeFrom_cons below (by omega) first (by omega), if_pos final]
    simp [raw]
  | @more tail unit first final isGroup induction =>
    simp only [List.length_cons] at short
    rw [List.cons_append,
      decodeFrom_cons below (by omega) (by omega) final,
      if_neg (by omega), induction (add_payload_lt below unit) (by omega)]
    have sum : low + 2 ^ shift * payload unit + 2 ^ (shift + 5) * raw tail =
        low + 2 ^ shift * raw (unit :: tail) := by
      rw [raw, Nat.pow_add, Nat.mul_add, Nat.add_assoc, Nat.mul_assoc]
    rw [sum]

variable {encoded : List CodeUnit}

/-- What the decoder accepts begins with a group that is short enough. -/
theorem group_of_decodeFrom {value : Int} {result : BitVec 32}
    (decoded : decodeFrom result shift encoded = .ok (value, rest)) :
    ∃ group, Group group ∧ encoded = group ++ rest ∧
      shift + 5 * group.length ≤ 35 := by
  induction encoded generalizing result shift with
  | nil => cases decoded
  | cons unit tail induction =>
    simp only [decodeFrom] at decoded
    split at decoded
    · cases decoded
    · rename_i valid
      simp only [not_or, Int.not_lt, gt_iff_lt] at valid
      obtain ⟨low, high, small⟩ := valid
      split at decoded
      · rename_i final
        cases decoded
        refine ⟨[unit], .last unit (by omega) (by omega), rfl, ?_⟩
        simp only [List.length_singleton]
        omega
      · rename_i continued
        obtain ⟨group, isGroup, rfl, short⟩ := induction decoded
        refine ⟨unit :: group, .more unit (by omega) (by omega) isGroup,
          rfl, ?_⟩
        simp only [List.length_cons]
        omega

theorem decodeCoordinate_group {group : List CodeUnit} (isGroup : Group group)
    (short : group.length ≤ 7) (rest : List CodeUnit) :
    decodeCoordinate (group ++ rest) = .ok (groupValue group, rest) := by
  have decoded :=
    @decodeFrom_group group rest 0 0 isGroup (by decide) (by omega)
  rw [Nat.pow_zero, Nat.one_mul, Nat.zero_add] at decoded
  exact decoded

theorem group_of_decodeCoordinate {value : Int}
    (decoded : decodeCoordinate encoded = .ok (value, rest)) :
    ∃ group, Group group ∧ group.length ≤ 7 ∧ encoded = group ++ rest ∧
      value = groupValue group := by
  obtain ⟨group, isGroup, rfl, short⟩ := group_of_decodeFrom decoded
  have few : group.length ≤ 7 := by omega
  rw [decodeCoordinate_group isGroup few] at decoded
  cases decoded
  exact ⟨group, isGroup, few, rfl, rfl⟩

/-! ## Numbers -/

theorem toInt_not (value : BitVec 32) :
    (~~~value).toInt = -1 - value.toInt := by
  have flipped : (~~~value).toNat = 2 ^ 32 - 1 - value.toNat :=
    BitVec.toNat_not
  have bound := value.isLt
  have before := BitVec.toInt_eq_toNat_cond value
  have after := BitVec.toInt_eq_toNat_cond (~~~value)
  split at before <;> split at after <;> omega

theorem and_one_ne_zero_iff (value : BitVec 32) :
    value &&& 1 ≠ 0 ↔ value.toInt % 2 = 1 := by
  have bit : (value &&& 1).toNat = value.toNat % 2 := by
    rw [BitVec.toNat_and]
    exact Nat.and_one_is_mod _
  have zero : (0 : BitVec 32).toNat = 0 := rfl
  have cond := BitVec.toInt_eq_toNat_cond value
  rw [Ne, ← BitVec.toNat_inj, bit, zero]
  split at cond <;> omega

variable {delta : Int}

/-- Folding writes the sign into the lowest bit. -/
theorem folded_toInt (low : -1073741824 ≤ delta) (high : delta < 1073741824) :
    (folded delta).toInt =
      if delta < 0 then -2 * delta - 1 else 2 * delta := by
  have shifted : (BitVec.ofInt 32 delta <<< 1).toInt = 2 * delta := by
    have two : BitVec.twoPow 32 1 = BitVec.ofInt 32 2 := by decide
    rw [BitVec.shiftLeft_eq_mul_twoPow, two, ← BitVec.ofInt_mul,
      BitVec.toInt_ofInt_eq_self (by decide) (by omega) (by omega)]
    exact Int.mul_comm _ _
  rw [folded]
  split
  · rw [toInt_not, shifted]
    omega
  · exact shifted

theorem unfolded_eq (value : BitVec 32) :
    unfolded value =
      if value.toInt % 2 = 1 then -1 - value.toInt / 2
      else value.toInt / 2 := by
  have half : (value.sshiftRight 1).toInt = value.toInt / 2 := by
    rw [BitVec.toInt_sshiftRight, Int.shiftRight_eq_div_pow]
    rfl
  rw [unfolded]
  by_cases odd : value.toInt % 2 = 1
  · rw [if_pos ((and_one_ne_zero_iff value).mpr odd), if_pos odd, toInt_not,
      half]
  · rw [if_neg (fun bit => odd ((and_one_ne_zero_iff value).mp bit)),
      if_neg odd, half]

theorem unfolded_folded (low : -1073741824 ≤ delta)
    (high : delta < 1073741824) : unfolded (folded delta) = delta := by
  rw [unfolded_eq, folded_toInt low high]
  split <;> split <;> omega

/-! ## What the encoder writes -/

theorem toNat_of_nonneg {value : BitVec 32} (positive : 0 ≤ value.toInt) :
    (value.toNat : Int) = value.toInt ∧ value.toNat < 2147483648 := by
  have cond := BitVec.toInt_eq_toNat_cond value
  have bound := value.isLt
  split at cond <;> omega

theorem low_bits (value : BitVec 32) :
    (0x20 ||| (value &&& 0x1f)).toNat = 32 + value.toNat % 32 := by
  have mask : (0x1f : BitVec 32).toNat = 2 ^ 5 - 1 := rfl
  have flag : (0x20 : BitVec 32).toNat = 2 ^ 5 * 1 := rfl
  have small : value.toNat % 2 ^ 5 < 2 ^ 5 := Nat.mod_lt _ (by decide)
  rw [BitVec.toNat_or, BitVec.toNat_and, mask, flag,
    Nat.and_two_pow_sub_one_eq_mod, ← Nat.two_pow_add_eq_or_of_lt small]
  rfl

/-- A character with five bits of a number and more to come. -/
theorem continued_toNat (value : BitVec 32) :
    (BitVec.ofInt 16 ((0x20 ||| (value &&& 0x1f)).toInt + 63)).toNat =
      95 + value.toNat % 32 := by
  have bits := low_bits value
  have cond := BitVec.toInt_eq_toNat_cond (0x20 ||| (value &&& 0x1f))
  rw [bits] at cond
  rw [if_pos (by omega)] at cond
  rw [cond, BitVec.toNat_ofInt]
  omega

theorem final_toNat {value : BitVec 32} (positive : 0 ≤ value.toInt)
    (short : value.toInt < 32) :
    (BitVec.ofInt 16 (value.toInt + 63)).toNat = 63 + value.toNat := by
  have same := (toNat_of_nonneg positive).1
  rw [BitVec.toNat_ofInt]
  omega

theorem sshiftRight_five_toInt (value : BitVec 32) :
    (value.sshiftRight 5).toInt = value.toInt / 32 := by
  rw [BitVec.toInt_sshiftRight, Int.shiftRight_eq_div_pow]
  rfl

theorem encodeValue_spec (value : BitVec 32) (positive : 0 ≤ value.toInt) :
    Group (encodeValue value) ∧ (raw (encodeValue value) : Int) =
      value.toInt := by
  induction value using encodeValue.induct with
  | case1 value long induction =>
    have shifted := sshiftRight_five_toInt value
    obtain ⟨isGroup, same⟩ := induction (by omega)
    have unit := continued_toNat value
    have natural := (toNat_of_nonneg positive).1
    rw [encodeValue, if_pos long]
    constructor
    · exact .more _ (by omega) (by omega) isGroup
    · rw [raw, payload, unit]
      omega
  | case2 value short =>
    have unit := final_toNat positive (by omega)
    have natural := (toNat_of_nonneg positive).1
    rw [encodeValue, if_neg short]
    constructor
    · exact .last _ (by omega) (by omega)
    · rw [raw, raw, payload, unit]
      omega

theorem encodeValue_length {value : BitVec 32} {count : Nat}
    (positive : 0 ≤ value.toInt) (small : value.toInt < 32 ^ (count + 1)) :
    (encodeValue value).length ≤ count + 1 := by
  induction count generalizing value with
  | zero =>
    rw [encodeValue, if_neg (by omega)]
    exact Nat.le_refl 1
  | succ count induction =>
    rw [encodeValue]
    split
    · have shifted := sshiftRight_five_toInt value
      apply Nat.succ_le_succ
      apply induction
      · omega
      · rw [shifted]
        apply Int.ediv_lt_of_lt_mul (by decide)
        rw [← Int.pow_succ]
        exact small
    · simp

/-- Reading back what was written for a difference. -/
theorem decodeCoordinate_encodeValue (low : -1073741824 ≤ delta)
    (high : delta < 1073741824) (rest : List CodeUnit) :
    decodeCoordinate (encodeValue (folded delta) ++ rest) =
      .ok (delta, rest) := by
  have value := folded_toInt low high
  have positive : 0 ≤ (folded delta).toInt := by
    split at value <;> omega
  obtain ⟨isGroup, same⟩ := encodeValue_spec _ positive
  have short : (encodeValue (folded delta)).length ≤ 6 + 1 := by
    apply encodeValue_length positive
    have bound := (toNat_of_nonneg positive).2
    have natural := (toNat_of_nonneg positive).1
    omega
  have natural : raw (encodeValue (folded delta)) = (folded delta).toNat := by
    have natural := (toNat_of_nonneg positive).1
    omega
  rw [decodeCoordinate_group isGroup short, groupValue, natural,
    BitVec.ofNat_toNat, BitVec.setWidth_eq, unfolded_folded low high]

/-! ## Points -/

/-- A place on the globe. -/
def InRange (point : LatLng) : Prop :=
  |point.lat| ≤ 90 ∧ |point.lng| ≤ 180

def rounded (point : LatLng) : LatLng where
  lat := degrees (mathRound (point.lat * 100000))
  lng := degrees (mathRound (point.lng * 100000))

theorem outside_eq_false_iff (point : LatLng) :
    outside point = false ↔ InRange point := by
  simp [outside, InRange]

theorem mathRound_le {x : ℚ} {bound : Nat} (near : |x| ≤ bound) :
    |mathRound (x * 100000)| ≤ (bound * 100000 : Int) := by
  obtain ⟨low, high⟩ := abs_le.mp near
  rw [mathRound]
  apply abs_le.mpr
  constructor
  · apply Int.le_floor.mpr
    push_cast
    linarith
  · apply Int.lt_add_one_iff.mp
    apply Int.floor_lt.mpr
    push_cast
    linarith

theorem abs_degrees_le {units : Int} {bound : Nat}
    (near : |units| ≤ (bound * 100000 : Int)) : |degrees units| ≤ bound := by
  obtain ⟨low, high⟩ := abs_le.mp near
  have lower : (-(bound * 100000 : Int) : ℚ) ≤ units := by exact_mod_cast low
  have upper : (units : ℚ) ≤ (bound * 100000 : Int) := by exact_mod_cast high
  push_cast at lower upper
  rw [degrees]
  apply abs_le.mpr
  constructor
  · rw [le_div_iff₀ (by norm_num)]
    linarith
  · rw [div_le_iff₀ (by norm_num)]
    linarith

theorem rounded_inRange {point : LatLng} (inRange : InRange point) :
    InRange (rounded point) := by
  constructor
  · exact abs_degrees_le (@mathRound_le _ 90 inRange.1)
  · exact abs_degrees_le (@mathRound_le _ 180 inRange.2)

variable {lat lng : Int}

/-- One round of the loop over a string that has not ended. -/
theorem decodePoints_next {middle : List CodeUnit} {northward eastward : Int}
    (latitude : decodeCoordinate encoded = .ok (northward, middle))
    (longitude : decodeCoordinate middle = .ok (eastward, rest)) :
    decodePoints lat lng encoded =
      if outside
          { lat := degrees (lat + northward)
            lng := degrees (lng + eastward) } then
        .error "Encoded polyline contains invalid coordinates"
      else
        (decodePoints (lat + northward) (lng + eastward) rest).map
          ({ lat := degrees (lat + northward)
             lng := degrees (lng + eastward) } :: ·) := by
  cases encoded with
  | nil => cases latitude
  | cons unit tail =>
    rw [decodePoints]
    split
    · rename_i refused
      rw [latitude] at refused
      cases refused
    · rename_i read
      rw [latitude] at read
      cases read
      split
      · rename_i refused
        rw [longitude] at refused
        cases refused
      · rename_i read
        rw [longitude] at read
        cases read
        rfl

/-- The decoder reads the points back from wherever the encoder stood. -/
theorem decodePoints_encodePoints {coords : List LatLng} {lat lng : Int}
    (latBound : |lat| ≤ 9000000) (lngBound : |lng| ≤ 18000000)
    (inRange : ∀ point ∈ coords, InRange point) :
    decodePoints lat lng (encodePoints lat lng coords) =
      .ok (coords.map rounded) := by
  induction coords generalizing lat lng with
  | nil => rw [encodePoints, decodePoints, List.map_nil]
  | cons point coords induction =>
    have here := inRange point List.mem_cons_self
    have latNext := @mathRound_le _ 90 here.1
    have lngNext := @mathRound_le _ 180 here.2
    obtain ⟨latLow, latHigh⟩ := abs_le.mp latBound
    obtain ⟨lngLow, lngHigh⟩ := abs_le.mp lngBound
    obtain ⟨latNextLow, latNextHigh⟩ := abs_le.mp latNext
    obtain ⟨lngNextLow, lngNextHigh⟩ := abs_le.mp lngNext
    have later := induction latNext lngNext
      fun other member => inRange other (List.mem_cons_of_mem _ member)
    have kept : outside (rounded point) = false :=
      (outside_eq_false_iff _).mpr (rounded_inRange here)
    rw [encodePoints,
      decodePoints_next
        (decodeCoordinate_encodeValue (by omega) (by omega) _)
        (decodeCoordinate_encodeValue (by omega) (by omega) _),
      add_sub_cancel, add_sub_cancel, later]
    simp only [rounded] at kept
    rw [if_neg (by rw [kept]; exact Bool.false_ne_true)]
    rfl

/-- Every coordinate comes back as the nearest multiple of 1e-5 degrees. -/
theorem decodePolyline_encodePolyline {coords : List LatLng}
    (inRange : ∀ point ∈ coords, InRange point) :
    decodePolyline (encodePolyline coords) = .ok (coords.map rounded) := by
  have decoded := @decodePoints_encodePoints coords 0 0 (by decide) (by decide)
    inRange
  rw [decodePolyline]
  split
  · rename_i empty
    have nothing : encodePoints 0 0 coords = [] := List.isEmpty_iff.mp empty
    rw [nothing, decodePoints] at decoded
    exact decoded
  · exact decoded

/-! ## What is accepted -/

/-- A string that goes on from a place in pairs of groups and stays within the
globe. -/
inductive WellFormed : Int → Int → List CodeUnit → Prop where
  | done (lat lng : Int) : WellFormed lat lng []
  | point {lat lng : Int} {latitude longitude rest : List CodeUnit}
      (latGroup : Group latitude) (latShort : latitude.length ≤ 7)
      (lngGroup : Group longitude) (lngShort : longitude.length ≤ 7)
      (latRange : |lat + groupValue latitude| ≤ 9000000)
      (lngRange : |lng + groupValue longitude| ≤ 18000000)
      (later : WellFormed (lat + groupValue latitude)
        (lng + groupValue longitude) rest) :
      WellFormed lat lng (latitude ++ (longitude ++ rest))

/-- A point that a string can spell. -/
def OnGrid (point : LatLng) : Prop :=
  InRange point ∧ rounded point = point

theorem mathRound_degrees (units : Int) :
    mathRound (degrees units * 100000) = units := by
  rw [mathRound, degrees, div_mul_cancel₀ _ (by norm_num)]
  apply Int.floor_eq_iff.mpr
  constructor <;> linarith

theorem inRange_degrees_iff :
    InRange
        { lat := degrees lat
          lng := degrees lng } ↔
      |lat| ≤ 9000000 ∧ |lng| ≤ 18000000 := by
  constructor
  · intro inRange
    have latitude := @mathRound_le _ 90 inRange.1
    have longitude := @mathRound_le _ 180 inRange.2
    rw [mathRound_degrees] at latitude longitude
    exact ⟨latitude, longitude⟩
  · intro near
    exact ⟨@abs_degrees_le _ 90 near.1, @abs_degrees_le _ 180 near.2⟩

theorem decodePoints_of_wellFormed (wellFormed : WellFormed lat lng encoded) :
    ∃ points, decodePoints lat lng encoded = .ok points := by
  induction wellFormed with
  | done lat lng => exact ⟨[], by rw [decodePoints]⟩
  | @point lat lng latitude longitude rest latGroup latShort lngGroup lngShort
      latRange lngRange later induction =>
      obtain ⟨points, decoded⟩ := induction
      have kept := (outside_eq_false_iff _).mpr
        (inRange_degrees_iff.mpr ⟨latRange, lngRange⟩)
      rw [decodePoints_next (decodeCoordinate_group latGroup latShort _)
        (decodeCoordinate_group lngGroup lngShort _), kept, decoded]
      exact ⟨_, rfl⟩

variable {points : List LatLng}

theorem decodePoints_reads {unit : CodeUnit} {tail : List CodeUnit}
    (decoded : decodePoints lat lng (unit :: tail) = .ok points) :
    ∃ northward middle eastward rest,
      decodeCoordinate (unit :: tail) = .ok (northward, middle) ∧
        decodeCoordinate middle = .ok (eastward, rest) := by
  rw [decodePoints] at decoded
  split at decoded
  · cases decoded
  · rename_i northward middle latitude
    split at decoded
    · cases decoded
    · rename_i eastward rest longitude
      exact ⟨northward, middle, eastward, rest, latitude, longitude⟩

theorem wellFormed_of_decodePoints
    (decoded : decodePoints lat lng encoded = .ok points) :
    WellFormed lat lng encoded ∧ ∀ point ∈ points, OnGrid point := by
  induction size : encoded.length using Nat.strongRecOn
    generalizing lat lng encoded points with
  | ind count induction =>
    cases encoded with
    | nil =>
      rw [decodePoints] at decoded
      cases decoded
      refine ⟨.done lat lng, ?_⟩
      intro point member
      cases member
    | cons unit tail =>
      obtain ⟨northward, middle, eastward, rest, latitude, longitude⟩ :=
        decodePoints_reads decoded
      have shorter : rest.length < count := by
        rw [← size]
        exact Nat.lt_trans (decodeFrom_length longitude)
          (decodeFrom_length latitude)
      rw [decodePoints_next latitude longitude] at decoded
      split at decoded
      · cases decoded
      · rename_i kept
        have inRange :=
          (outside_eq_false_iff _).mp (Bool.eq_false_iff.mpr kept)
        obtain ⟨latRange, lngRange⟩ := inRange_degrees_iff.mp inRange
        cases remains : decodePoints (lat + northward) (lng + eastward)
            rest with
        | error message =>
          rw [remains] at decoded
          cases decoded
        | ok behind =>
          rw [remains] at decoded
          cases decoded
          obtain ⟨later, grid⟩ := induction _ shorter remains rfl
          obtain ⟨latGroup, isLat, latShort, whole, rfl⟩ :=
            group_of_decodeCoordinate latitude
          obtain ⟨lngGroup, isLng, lngShort, rfl, rfl⟩ :=
            group_of_decodeCoordinate longitude
          rw [whole]
          refine ⟨.point isLat latShort isLng lngShort latRange lngRange
            later, ?_⟩
          intro point member
          rcases List.mem_cons.mp member with rfl | behind
          · refine ⟨inRange, ?_⟩
            rw [rounded, mathRound_degrees, mathRound_degrees]
          · exact grid point behind

theorem decodePolyline_eq (encoded : List CodeUnit) :
    decodePolyline encoded = decodePoints 0 0 encoded := by
  rw [decodePolyline]
  split
  · rename_i empty
    rw [List.isEmpty_iff.mp empty, decodePoints]
  · rfl

theorem decodePolyline_of_onGrid (grid : ∀ point ∈ points, OnGrid point) :
    decodePolyline (encodePolyline points) = .ok points := by
  rw [decodePolyline_encodePolyline fun point member => (grid point member).1]
  congr 1
  conv_rhs => rw [← List.map_id points]
  apply List.map_congr_left
  intro point member
  exact (grid point member).2

theorem decodePolyline_again (decoded : decodePolyline encoded = .ok points) :
    decodePolyline (encodePolyline points) = .ok points := by
  rw [decodePolyline_eq] at decoded
  exact decodePolyline_of_onGrid (wellFormed_of_decodePoints decoded).2

/-- The two functions invert each other up to rounding, and what is not a
polyline is refused. -/
theorem polyline_round_trips :
    (∀ coords, (∀ point ∈ coords, InRange point) →
      decodePolyline (encodePolyline coords) = .ok (coords.map rounded)) ∧
    (∀ encoded points, decodePolyline encoded = .ok points →
      decodePolyline (encodePolyline points) = .ok points ∧
        ∀ point ∈ points, InRange point) ∧
    ∀ encoded, ¬ WellFormed 0 0 encoded ↔
      ∃ message, decodePolyline encoded = .error message := by
  refine ⟨?_, ?_, ?_⟩
  · intro coords inRange
    exact decodePolyline_encodePolyline inRange
  · intro encoded points decoded
    refine ⟨decodePolyline_again decoded, ?_⟩
    rw [decodePolyline_eq] at decoded
    intro point member
    exact ((wellFormed_of_decodePoints decoded).2 point member).1
  · intro encoded
    rw [decodePolyline_eq]
    cases decoded : decodePoints 0 0 encoded with
    | error message =>
      constructor
      · intro _
        exact ⟨message, rfl⟩
      · intro _ wellFormed
        obtain ⟨points, accepted⟩ := decodePoints_of_wellFormed wellFormed
        rw [decoded] at accepted
        cases accepted
    | ok points =>
      constructor
      · intro malformed
        exact absurd (wellFormed_of_decodePoints decoded).1 malformed
      · rintro ⟨message, refused⟩
        cases refused

/-- A point with more than five decimals, and halves on both sides of zero. -/
theorem polyline_of_halves :
    decodePolyline
        (encodePolyline
          [{ lat := 3850000499 / 100000000
             lng := -1202 / 10 },
            { lat := -1 / 200000
              lng := 1 / 200000 }]) =
      .ok
        [{ lat := 385 / 10
           lng := -1202 / 10 },
          { lat := 0
            lng := 1 / 100000 }] := by
  have rounds :
      [{ lat := 3850000499 / 100000000
         lng := -1202 / 10 },
        { lat := -1 / 200000
          lng := 1 / 200000 }].map rounded =
        [{ lat := 385 / 10
           lng := -1202 / 10 },
          { lat := 0
            lng := 1 / 100000 }] := by
    decide +kernel
  rw [← rounds]
  apply polyline_round_trips.1
  intro point member
  simp only [List.mem_cons, List.not_mem_nil, or_false] at member
  rcases member with rfl | rfl
  · constructor <;> norm_num [abs_le]
  · constructor <;> norm_num [abs_le]

end Eki.Polyline
