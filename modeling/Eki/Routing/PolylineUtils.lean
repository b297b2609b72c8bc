import Mathlib.Data.Rat.Floor

/-!
# The polyline codec

Points of a route as a string.  Coordinates are exact rational numbers of
degrees; the shifts are those of 32-bit integers, and a string is its UTF-16
code units.  What is left of a string stands for the index into it.
-/

namespace Eki.Polyline

abbrev CodeUnit := BitVec 16

structure LatLng where
  lat : ℚ
  lng : ℚ
deriving DecidableEq

/-- `result & 1 ? ~(result >> 1) : result >> 1` -/
def unfolded (result : BitVec 32) : Int :=
  if result &&& 1 ≠ 0 then (~~~(result.sshiftRight 1)).toInt
  else (result.sshiftRight 1).toInt

/-- The loop of `decodeCoordinate`. -/
def decodeFrom (result : BitVec 32) (shift : Nat) :
    List CodeUnit → Except String (Int × List CodeUnit)
  | [] => .error "Truncated encoded polyline"
  | unit :: rest =>
    let byte : Int := unit.toNat - 63
    if byte < 0 ∨ byte > 63 ∨ shift > 30 then
      .error "Invalid encoded polyline"
    else
      let result :=
        result ||| ((BitVec.ofInt 32 byte &&& 0x1f) <<< shift)
      if byte < 0x20 then .ok (unfolded result, rest)
      else decodeFrom result (shift + 5) rest

def decodeCoordinate (encoded : List CodeUnit) :
    Except String (Int × List CodeUnit) :=
  decodeFrom 0 0 encoded

theorem decodeFrom_length {encoded rest : List CodeUnit} {value : Int}
    {result : BitVec 32} {shift : Nat}
    (decoded : decodeFrom result shift encoded = .ok (value, rest)) :
    rest.length < encoded.length := by
  induction encoded generalizing result shift with
  | nil => cases decoded
  | cons unit tail induction =>
    simp only [decodeFrom] at decoded
    split at decoded
    · cases decoded
    · split at decoded
      · cases decoded
        exact Nat.lt_succ_self _
      · exact Nat.lt_succ_of_lt (induction decoded)

def degrees (units : Int) : ℚ :=
  units / 100000

/-- `Math.abs(point.lat) > 90 || Math.abs(point.lng) > 180` -/
def outside (point : LatLng) : Bool :=
  decide (|point.lat| > 90) || decide (|point.lng| > 180)

/-- The loop of `decodePolyline`. -/
def decodePoints (lat lng : Int) (encoded : List CodeUnit) :
    Except String (List LatLng) :=
  match encoded with
  | [] => .ok []
  | unit :: tail =>
    match _latitude : decodeCoordinate (unit :: tail) with
    | .error message => .error message
    | .ok (northward, middle) =>
      match _longitude : decodeCoordinate middle with
      | .error message => .error message
      | .ok (eastward, rest) =>
        let point : LatLng :=
          { lat := degrees (lat + northward)
            lng := degrees (lng + eastward) }
        if outside point then
          .error "Encoded polyline contains invalid coordinates"
        else
          (decodePoints (lat + northward) (lng + eastward) rest).map
            (point :: ·)
termination_by encoded.length
decreasing_by
  exact Nat.lt_trans (decodeFrom_length _longitude)
    (decodeFrom_length _latitude)

def decodePolyline (encoded : List CodeUnit) : Except String (List LatLng) :=
  if encoded.isEmpty then .ok [] else decodePoints 0 0 encoded

/-- `Math.round`: halves are rounded up. -/
def mathRound (x : ℚ) : Int :=
  ⌊x + 1 / 2⌋

/-- `(delta < 0) ? ~(delta << 1) : (delta << 1)` -/
def folded (delta : Int) : BitVec 32 :=
  if delta < 0 then ~~~(BitVec.ofInt 32 delta <<< 1)
  else BitVec.ofInt 32 delta <<< 1

theorem sshiftRight_five_lt {value : BitVec 32} (long : 0x20 ≤ value.toInt) :
    (value.sshiftRight 5).toInt.toNat < value.toInt.toNat := by
  rw [BitVec.toInt_sshiftRight, Int.shiftRight_eq_div_pow]
  omega

/-- The loop that writes one number. -/
def encodeValue (value : BitVec 32) : List CodeUnit :=
  if 0x20 ≤ value.toInt then
    BitVec.ofInt 16 ((0x20 ||| (value &&& 0x1f)).toInt + 63) ::
      encodeValue (value.sshiftRight 5)
  else [BitVec.ofInt 16 (value.toInt + 63)]
termination_by value.toInt.toNat
decreasing_by
  rename_i long
  exact sshiftRight_five_lt long

/-- The loop of `encodePolyline`. -/
def encodePoints (prevLat prevLng : Int) : List LatLng → List CodeUnit
  | [] => []
  | coord :: coords =>
    let lat := mathRound (coord.lat * 100000)
    let lng := mathRound (coord.lng * 100000)
    encodeValue (folded (lat - prevLat)) ++
      (encodeValue (folded (lng - prevLng)) ++ encodePoints lat lng coords)

def encodePolyline (coords : List LatLng) : List CodeUnit :=
  encodePoints 0 0 coords

end Eki.Polyline
