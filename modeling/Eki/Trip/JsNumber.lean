import Mathlib.Algebra.Order.Ring.Unbundled.Rat

/-!
# The numbers of the trip lifecycle

Positions, times, speeds and quality measurements are IEEE doubles in the
source.  The reducer only combines them with the operations below and compares
the results, so the model takes the operations as a class without laws: every
statement proved over it holds for doubles with their rounding and their NaN,
and for exact arithmetic alike.

Two instances are given.  `Float` is the arithmetic the program runs on, and
`ℚ` is an exact arithmetic whose trigonometry is linear in the small angles of
a route; it evaluates in the kernel.
-/

namespace Eki

/-- The double operations that the trip lifecycle uses. -/
class JsNumber (R : Type) extends
    Add R, Sub R, Mul R, Div R, Neg R, LT R, LE R, BEq R where
  ofNat : Nat → R
  decidableLT : DecidableLT R
  decidableLE : DecidableLE R
  /-- `Number.isFinite` -/
  isFinite : R → Bool
  /-- `Number.isSafeInteger` -/
  isSafeInteger : R → Bool
  floor : R → R
  abs : R → R
  min : R → R → R
  max : R → R → R
  sqrt : R → R
  sin : R → R
  cos : R → R
  atan2 : R → R → R
  hypot : R → R → R
  pi : R
  infinity : R

namespace JsNumber

variable {R : Type} [JsNumber R]

instance (priority := low) : DecidableLT R := JsNumber.decidableLT

instance (priority := low) : DecidableLE R := JsNumber.decidableLE

instance (priority := low) (n : Nat) : OfNat R n := ⟨JsNumber.ofNat n⟩

/-- `Number.isFinite` of an optional field: `undefined` is not finite. -/
def isFiniteField (value : Option R) : Bool :=
  value.any isFinite

end JsNumber

/-- The doubles of the running program. -/
instance : JsNumber Float where
  ofNat := Float.ofNat
  decidableLT := inferInstance
  decidableLE := inferInstance
  isFinite := Float.isFinite
  isSafeInteger x := x.isFinite && x.floor == x && x.abs <= 9007199254740991
  floor := Float.floor
  abs := Float.abs
  min x y := if x.isNaN then x else if y.isNaN then y else if x < y then x else y
  max x y := if x.isNaN then x else if y.isNaN then y else if x < y then y else x
  sqrt := Float.sqrt
  sin := Float.sin
  cos := Float.cos
  atan2 := Float.atan2
  hypot x y := Float.sqrt (x * x + y * y)
  pi := 3.141592653589793
  infinity := 1 / 0

/-- `Number.MAX_SAFE_INTEGER`. -/
def maxSafeInteger : Int := 9007199254740991

/-- Square root of a rational by integer square root, to twelve decimal places. -/
def Rat.sqrtApprox (x : ℚ) : ℚ :=
  mkRat (Nat.sqrt ((x * 1000000000000 * 1000000000000).floor.toNat))
    1000000000000

/-- Exact arithmetic with the linear trigonometry of small angles. -/
instance : JsNumber ℚ where
  ofNat n := n
  decidableLT := inferInstance
  decidableLE := inferInstance
  isFinite _ := true
  isSafeInteger x := x.den == 1 && decide (x.num.natAbs ≤ 9007199254740991)
  floor x := x.floor
  abs x := if x < 0 then -x else x
  min x y := if x < y then x else y
  max x y := if x < y then y else x
  sqrt := Rat.sqrtApprox
  sin x := x
  cos _ := 1
  atan2 y x := y / x
  hypot x y := Rat.sqrtApprox (x * x + y * y)
  pi := 355 / 113
  infinity := 1000000000000

end Eki
