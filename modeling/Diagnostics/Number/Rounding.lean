import Diagnostics.Number.Shortest

/-!
Rounding of floating point numbers to integers, and of the seconds that they stand for to smaller
units of time.
-/
namespace Diagnostics.Number

/-- A quotient rounded to the nearest integer; halves go to the even neighbour. -/
def roundQuotient (n : Int) (d : Nat) : Int :=
  let below := Int.fdiv n d
  let rest := 2 * (n - below * d)
  if rest < d ∨ (rest = d ∧ below % 2 = 0) then below else below + 1

/-- A quotient rounded to the next integer that is not above it. -/
def floorQuotient (n : Int) (d : Nat) : Int := Int.fdiv n d

def quotientOf (x : Float) : Int × Nat :=
  let x' := Binary.ofFloat x
  let n : Int := x'.mantissa * Nat.pow 2 x'.exponent.toNat
  (if isNegative x then -n else n, Nat.pow 2 (-x'.exponent).toNat)

/-- A finite number in a unit of which some make one. The integral part is exact. The fraction is
multiplied as a floating point number, and the product is rounded. -/
def inUnits (round : Int → Nat → Int) (units : Nat) (x : Float) : Int :=
  let whole := truncate x
  let (n, d) := quotientOf ((x - Float.ofInt whole) * Float.ofNat units)
  whole * units + round n d

end Diagnostics.Number
