import Diagnostics.Number.Numeral

/-!
The decimal text of a binary floating point number: the fewest digits that read back as the same
number, the nearest of those, and of two equally near the even one. Numbers from 1e-4 up to below
1e16 are written positionally, all others with an exponent of two digits at least.
-/
namespace Diagnostics.Number

/-- A finite number without its sign: mantissa times a power of two. -/
structure Binary where
  mantissa : Nat
  exponent : Int
  /-- The gap to the next number below is half the gap to the next one above. -/
  narrowBelow : Bool

/-- The exponent field of the 64 bits. -/
def exponentField (x : Float) : Nat := ((x.toBits >>> 52) &&& 0x7FF).toNat

/-- The number is neither infinite nor undefined. -/
def isFinite (x : Float) : Bool := exponentField x != 0x7FF

/-- The number has a minus sign, which a zero may have too. -/
def isNegative (x : Float) : Bool := x.toBits >>> 63 == 1

def Binary.ofFloat (x : Float) : Binary :=
  let field := exponentField x
  let fraction := (x.toBits &&& 0xFFFFFFFFFFFFF).toNat
  if field = 0 then ⟨fraction, -1074, false⟩
  else ⟨Nat.pow 2 52 + fraction, (field : Int) - 1075, fraction == 0 && 1 < field⟩

/-- A decimal: digits times a power of ten. -/
structure Decimal where
  digits : Nat
  exponent : Int

/-- Compare a · 10^i with n · 2^j. -/
def compareScaled (a : Nat) (i : Int) (n : Nat) (j : Int) : Ordering :=
  compare (a * Nat.pow 10 i.toNat * Nat.pow 2 (-j).toNat)
    (n * Nat.pow 2 j.toNat * Nat.pow 10 (-i).toNat)

/-- A decimal lies among the reals that round to a number. -/
def Binary.readsBack (x : Binary) (d : Decimal) : Bool :=
  let low := if x.narrowBelow then 4 * x.mantissa - 1 else 4 * x.mantissa - 2
  let high := 4 * x.mantissa + 2
  let closed := x.mantissa % 2 == 0
  let belowOrder := compareScaled d.digits d.exponent low (x.exponent - 2)
  let aboveOrder := compareScaled d.digits d.exponent high (x.exponent - 2)
  (belowOrder == .gt || (closed && belowOrder == .eq)) &&
    (aboveOrder == .lt || (closed && aboveOrder == .eq))

/-- The number lies below a power of ten. -/
def Binary.belowTen (x : Binary) (k : Int) : Bool :=
  compareScaled 1 k x.mantissa x.exponent == .gt

/-- The least power of ten above a number, searched upwards from a start for some steps. -/
def Binary.scaleFrom (x : Binary) : Nat → Int → Int
  | 0, k => k
  | steps + 1, k => if x.belowTen k then k else x.scaleFrom steps (k + 1)

/-- The least k with the number below 10^k. -/
def Binary.scale (x : Binary) : Int :=
  let bits := (Nat.log2 x.mantissa : Int) + x.exponent
  x.scaleFrom 4 (bits * 30103 / 100000 - 1)

/-- The multiple of 10^e just below a number, or the number itself if it is one. -/
def Binary.floorAt (x : Binary) (e : Int) : Nat :=
  (x.mantissa * Nat.pow 2 x.exponent.toNat * Nat.pow 10 (-e).toNat) /
    (Nat.pow 2 (-x.exponent).toNat * Nat.pow 10 e.toNat)

/-- The decimal with the given power of ten that reads back, if there is one. -/
def Binary.onGrid (x : Binary) (e : Int) : Option Decimal :=
  let low : Decimal := ⟨x.floorAt e, e⟩
  let high : Decimal := ⟨x.floorAt e + 1, e⟩
  match x.readsBack low, x.readsBack high with
  | false, false => none
  | true, false => some low
  | false, true => some high
  | true, true =>
    match compareScaled (low.digits + high.digits) e x.mantissa (x.exponent + 1) with
    | .lt => some high
    | .gt => some low
    | .eq => some (if low.digits % 2 == 0 then low else high)

/-- The decimal of the fewest digits, from some count on, that reads back. Seventeen digits always
do. -/
def Binary.select (x : Binary) (k : Int) : Nat → Nat → Decimal
  | 0, _ => ⟨x.floorAt (k - 17), k - 17⟩
  | steps + 1, count => (x.onGrid (k - count)).getD (x.select k steps (count + 1))

/-- The fewest digits that read back as a number other than zero. -/
def Binary.shortest (x : Binary) : Decimal := x.select x.scale 17 1

/-- The digits without the zeros at their end. -/
def dropZeros (digits : Text) : Text := digits.reverse.dropWhile (· == '0') |>.reverse

/-- An exponent with its sign and two digits at least. -/
def exponentText (e : Int) : Text :=
  let digits := numeral e.natAbs
  (if e < 0 then '-' else '+') :: (if digits.length < 2 then '0' :: digits else digits)

/-- The layout of a number above zero: its digits, and the power of ten of the first digit. -/
def layout (digits : Text) (lead : Int) : Text :=
  if -4 ≤ lead ∧ lead < 0 then
    '0' :: '.' :: (List.replicate ((-lead).toNat - 1) '0' ++ digits)
  else if 0 ≤ lead ∧ lead < 16 then
    let whole := lead.toNat + 1
    if digits.length ≤ whole then
      digits ++ List.replicate (whole - digits.length) '0' ++ ['.', '0']
    else digits.take whole ++ '.' :: digits.drop whole
  else
    match digits with
    | [] => []
    | [d] => d :: 'e' :: exponentText lead
    | d :: rest => d :: '.' :: (rest ++ 'e' :: exponentText lead)

def Binary.text (x : Binary) : Text :=
  if x.mantissa = 0 then ['0', '.', '0']
  else
    let d := x.shortest
    let digits := numeral d.digits
    layout (dropZeros digits) (digits.length - 1 + d.exponent)

/-- The texts of the numbers that have no digits. -/
structure SpecialTexts where
  /-- The undefined number. -/
  undefined : Text
  /-- The infinite number above zero. -/
  infinite : Text

/-- The text of a number, given the texts of the special ones. -/
def floatText (special : SpecialTexts) (x : Float) : Text :=
  let sign := if isNegative x then ['-'] else []
  if isFinite x then sign ++ (Binary.ofFloat x).text
  else if x == x then sign ++ special.infinite
  else special.undefined

/-- A whole number is its own integral part. -/
def Binary.isWhole (x : Binary) : Bool :=
  x.mantissa % Nat.pow 2 (-x.exponent).toNat == 0

/-- The integral part of a number without its sign. -/
def Binary.integralPart (x : Binary) : Nat :=
  x.mantissa * Nat.pow 2 x.exponent.toNat / Nat.pow 2 (-x.exponent).toNat

def truncate (x : Float) : Int :=
  let part := (Binary.ofFloat x).integralPart
  if isNegative x then -(part : Int) else part

/-- The number nearest to a decimal: digits of any script times a power of ten. Decimals out of
reach are infinite or zero. -/
def nearest (negative : Bool) (digits : Text) (exponent : Int) : Float :=
  let digits := digits.dropWhile fun c => (Text.digitValue? c).getD 0 == 0
  let lead := exponent + digits.length
  let magnitude : Float :=
    if digits = [] ∨ lead < -400 then 0.0
    else if 400 < lead then 1.0 / 0.0
    else Float.ofScientific (ofDigitText digits) (exponent < 0) exponent.natAbs
  if negative then -magnitude else magnitude

end Diagnostics.Number
