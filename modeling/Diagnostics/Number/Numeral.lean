import Diagnostics.Text.DecimalDigit
import Diagnostics.Text.Basic

/-!
Decimal numerals: the written form of an integer, and the integer literals that are read as one.

A literal may have blanks around it, a sign, digits of any script and single low lines between its
digits. Literals of more than 4300 digits are refused before anything after the digits is looked
at.
-/
namespace Diagnostics.Number

def digitChar (d : Nat) : Char := Char.ofNat (48 + d)

/-- The digits of a number, without leading zeros. -/
def numeral (n : Nat) : Text :=
  if n < 10 then [digitChar n] else numeral (n / 10) ++ [digitChar (n % 10)]
termination_by n
decreasing_by omega

/-- An integer in decimal, with a minus sign if it is negative. -/
def integerText : Int → Text
  | .ofNat n => numeral n
  | .negSucc n => '-' :: numeral (n + 1)

/-- The number that some digits stand for, most significant first. -/
def ofDigits (digits : List Nat) : Nat := digits.foldl (fun value d => 10 * value + d) 0

/-- The number that a run of decimal digits of any script stands for. -/
def ofDigitText (digits : Text) : Nat :=
  ofDigits (digits.map fun c => (Text.digitValue? c).getD 0)

/-- The most digits that a literal may have, and the most that are written in messages. -/
def digitLimit : Nat := 4300

/-- A number has no more digits than are written in messages. -/
def isWritable (n : Nat) : Bool := n < Nat.pow 10 digitLimit

end Diagnostics.Number
