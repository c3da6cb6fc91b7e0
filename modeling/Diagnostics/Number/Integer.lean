import Diagnostics.Number.Numeral
import Diagnostics.Text.Blank
import Diagnostics.Text.Quoted

/-!
Integer literals. Blanks may stand around a literal, a sign in front of it, and single low lines
between its digits, which may be of any script. A literal of more than 4300 digits is refused,
whatever follows its digits.
-/
namespace Diagnostics.Number

inductive IntegerError where
  /-- The text is not an integer literal. -/
  | notLiteral (text : Text)
  /-- The literal has more digits than may be read. -/
  | tooLong (digits : Nat)
  deriving DecidableEq

/-- The most characters of a wrong literal that an error shows. -/
def shownLimit : Nat := 200

def IntegerError.message : IntegerError → Text
  | .notLiteral text =>
    "invalid literal for int() with base 10: ".toList ++ (Text.quoted text).take shownLimit
  | .tooLong digits =>
    "Exceeds the limit (4300 digits) for integer string conversion: value has ".toList ++
      numeral digits ++
      " digits; use sys.set_int_max_str_digits() to increase the limit".toList

/-- A run of digits as a number, unless it is too long. -/
def readDigits (digits : Text) : Except IntegerError Nat :=
  if digits.length ≤ digitLimit then .ok (ofDigitText digits) else .error (.tooLong digits.length)

/-- Blanks around a literal. The information separators are none. -/
def isLiteralBlank (c : Char) : Bool :=
  Text.isPlainBlank c || (128 ≤ c.toNat && Text.isBlank c)

/-- A digit of any script, or the low line. -/
def isDigitOrLine (c : Char) : Bool := Text.isDecimalDigit c || c == '_'

/-- No low line stands at an end or beside another one. -/
def linesSeparate : Text → Bool
  | [] => true
  | [c] => c != '_'
  | c :: d :: rest => !(c == '_' && d == '_') && linesSeparate (d :: rest)

/-- The number written by a literal without blanks before it and without sign. -/
def readUnsigned (whole literal : Text) : Except IntegerError Nat :=
  let run := literal.takeWhile isDigitOrLine
  let digits := run.filter Text.isDecimalDigit
  if run.head? = some '_' ∨ linesSeparate run = false then .error (.notLiteral whole)
  else if digitLimit < digits.length then .error (.tooLong digits.length)
  else if digits = [] ∨ !(literal.dropWhile isDigitOrLine).all isLiteralBlank then
    .error (.notLiteral whole)
  else .ok (ofDigitText digits)

/-- The integer written by a literal. -/
def readInteger (text : Text) : Except IntegerError Int :=
  match text.dropWhile isLiteralBlank with
  | '-' :: rest => (readUnsigned text rest).map fun n => -(n : Int)
  | '+' :: rest => (readUnsigned text rest).map Int.ofNat
  | rest => (readUnsigned text rest).map Int.ofNat

end Diagnostics.Number
