import Diagnostics.Check.Problem
import Diagnostics.Severity
import Diagnostics.Number.Integer
import Diagnostics.Number.Shortest

/-!
Reading the members of a record out of a value. A check either gives what was read or every
problem found, in the order of the record's members.
-/
namespace Diagnostics

/-- What was read, or the problems found. -/
abbrev Checked (α : Type) := Except (List Problem) α

namespace Check

/-- One problem, at the place of the value itself. -/
def fail {α : Type} (cause : Cause) : Checked α := .error [⟨[], cause⟩]

def problems {α : Type} : Checked α → List Problem
  | .ok _ => []
  | .error found => found

/-- A check of what lies one step inside a value. -/
def inside {α : Type} (step : Step) : Checked α → Checked α
  | .ok a => .ok a
  | .error found => .error (found.map fun p => ⟨step :: p.path, p.cause⟩)

def member {α : Type} (name : String) (check : Checked α) : Checked α :=
  inside (.member name.toList) check

/-- Two checks; the problems of both count. -/
def both {α β : Type} (first : Checked α) (second : Checked β) : Checked (α × β) :=
  match first, second with
  | .ok a, .ok b => .ok (a, b)
  | first, second => .error (problems first ++ problems second)

def text : Value → Checked Text
  | .text t => .ok t
  | _ => fail .notText

/-- Blanks that may stand around an integer in a text. -/
def isOuterBlank (c : Char) : Bool := Text.isBlank c && !('\x1c' ≤ c && c ≤ '\x1f')

/-- A text without the zeros and low lines in front of its first other digit or of a minus sign. A
zero is left where neither follows. -/
def dropLeadingZeros : Text → Option Text
  | '0' :: rest =>
    let after := rest.dropWhile fun c => c == '0' || c == '_'
    let last := ((rest.takeWhile fun c => c == '0' || c == '_').getLast?).getD '0'
    match after with
    | [] => some [last]
    | '.' :: _ => some (last :: after)
    | c :: _ => if c = '-' ∨ Text.isPlainDigit c then some after else none
  | c :: rest => if Text.isPlainDigit c then some (c :: rest) else none
  | [] => none

/-- A text without leading zeros behind its minus sign, if it has one. -/
def dropSignedZeros : Text → Option Text
  | '-' :: rest => (dropLeadingZeros rest).map ('-' :: ·)
  | text => dropLeadingZeros text

/-- A text without a fraction of zeros, one at least. -/
def dropZeroFraction (text : Text) : Text :=
  match text.span (· != '.') with
  | (whole, '.' :: fraction) =>
    if fraction ≠ [] ∧ fraction.all (· == '0') then whole else text
  | _ => text

/-- A text without its low lines, where each of them stands alone between other characters. -/
def dropLines (text : Text) : Text :=
  if text.head? = some '_' ∨ Number.linesSeparate text = false then text
  else text.filter (· != '_')

/-- The digits of a number at the very front of a text, behind a minus sign if there is one. A
number does not start with a zero. -/
def frontDigits (text : Text) : Text :=
  let unsigned := if text.head? = some '-' then text.drop 1 else text
  if unsigned.head? = some '0' then [] else unsigned.takeWhile Text.isPlainDigit

/-- Digits without a leading zero, behind a minus sign if there is one, and no more of them than a
literal may have. -/
def strictInteger? (text : Text) : Option Int :=
  let natural? (digits : Text) : Option Nat :=
    if digits ≠ [] ∧ digits.all Text.isPlainDigit ∧ (digits.head? ≠ some '0' ∨ digits = ['0']) ∧
        digits.length ≤ Number.digitLimit then
      some (Number.ofDigitText digits)
    else none
  match text with
  | '-' :: digits => (natural? digits).map fun n => -(n : Int)
  | digits => (natural? digits).map Int.ofNat

/-- The integer of a text from which blanks, a plus sign, leading zeros, a fraction of zeros and
single low lines are taken away. -/
def cleanedInteger? (text : Text) : Option Int :=
  let trimmed := Text.trim isOuterBlank text
  let unsigned : Option Text := match trimmed with
    | '+' :: '-' :: _ => none
    | '+' :: rest => some rest
    | rest => some rest
  (unsigned.bind dropSignedZeros).bind fun digits =>
    strictInteger? (dropLines (dropZeroFraction digits))

/-- The integer written in a text: an optional sign, digits with single low lines between them,
and a fraction of zeros, with blanks around all that. A text with more digits than a literal may
have is too large if it starts with them. -/
def integerInText (text : Text) : Checked Int :=
  if Number.digitLimit < (frontDigits text).length then fail .integerTooLarge
  else match cleanedInteger? text with
    | some n => .ok n
    | none => fail .unreadableInteger

/-- The integer that a floating point number is, if it is a whole number of less than 64 bits. -/
def integerOfReal (x : Float) : Checked Int :=
  if !Number.isFinite x then fail .infinite
  else if !(Number.Binary.ofFloat x).isWhole then fail .fractional
  else
    let n := Number.truncate x
    if -Nat.pow 2 63 < n ∧ n < Nat.pow 2 63 then .ok n else fail .integerTooLarge

/-- An integer: one, a flag as zero or one, a whole number within 64 bits, or a text of one. -/
def integer : Value → Checked Int
  | .integer n => .ok n
  | .flag b => .ok (if b then 1 else 0)
  | .real x => integerOfReal x
  | .text t => integerInText t
  | _ => fail .notInteger

/-- A number that is not below a bound. -/
def atLeast (bound : Nat) (n : Int) : Checked Nat :=
  if (bound : Int) ≤ n then .ok n.toNat else fail (.belowBound bound)

/-- An integer that is not below a bound. -/
def natural (bound : Nat) (value : Value) : Checked Nat := (integer value).bind (atLeast bound)

def falseWords : List Text := ["0", "off", "f", "false", "n", "no"].map String.toList

def trueWords : List Text := ["1", "on", "t", "true", "y", "yes"].map String.toList

/-- A whole number within 64 bits as a flag: zero or one. -/
def flagOfNumber (n : Int) : Checked Bool :=
  if n = 0 then .ok false else if n = 1 then .ok true
  else if -Nat.pow 2 63 ≤ n ∧ n < Nat.pow 2 63 then fail .unreadableFlag
  else fail .notFlag

/-- A flag: one, zero or one as a number, or a word for it in any case. -/
def flag : Value → Checked Bool
  | .flag b => .ok b
  | .integer n => flagOfNumber n
  | .real x =>
    match integerOfReal x with
    | .ok n => flagOfNumber n
    | .error _ => fail .notFlag
  | .text t =>
    let word := t.map Char.toLower
    if word ∈ falseWords then .ok false
    else if word ∈ trueWords then .ok true
    else fail .unreadableFlag
  | _ => fail .notFlag

/-- A severity, by its exact name. -/
def severity : Value → Checked Severity
  | .text t => match Severity.ofName? t with
    | some s => .ok s
    | none => fail .notSeverity
  | _ => fail .notSeverity

/-- A value that may be absent. -/
def optional {α : Type} (check : Value → Checked α) : Value → Checked (Option α)
  | .null => .ok none
  | value => (check value).map some

/-- The items of a list, checked from an index on. -/
def items {α : Type} (check : Value → Checked α) : Nat → List Value → Checked (List α)
  | _, [] => .ok []
  | index, value :: rest =>
    (both (inside (.item index) (check value)) (items check (index + 1) rest)).map
      fun (a, as) => a :: as

def list {α : Type} (check : Value → Checked α) : Value → Checked (List α)
  | .list values => items check 0 values
  | _ => fail .notList

/-- The values of all members. -/
def entries {α : Type} (check : Value → Checked α) : Members → Checked (List (Text × α))
  | [] => .ok []
  | (key, value) :: rest =>
    (both (inside (.member key) (check value)) (entries check rest)).map
      fun (a, as) => (key, a) :: as

/-- A mapping from any names. -/
def mapping {α : Type} (check : Value → Checked α) : Value → Checked (List (Text × α))
  | .object members => entries check members
  | _ => fail .notMapping

/-- No members but those of some names. -/
def noOthers (names : List String) (members : Members) : Checked Unit :=
  match members.filter fun entry => entry.1 ∉ names.map String.toList with
  | [] => .ok ()
  | others => .error (others.map fun entry => ⟨[.member entry.1], .extraMember⟩)

/-- A member that must be there. -/
def required {α : Type} (members : Members) (name : String) (check : Value → Checked α) :
    Checked α :=
  member name (match Members.valueOf? members name.toList with
    | some value => check value
    | none => fail .absent)

/-- A member with a default. -/
def defaulted {α : Type} (members : Members) (name : String) (default : α)
    (check : Value → Checked α) : Checked α :=
  match Members.valueOf? members name.toList with
  | some value => member name (check value)
  | none => .ok default

/-- The members of a record. -/
def record {α : Type} (subject : Subject) (check : Members → Checked α) : Value → Checked α
  | .object members => check members
  | _ => fail (.notRecord subject)

/-- A value that a rule of the domain may refuse. -/
def rule {α : Type} (accepted : α → Bool) (reason : String) (a : α) : Checked α :=
  if accepted a then .ok a else fail (.rejected reason.toList)

end Check
end Diagnostics
