import Diagnostics.Value.Basic
import Diagnostics.Number.Integer
import Diagnostics.Number.Shortest

/-!
Reading JSON. Besides the standard's numbers the names NaN, Infinity and -Infinity are numbers; of
several members of one name the last one counts, in the place of the first. Integers of more than
4300 digits are refused, as is a byte order mark, and so are lists and objects that stand too deep
inside each other. An escape for half of a character that stands alone is a fault of its own: it
follows the grammar, but what it stands for is no text.
-/
namespace Diagnostics.Json

/-- Why a text is no document. -/
inductive Fault where
  /-- The text does not follow the grammar. -/
  | malformed
  /-- Half of a character stands alone. -/
  | half
  /-- An integer is too long. -/
  | integer (error : Number.IntegerError)
  /-- A list or an object stands too deep in others. -/
  | tooDeep (nesting : Nesting)
  deriving DecidableEq

def isSpace (c : Char) : Bool := c == ' ' || c == '\t' || c == '\n' || c == '\r'

def skipSpace (text : Text) : Text := text.dropWhile isSpace

def hexValue? (c : Char) : Option Nat :=
  if '0' ≤ c ∧ c ≤ '9' then some (c.toNat - 48)
  else if 'a' ≤ c ∧ c ≤ 'f' then some (c.toNat - 87)
  else if 'A' ≤ c ∧ c ≤ 'F' then some (c.toNat - 55)
  else none

/-- The 16-bit unit of four hexadecimal digits. -/
def unit? (a b c d : Char) : Option Nat := do
  let a ← hexValue? a
  let b ← hexValue? b
  let c ← hexValue? c
  let d ← hexValue? d
  return a * 0x1000 + b * 0x100 + c * 0x10 + d

/-- The character that a letter stands for behind a backslash. -/
def unescape? : Char → Option Char
  | '"' => some '"'
  | '\\' => some '\\'
  | '/' => some '/'
  | 'n' => some '\n'
  | 'r' => some '\r'
  | 't' => some '\t'
  | 'f' => some '\x0c'
  | 'b' => some '\x08'
  | _ => none

/-- A character in front of what is read from the rest. -/
def charThen (c : Char) (reading : Except Fault (Text × Text)) :
    Except Fault (Text × Text) :=
  reading.map fun (text, rest) => (c :: text, rest)

/-- The characters of a string up to its closing quote. -/
def readChars : Text → Except Fault (Text × Text)
  | [] => .error .malformed
  | '"' :: rest => .ok ([], rest)
  | '\\' :: 'u' :: a :: b :: c :: d :: rest =>
    match unit? a b c d with
    | none => .error .malformed
    | some unit =>
      if 0xD800 ≤ unit ∧ unit < 0xDC00 then
        match rest with
        | '\\' :: 'u' :: a' :: b' :: c' :: d' :: rest' =>
          match unit? a' b' c' d' with
          | none => .error .malformed
          | some low =>
            if 0xDC00 ≤ low ∧ low < 0xE000 then
              charThen (Char.ofNat (0x10000 + (unit - 0xD800) * 0x400 + (low - 0xDC00)))
                (readChars rest')
            else .error .half
        | _ => .error .half
      else if 0xDC00 ≤ unit ∧ unit < 0xE000 then .error .half
      else charThen (Char.ofNat unit) (readChars rest)
  | '\\' :: letter :: rest =>
    match unescape? letter with
    | some c => charThen c (readChars rest)
    | none => .error .malformed
  | c :: rest =>
    if c.toNat < 0x20 ∨ c = '\\' then .error .malformed else charThen c (readChars rest)

/-- The digits at the front of a text, and the rest. -/
def digitRun (text : Text) : Text × Text := text.span Text.isPlainDigit

/-- A fraction at the front of a text: a point and digits. -/
def fraction? : Text → Option (Text × Text)
  | '.' :: rest =>
    match digitRun rest with
    | ([], _) => none
    | (digits, rest) => some (digits, rest)
  | _ => none

def exponent? : Text → Option (Int × Text)
  | c :: rest =>
    if c = 'e' ∨ c = 'E' then
      let (sign, digits) : Int × Text := match rest with
        | '-' :: digits => (-1, digits)
        | '+' :: digits => (1, digits)
        | digits => (1, digits)
      match digitRun digits with
      | ([], _) => none
      | (digits, rest) => some (sign * Number.ofDigitText digits, rest)
    else none
  | [] => none

/-- A number whose integral digits are known. -/
def readNumberAfter (negative : Bool) (whole rest : Text) :
    Except Fault (Value × Text) :=
  let (fraction, afterFraction) := (fraction? rest).getD ([], rest)
  let (exponent, afterExponent) := (exponent? afterFraction).getD (0, afterFraction)
  if fraction.isEmpty && (exponent? afterFraction).isNone then
    match Number.readDigits whole with
    | .ok n => .ok (.integer (if negative then -(n : Int) else n), rest)
    | .error e => .error (.integer e)
  else
    let digits := whole ++ fraction
    .ok (.real (Number.nearest negative digits (exponent - fraction.length)), afterExponent)

/-- A number without its sign. A zero ends the integral digits. -/
def readNumber (negative : Bool) : Text → Except Fault (Value × Text)
  | '0' :: rest => readNumberAfter negative ['0'] rest
  | text =>
    match digitRun text with
    | ([], _) => .error .malformed
    | (whole, rest) => readNumberAfter negative whole rest

def undefinedNumber : Float := 0.0 / 0.0

def infiniteNumber : Float := 1.0 / 0.0

/-- A value that holds no others and is no string. -/
def readScalar : Text → Except Fault (Value × Text)
  | 'n' :: 'u' :: 'l' :: 'l' :: rest => .ok (.null, rest)
  | 't' :: 'r' :: 'u' :: 'e' :: rest => .ok (.flag true, rest)
  | 'f' :: 'a' :: 'l' :: 's' :: 'e' :: rest => .ok (.flag false, rest)
  | 'N' :: 'a' :: 'N' :: rest => .ok (.real undefinedNumber, rest)
  | 'I' :: 'n' :: 'f' :: 'i' :: 'n' :: 'i' :: 't' :: 'y' :: rest => .ok (.real infiniteNumber, rest)
  | '-' :: 'I' :: 'n' :: 'f' :: 'i' :: 'n' :: 'i' :: 't' :: 'y' :: rest =>
    .ok (.real (-infiniteNumber), rest)
  | '-' :: rest => readNumber true rest
  | text => readNumber false text

mutual
/-- A value at the front of a text, within a bound on the length. No more lists and objects than
there is room for may stand inside each other. -/
def readValue : Nat → Room → Text → Except Fault (Value × Text)
  | 0, _, _ => .error .malformed
  | fuel + 1, room, text =>
    match text, room with
    | '"' :: rest, _ => (readChars rest).map fun (t, rest) => (.text t, rest)
    | '[' :: _, 0 => .error (.tooDeep .list)
    | '[' :: rest, room + 1 =>
      match skipSpace rest with
      | ']' :: rest => .ok (.list [], rest)
      | rest => (readItems fuel room rest).map fun (items, rest) => (.list items, rest)
    | '{' :: _, 0 => .error (.tooDeep .object)
    | '{' :: rest, room + 1 =>
      match skipSpace rest with
      | '}' :: rest => .ok (.object [], rest)
      | rest => (readMembers fuel room [] rest).map fun (members, rest) => (.object members, rest)
    | text, _ => readScalar text
/-- The items of a list, one at least, up to the closing bracket. -/
def readItems : Nat → Room → Text → Except Fault (List Value × Text)
  | 0, _, _ => .error .malformed
  | fuel + 1, room, text => do
    let (value, rest) ← readValue fuel room text
    match skipSpace rest with
    | ']' :: rest => .ok ([value], rest)
    | ',' :: rest =>
      let (items, rest) ← readItems fuel room (skipSpace rest)
      .ok (value :: items, rest)
    | _ => .error .malformed
/-- The members of an object, one at least, up to the closing brace, set in the members so far. -/
def readMembers : Nat → Room → Members → Text → Except Fault (Members × Text)
  | 0, _, _, _ => .error .malformed
  | fuel + 1, room, members, text =>
    match text with
    | '"' :: rest => do
      let (key, rest) ← readChars rest
      match skipSpace rest with
      | ':' :: rest =>
        let (value, rest) ← readValue fuel room (skipSpace rest)
        let members := Members.put key value members
        match skipSpace rest with
        | '}' :: rest => .ok (members, rest)
        | ',' :: rest => readMembers fuel room members (skipSpace rest)
        | _ => .error .malformed
      | _ => .error .malformed
    | _ => .error .malformed
end

/-- The steps that lead to the value of a document. -/
def outerSteps : Nat := 4

def read (room : Room) (text : Text) : Except Fault Value := do
  let (value, rest) ← readValue (2 * text.length + 2) (room - outerSteps) (skipSpace text)
  match skipSpace rest with
  | [] => .ok value
  | _ :: _ => .error .malformed

end Diagnostics.Json
