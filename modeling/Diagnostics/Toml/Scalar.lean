import Diagnostics.Value.Basic
import Diagnostics.Number.Integer
import Diagnostics.Number.Shortest
import Diagnostics.Timestamp.Basic

/-!
The parts of TOML that hold no others: comments, strings, keys, dates, times and numbers. Each
reader takes what it reads from the front of a text and gives the rest too. What may stand deep
inside other values needs room for its own steps.
-/
namespace Diagnostics.Toml

/-- Why a text is no document. -/
inductive Fault where
  /-- The text does not follow the grammar, or says something twice. -/
  | malformed
  /-- An integer is too long. -/
  | integer (error : Number.IntegerError)
  /-- There is no room for a step of reading. -/
  | tooDeep (nesting : Nesting)
  deriving DecidableEq

/-- There has to be room for a number of steps inside each other, the last of which is of some
kind. -/
def need (steps : Nat) (last : Nesting) (room : Room) : Except Fault Unit :=
  if room < steps then .error (.tooDeep last) else .ok ()

/-- Blanks inside a row. -/
def isSpace (c : Char) : Bool := c == ' ' || c == '\t'

/-- Blanks and line feeds. -/
def isSpaceOrFeed (c : Char) : Bool := isSpace c || c == '\n'

/-- Control characters that no row may hold. -/
def isControl (c : Char) : Bool := (c < ' ' && c != '\t') || c == '\x7f'

/-- A text without the blanks at its front. -/
def skipSpace (text : Text) : Text := text.dropWhile isSpace

/-- A text without the comment at its front, if there is one. -/
def skipComment : Text → Except Fault Text
  | '#' :: rest =>
    if (rest.takeWhile (· != '\n')).any isControl then .error .malformed
    else .ok (rest.dropWhile (· != '\n'))
  | text => .ok text

/-- A text without the blanks, line feeds and comments at its front, of which there are no more
than a number. -/
def skipGaps (room : Room) : Nat → Text → Except Fault Text
  | 0, text => .ok text
  | fuel + 1, text => do
    match text.dropWhile isSpaceOrFeed with
    | '#' :: rest =>
      need 4 .rule room
      need 5 .operation room
      skipGaps room fuel (← skipComment ('#' :: rest))
    | text => .ok text

/-- The value of hexadecimal digits; other characters have none. -/
def hexNumber? (digits : Text) : Option Nat :=
  digits.foldl (fun value c => do
    let value ← value
    let digit ← if Text.isPlainDigit c then some (c.toNat - 48)
      else if 'a' ≤ c ∧ c ≤ 'f' then some (c.toNat - 87)
      else if 'A' ≤ c ∧ c ≤ 'F' then some (c.toNat - 55)
      else none
    return 16 * value + digit) (some 0)

/-- The character with a code point of some number of hexadecimal digits, and the rest. -/
def hexChar (room : Room) (width : Nat) (text : Text) : Except Fault (Char × Text) := do
  need 1 .rule room
  need 2 .operation room
  need 3 .comparison room
  if text.length < width then .error .malformed
  else match hexNumber? (text.take width) with
    | none => .error .malformed
    | some code =>
      if code.isValidChar then .ok (Char.ofNat code, text.drop width) else .error .malformed

/-- The character that a letter stands for behind a backslash. -/
def unescape? : Char → Option Char
  | 'b' => some '\x08'
  | 't' => some '\t'
  | 'n' => some '\n'
  | 'f' => some '\x0c'
  | 'r' => some '\r'
  | '"' => some '"'
  | '\\' => some '\\'
  | _ => none

/-- What stands for nothing behind a backslash at the end of a row, and the rest. -/
def lineContinuation (text : Text) : Except Fault Text :=
  match skipSpace text with
  | '\n' :: rest => .ok (rest.dropWhile isSpaceOrFeed)
  | [] => .ok []
  | _ => .error .malformed

/-- The steps that an escape in a string in double quotes takes, of one row or of several. -/
def escapeSteps (rows : Bool) : Nat := if rows then 4 else 3

/-- The characters of a string in double quotes, of one row or of several, and the rest. -/
def basicChars (room : Room) (rows : Bool) : Nat → Text → Except Fault (Text × Text)
  | 0, _ => .error .malformed
  | fuel + 1, text =>
    match text with
    | [] => .error .malformed
    | '"' :: rest =>
      if rows then do
        need 3 .operation room
        match rest with
        | '"' :: '"' :: rest => .ok ([], rest)
        | rest => (basicChars room rows fuel rest).map fun (chars, rest) => ('"' :: chars, rest)
      else .ok ([], rest)
    | '\\' :: c :: rest => do
      need (escapeSteps rows) .rule room
      if rows && isSpaceOrFeed c then
        need (escapeSteps rows + 1) .rule room
        let rest ← lineContinuation (c :: rest)
        basicChars room rows fuel rest
      else if c = 'u' ∨ c = 'U' then
        let (char, rest) ← hexChar (room - escapeSteps rows) (if c = 'u' then 4 else 8) rest
        let (chars, rest) ← basicChars room rows fuel rest
        return (char :: chars, rest)
      else match unescape? c with
        | none => .error .malformed
        | some char =>
          (basicChars room rows fuel rest).map fun (chars, rest) => (char :: chars, rest)
    | c :: rest =>
      if c = '\\' ∨ (isControl c ∧ ¬ (rows ∧ c = '\n')) then .error .malformed
      else (basicChars room rows fuel rest).map fun (chars, rest) => (c :: chars, rest)

/-- A string in double quotes of one row, behind its opening quote. -/
def basicString (room : Room) (text : Text) : Except Fault (Text × Text) := do
  need 2 .rule room
  basicChars room false (text.length + 1) text

/-- A string in double quotes of several rows, behind its opening quotes. -/
def basicRows (room : Room) (text : Text) : Except Fault (Text × Text) := do
  need 2 .operation room
  basicChars room true (text.length + 1) text

/-- A string in single quotes of one row, behind its opening quote. -/
def literalString (room : Room) (text : Text) : Except Fault (Text × Text) := do
  need 2 .rule room
  need 3 .operation room
  match text.span (· != '\'') with
  | (chars, '\'' :: rest) => if chars.any isControl then .error .malformed else .ok (chars, rest)
  | _ => .error .malformed

/-- The characters up to three single quotes, and what follows those. -/
def literalRows : Text → Except Fault (Text × Text)
  | '\'' :: '\'' :: '\'' :: rest => .ok ([], rest)
  | [] => .error .malformed
  | c :: rest =>
    if isControl c ∧ c ≠ '\n' then .error .malformed
    else (literalRows rest).map fun (chars, rest) => (c :: chars, rest)

/-- A string in single quotes of several rows, behind its opening quotes. -/
def literalText (room : Room) (text : Text) : Except Fault (Text × Text) := do
  need 3 .operation room
  literalRows text

/-- Up to two quotes behind the three that end a string belong to the string. -/
def extraQuotes (quote : Char) : Text × Text → Text × Text
  | (chars, c :: d :: rest) =>
    if c = quote then
      if d = quote then (chars ++ [quote, quote], rest) else (chars ++ [quote], d :: rest)
    else (chars, c :: d :: rest)
  | (chars, [c]) => if c = quote then (chars ++ [quote], []) else (chars, [c])
  | (chars, []) => (chars, [])

/-- A text without the line feed at its front, if there is one. -/
def skipFeed : Text → Text
  | '\n' :: rest => rest
  | text => text

/-- A string, if a quote opens one. -/
def string? (room : Room) : Text → Option (Except Fault (Text × Text))
  | '"' :: '"' :: '"' :: rest => some ((basicRows room (skipFeed rest)).map (extraQuotes '"'))
  | '"' :: rest => some (basicString room rest)
  | '\'' :: '\'' :: '\'' :: rest =>
    some ((literalText room (skipFeed rest)).map (extraQuotes '\''))
  | '\'' :: rest => some (literalString room rest)
  | _ => none

/-- The characters of keys without quotes. -/
def isBareChar (c : Char) : Bool :=
  ('a' ≤ c && c ≤ 'z') || ('A' ≤ c && c ≤ 'Z') || Text.isPlainDigit c || c == '-' || c == '_'

/-- One part of a key. -/
def keyPart (room : Room) : Text → Except Fault (Text × Text)
  | '"' :: rest => basicString room rest
  | '\'' :: rest => literalString room rest
  | text => do
    need 1 .rule room
    match text.span isBareChar with
    | ([], _) => .error .malformed
    | (name, rest) => .ok (name, rest)

/-- A key: parts with dots between them. -/
def key (room : Room) : Nat → Text → Except Fault (List Text × Text)
  | 0, _ => .error .malformed
  | fuel + 1, text => do
    let (part, rest) ← keyPart (room - 2) text
    match skipSpace rest with
    | '.' :: rest =>
      let (parts, rest) ← key room fuel (skipSpace rest)
      return (part :: parts, rest)
    | rest => return ([part], rest)

/-- Two digits, as a number from a least to a greatest one. -/
def twoDigits? (low high : Nat) : Text → Option (Nat × Text)
  | a :: b :: rest =>
    if Text.isPlainDigit a && Text.isPlainDigit b then
      let n := Number.ofDigitText [a, b]
      if low ≤ n ∧ n ≤ high then some (n, rest) else none
    else none
  | _ => none

/-- The text behind a character. -/
def behindChar? (c : Char) : Text → Option Text
  | d :: rest => if c = d then some rest else none
  | [] => none

/-- The text behind a time of day. -/
def behindTime? (text : Text) : Option Text := do
  let (_, rest) ← twoDigits? 0 23 text
  let (_, rest) ← twoDigits? 0 59 (← behindChar? ':' rest)
  let (_, rest) ← twoDigits? 0 59 (← behindChar? ':' rest)
  match rest with
  | '.' :: d :: more =>
    if Text.isPlainDigit d then return more.dropWhile Text.isPlainDigit else return rest
  | _ => return rest

/-- The text behind the name or the offset of a time zone, if there is one. -/
def behindZone (text : Text) : Text :=
  match text with
  | c :: rest =>
    if c = 'Z' ∨ c = 'z' then rest
    else if c = '+' ∨ c = '-' then
      (do
        let (_, rest) ← twoDigits? 0 23 rest
        let (_, rest) ← twoDigits? 0 59 (← behindChar? ':' rest)
        return rest : Option Text).getD text
    else text
  | [] => text

/-- Year, month and day of a date, and the rest. -/
def date? (text : Text) : Option (Nat × Nat × Nat × Text) := do
  let (century, rest) ← twoDigits? 0 99 text
  let (year, rest) ← twoDigits? 0 99 rest
  let (month, rest) ← twoDigits? 1 12 (← behindChar? '-' rest)
  let (day, rest) ← twoDigits? 1 31 (← behindChar? '-' rest)
  return (100 * century + year, month, day, rest)

/-- The text behind a date with its time of day and its zone, which both may be absent. -/
def behindDateTime (text : Text) : Text :=
  match text with
  | c :: rest =>
    if c = 'T' ∨ c = 't' ∨ c = ' ' then
      match behindTime? rest with
      | some rest => behindZone rest
      | none => text
    else text
  | [] => text

/-- A date or a time, if one is there. Dates have to exist. -/
def moment? (text : Text) : Option (Except Fault (Value × Text)) :=
  let written (rest : Text) : Value := .moment (text.take (text.length - rest.length))
  match date? text with
  | some (year, month, day, rest) =>
    let rest := behindDateTime rest
    if year = 0 ∨ daysIn year month < day then some (.error .malformed)
    else some (.ok (written rest, rest))
  | none => (behindTime? text).map fun rest => .ok (written rest, rest)

/-- Digits of a class behind the first one, with single low lines between them, and the rest. -/
def moreDigits (isDigit : Char → Bool) : Text → Text × Text
  | '_' :: d :: rest =>
    if isDigit d then
      let (digits, rest) := moreDigits isDigit rest
      (d :: digits, rest)
    else ([], '_' :: d :: rest)
  | d :: rest =>
    if isDigit d then
      let (digits, rest) := moreDigits isDigit rest
      (d :: digits, rest)
    else ([], d :: rest)
  | [] => ([], [])

/-- Digits of a class with single low lines between them, and the rest. -/
def digits? (isDigit : Char → Bool) : Text → Option (Text × Text)
  | d :: rest =>
    if isDigit d then
      let (digits, rest) := moreDigits isDigit rest
      some (d :: digits, rest)
    else none
  | [] => none

/-- A digit of numbers to the base of sixteen. -/
def isHexDigit (c : Char) : Bool :=
  Text.isPlainDigit c || ('a' ≤ c && c ≤ 'f') || ('A' ≤ c && c ≤ 'F')

/-- The value of digits to some base of up to sixteen. -/
def ofBase (base : Nat) (digits : Text) : Nat :=
  digits.foldl (fun value c => base * value + (hexNumber? [c]).getD 0) 0

/-- An integer to the base of sixteen, two or eight, if one is there. -/
def basedInteger? : Text → Option (Value × Text)
  | '0' :: 'x' :: rest => read 16 (digits? isHexDigit rest)
  | '0' :: 'b' :: rest => read 2 (digits? (fun c => c == '0' || c == '1') rest)
  | '0' :: 'o' :: rest => read 8 (digits? (fun c => '0' ≤ c && c ≤ '7') rest)
  | _ => none
where
  /-- The value of digits, and the rest. -/
  read (base : Nat) (found : Option (Text × Text)) : Option (Value × Text) :=
    found.map fun (digits, rest) => (.integer (ofBase base digits), rest)

/-- The integral digits of a decimal number. A zero stands alone. -/
def wholeDigits? : Text → Option (Text × Text)
  | '0' :: rest => some (['0'], rest)
  | text => digits? Text.isPlainDigit text

/-- A point and digits, if they are there. -/
def fraction? : Text → Option (Text × Text)
  | '.' :: rest => digits? Text.isPlainDigit rest
  | _ => none

/-- A sign and what follows it: minus is one. -/
def sign : Text → Bool × Text
  | '-' :: rest => (true, rest)
  | '+' :: rest => (false, rest)
  | text => (false, text)

/-- An exponent, if it is there. -/
def exponent? : Text → Option (Int × Text)
  | c :: rest =>
    if c = 'e' ∨ c = 'E' then
      let (negative, rest) := sign rest
      (digits? Text.isPlainDigit rest).map fun (digits, rest) =>
        ((if negative then -1 else 1) * (Number.ofDigitText digits : Int), rest)
    else none
  | [] => none

/-- A decimal number, if one is there. -/
def decimal? (text : Text) : Option (Except Fault (Value × Text)) :=
  let (negative, unsigned) := sign text
  (wholeDigits? unsigned).map fun (whole, rest) =>
    match fraction? rest, exponent? ((fraction? rest).getD ([], rest)).2 with
    | none, none =>
      match Number.readDigits whole with
      | .ok n => .ok (.integer (if negative then -(n : Int) else n), rest)
      | .error e => .error (.integer e)
    | fraction, exponent =>
      let (fraction, rest) := fraction.getD ([], rest)
      let (power, rest) := exponent.getD (0, rest)
      let digits := whole ++ fraction
      .ok (.real (Number.nearest negative digits (power - fraction.length)), rest)

/-- A number without digits, if one is there. -/
def special? (text : Text) : Option (Value × Text) :=
  let (negative, unsigned) := sign text
  match unsigned with
  | 'i' :: 'n' :: 'f' :: rest => some (.real (if negative then -1.0 / 0.0 else 1.0 / 0.0), rest)
  | 'n' :: 'a' :: 'n' :: rest => some (.real (0.0 / 0.0), rest)
  | _ => none

/-- A date with a time of day has the offset of a time zone. -/
def hasOffset (text : Text) : Bool :=
  match date? text with
  | some (_, _, _, c :: rest) =>
    match if c = 'T' ∨ c = 't' ∨ c = ' ' then behindTime? rest else none with
    | some (sign :: rest) =>
      (sign == '+' || sign == '-') && (behindZone (sign :: rest)).length ≤ rest.length
    | _ => false
  | _ => false

/-- The room that a number, a date or a time needs. An offset needs some more. -/
def needDigits (room : Room) (text : Text) : Except Fault Unit := do
  need 2 .operation room
  if hasOffset text then
    need 3 .rule room
    need 4 .comparison room

/-- A number, a date or a time, if one is there. -/
def digital? (text : Text) : Option (Except Fault (Value × Text)) :=
  match moment? text with
  | some found => some found
  | none =>
    match basedInteger? text with
    | some found => some (.ok found)
    | none => decimal? text

/-- A value that holds no others. -/
def scalar (room : Room) (text : Text) : Except Fault (Value × Text) :=
  match string? room text with
  | some found => found.map fun (chars, rest) => (.text chars, rest)
  | none =>
    match text with
    | 't' :: 'r' :: 'u' :: 'e' :: rest => .ok (.flag true, rest)
    | 'f' :: 'a' :: 'l' :: 's' :: 'e' :: rest => .ok (.flag false, rest)
    | _ =>
      match digital? text, special? text with
      | some found, _ => (needDigits room text).bind fun () => found
      | none, some found => .ok found
      | none, none => .error .malformed

end Diagnostics.Toml
