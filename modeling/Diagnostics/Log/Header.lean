import Diagnostics.Severity
import Diagnostics.Text.DecimalDigit
import Diagnostics.Text.WordChar

/-!
Headers of messages in logs: a file, a line and a column, each with a colon behind it, a blank, the
name of a level with a colon and a blank behind it, and a text up to the end of the line.
-/
namespace Diagnostics.Log

def isFileChar (c : Char) : Bool :=
  Text.isWordChar c || c == '.' || c == '-' || c == '/' || c == '\\'

/-- The levels that headers have. -/
inductive Level where
  | error
  | warning
  | note
  deriving DecidableEq

namespace Level

def name : Level → Text
  | .error => "error".toList
  | .warning => "warning".toList
  | .note => "note".toList

def severity : Level → Severity
  | .error => .error
  | .warning => .warning
  | .note => .note

end Level

/-- The parts of a header, as they are written. -/
structure Header where
  file : Text
  line : Text
  column : Text
  level : Level
  message : Text
  deriving DecidableEq

def Header.text (h : Header) : Text :=
  h.file ++ ':' :: h.line ++ ':' :: h.column ++ ": ".toList ++ h.level.name ++ ": ".toList ++
    h.message

/-- The name of a level with a colon and a blank, at the front of a text, and the rest. -/
def level? : Text → Option (Level × Text)
  | 'e' :: 'r' :: 'r' :: 'o' :: 'r' :: ':' :: ' ' :: rest => some (.error, rest)
  | 'w' :: 'a' :: 'r' :: 'n' :: 'i' :: 'n' :: 'g' :: ':' :: ' ' :: rest => some (.warning, rest)
  | 'n' :: 'o' :: 't' :: 'e' :: ':' :: ' ' :: rest => some (.note, rest)
  | _ => none

/-- The longest run of a class of characters at the front of a text, if it is not empty and a colon
follows it, and what stands behind the colon. -/
def field? (inClass : Char → Bool) (text : Text) : Option (Text × Text) :=
  match text.takeWhile inClass, text.dropWhile inClass with
  | [], _ => none
  | run, ':' :: rest => some (run, rest)
  | _, _ => none

def headerAt? (text : Text) : Option Header := do
  let (file, rest) ← field? isFileChar text
  let (line, rest) ← field? Text.isPlainDigit rest
  let (column, rest) ← field? Text.isPlainDigit rest
  match rest with
  | ' ' :: rest =>
    let (level, rest) ← level? rest
    return ⟨file, line, column, level, rest.takeWhile (· != '\n')⟩
  | _ => none

/-- The first header in a text, with the number of characters before it. -/
def header? : Text → Option (Nat × Header)
  | [] => none
  | c :: rest =>
    match headerAt? (c :: rest) with
    | some header => some (0, header)
    | none => (header? rest).map fun (start, header) => (start + 1, header)

end Diagnostics.Log
