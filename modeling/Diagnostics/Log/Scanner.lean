import Diagnostics.Log.Header
import Diagnostics.Message.Update

/-!
Reading messages out of the lines of a log. A header starts a message; if the next line is no
header, it is the line that the message is about, without the indentation of the header. A message
waits until it is known what follows its header. Lines that belong to no message are passed over,
and a header with numbers out of range is an error that changes nothing else.
-/
namespace Diagnostics.Log

/-- The message that waits for the line behind its header, and the indentation of the header last
read. -/
structure Memory where
  pending : Option Message
  indent : Nat
  deriving DecidableEq

def Memory.empty : Memory := ⟨none, 0⟩

def number (digits : Text) : Outcome Nat :=
  match Number.readDigits digits with
  | .ok n => .ok n
  | .error e => .error (.integer e)

def Header.toMessage (h : Header) : Outcome Message := do
  let line ← number h.line
  let column ← number h.column
  Message.create h.file h.message h.level.severity (some line) (some column)

/-- A line without the blanks at its front, but for those behind a number of characters. -/
def dropIndent : Nat → Text → Text
  | 0, line => line
  | _ + 1, [] => []
  | n + 1, c :: rest => if Text.isBlank c then dropIndent n rest else c :: rest

/-- What a line does: the message that it completes, if there is one, and what is remembered. -/
def feed (memory : Memory) (line : Text) : Outcome (Option Message) × Memory :=
  match header? line with
  | some (start, header) =>
    match header.toMessage with
    | .error e => (.error e, memory)
    | .ok message => (.ok memory.pending, ⟨some message, start⟩)
  | none =>
    match memory.pending with
    | none => (.ok none, memory)
    | some message =>
      match message.withContext message.line [dropIndent memory.indent line] with
      | .error e => (.error e, memory)
      | .ok message => (.ok (some message), { memory with pending := none })

/-- A line of a source without the line end that it may have. -/
def bare (line : Text) : Text := Text.trimEnd Text.isBreak line

/-- What a scanner gives when it is asked for the next message. -/
inductive Answer where
  | message (m : Message)
  | failure (e : Error)
  | finished
  deriving DecidableEq

/-- A scanner: the lines that it has not asked for, the number of those that it has, and what it
remembers. -/
structure Scanner where
  ahead : List Text
  consumed : Nat
  memory : Memory

namespace Scanner

def ofLines (lines : List Text) : Scanner := ⟨lines, 0, .empty⟩

/-- The next answer of a scanner, and the scanner behind it. It asks for lines only until it has an
answer; behind the last line it gives what still waits. -/
def nextFrom (consumed : Nat) (memory : Memory) : List Text → Answer × Scanner
  | [] =>
    match memory.pending with
    | some message => (.message message, ⟨[], consumed, { memory with pending := none }⟩)
    | none => (.finished, ⟨[], consumed, memory⟩)
  | line :: rest =>
    match feed memory (bare line) with
    | (.error e, memory) => (.failure e, ⟨rest, consumed + 1, memory⟩)
    | (.ok (some message), memory) => (.message message, ⟨rest, consumed + 1, memory⟩)
    | (.ok none, memory) => nextFrom (consumed + 1) memory rest

/-- The next answer of a scanner, and the scanner behind it. -/
def next (s : Scanner) : Answer × Scanner := nextFrom s.consumed s.memory s.ahead

/-- The answers of a scanner with the scanner behind each, up to the end or a number of them. -/
def answers : Nat → Scanner → List (Answer × Scanner)
  | 0, _ => []
  | calls + 1, s =>
    let (answer, s) := s.next
    (answer, s) :: (if answer = .finished then [] else answers calls s)

end Scanner

/-- The messages of a log from some line on, up to the first error. Behind the last line there may
be a fault that keeps from reading more; then what still waits is lost. -/
def messagesFrom (fault : Option Error) (memory : Memory) :
    List Text → List Message × Option Error
  | [] => match fault with
    | none => (memory.pending.toList, none)
    | some e => ([], some e)
  | line :: rest =>
    match feed memory (bare line) with
    | (.error e, _) => ([], some e)
    | (.ok emitted, memory) =>
      let (messages, error) := messagesFrom fault memory rest
      (emitted.toList ++ messages, error)

/-- The messages of a log, up to the first error. -/
def messages (lines : List Text) : List Message × Option Error := messagesFrom none .empty lines

end Diagnostics.Log
