import Diagnostics.Severity
import Diagnostics.Hint.Basic
import Diagnostics.Number.Numeral
import Diagnostics.Text.Blank

/-!
Messages: a file, a severity, a location with the text of the message, the lines around that
location, and hints for its line. Lines and columns count from one.
-/
namespace Diagnostics

/-- The text of a message and where it points. -/
structure Location where
  text : Text
  line : Option Nat
  column : Option Nat
  deriving DecidableEq

namespace Location

/-- The line, the first one unless it is set. -/
def effectiveLine (l : Location) : Nat := l.line.getD 1

/-- The column, the first one unless it is set. -/
def effectiveColumn (l : Location) : Nat := l.column.getD 1

/-- The text is one line, and numbers that are set count from one. -/
def Valid (l : Location) : Prop :=
  l.text.any Text.isBreak = false ∧ (∀ n ∈ l.line, 1 ≤ n) ∧ ∀ n ∈ l.column, 1 ≤ n

instance (l : Location) : Decidable l.Valid := inferInstanceAs (Decidable (_ ∧ _))

end Location

/-- Neighbouring lines of a file. -/
structure Context where
  /-- The number of the first line. -/
  start : Nat
  lines : List Text
  deriving DecidableEq

namespace Context

def last (c : Context) : Nat := c.start + c.lines.length - 1

def contains (c : Context) (line : Int) : Bool :=
  decide (c.start ≤ line ∧ line < c.start + c.lines.length)

/-- The line of some number. Numbers below the context count from its end. -/
def lineAt (c : Context) (line : Int) : Except Text.IndexError Text :=
  Text.itemAt c.lines (line - c.start)

end Context

/-- How the parts of a message may fail to fit together. -/
inductive Misfit where
  /-- The line of the message is none of its context. -/
  | outsideContext (line first last : Nat)
  /-- There are hints for a line that is not there. -/
  | hintsWithoutContext
  /-- A hint touches an earlier one. -/
  | overlap (column earlier : Nat)
  deriving DecidableEq

def Misfit.numbers : Misfit → List Nat
  | .outsideContext line first last => [line, first, last]
  | .hintsWithoutContext => []
  | .overlap column earlier => [column, earlier]

def Misfit.message : Misfit → Text
  | .outsideContext line first last =>
    "line ".toList ++ Number.numeral line ++ " is outside the context window (lines ".toList ++
      Number.numeral first ++ '-' :: Number.numeral last ++ [')']
  | .hintsWithoutContext => "fix-it hints require a context".toList
  | .overlap column earlier =>
    "fix-it hint at column ".toList ++ Number.numeral column ++
      " overlaps the hint at column ".toList ++ Number.numeral earlier

/-- A message about a place in a file. -/
structure Message where
  file : Text
  level : Severity
  location : Location
  context : Option Context
  /-- The hints, in the order of their first columns. -/
  hints : List Hint
  deriving DecidableEq

namespace Message

def text (m : Message) : Text := m.location.text

def line (m : Message) : Nat := m.location.effectiveLine

def column (m : Message) : Nat := m.location.effectiveColumn

/-- The misfit between a line and a context, if there is one. -/
def contextMisfit? (line : Nat) (context : Context) : Option Misfit :=
  if context.contains line then none
  else some (.outsideContext line context.start context.last)

/-- The misfit between hints, if there is one. -/
def hintMisfit? (hints : List Hint) : Option Misfit :=
  (Hint.firstTouch? hints).map fun pair => .overlap pair.2.index pair.1.index

/-- The first misfit between a line, a context and hints, if there is one. -/
def misfit? (line : Nat) (context : Option Context) (hints : List Hint) : Option Misfit :=
  match context with
  | none => if hints.isEmpty then none else some .hintsWithoutContext
  | some context => (contextMisfit? line context).or (hintMisfit? hints)

/-- Hints in ascending order, each behind the column after the one before it. -/
def Spaced (hints : List Hint) : Prop :=
  hints.Pairwise fun h later => h.span.stop < later.index

/-- What holds of every message: a file name without blanks, a text of one line, numbers that count
from one, a context around the line, and spaced hints that only a message with a context has. -/
structure Valid (m : Message) : Prop where
  file_solid : m.file.any Text.isBlank = false
  location_valid : m.location.Valid
  context_around : ∀ c ∈ m.context, 1 ≤ c.start ∧ c.start ≤ m.line ∧ m.line < c.start + c.lines.length
  hints_in_context : m.context = none → m.hints = []
  hints_valid : ∀ h ∈ m.hints, h.Valid
  hints_spaced : Spaced m.hints

instance (hints : List Hint) : Decidable (Spaced hints) :=
  inferInstanceAs (Decidable (hints.Pairwise fun h later => h.span.stop < later.index))

instance (m : Message) : Decidable m.Valid :=
  decidable_of_iff (m.file.any Text.isBlank = false ∧ m.location.Valid ∧
    (∀ c ∈ m.context, 1 ≤ c.start ∧ c.start ≤ m.line ∧ m.line < c.start + c.lines.length) ∧
    (m.context = none → m.hints = []) ∧ (∀ h ∈ m.hints, h.Valid) ∧ Spaced m.hints)
  ⟨fun ⟨file, location, context, hints, valid, spaced⟩ =>
      ⟨file, location, context, hints, valid, spaced⟩,
    fun ⟨file, location, context, hints, valid, spaced⟩ =>
      ⟨file, location, context, hints, valid, spaced⟩⟩

/-- A copy without the context, which may leave hints behind. -/
def withoutContext (m : Message) : Message := { m with context := none }

end Message
end Diagnostics
