import Diagnostics.Paint.Painter

/-!
The layout of a message: a header, and under it the lines of the context in a gutter with their
numbers. Under the line of the message stand a row of markers, with a caret under the column of the
message, and a row with the texts that hints suggest.
-/
namespace Diagnostics.Message

/-- What stands between the number of a line and the line. -/
def separator : Text := " | ".toList

/-- The place of a message, as its header starts. -/
def place (m : Message) : Text :=
  m.file ++ ':' :: Number.numeral m.line ++ ':' :: Number.numeral m.column ++ ": ".toList

/-- Neither the line nor the column of a message is too long to be written. -/
def isPlaceable (m : Message) : Bool := Number.isWritable m.line && Number.isWritable m.column

/-- The place of a message, if it can be written. -/
def writtenPlace (m : Message) : Outcome Text :=
  if m.isPlaceable then .ok m.place else .error .unwritable

def header (m : Message) (p : Painter) : Outcome Text := do
  let place ← p.paint (← m.writtenPlace) .location
  let level ← p.paint (m.level.name ++ ": ".toList) .level
  let text ← p.paint m.text .message
  return place ++ level ++ text

/-- The hint that a column belongs to. -/
def covering? (hints : List Hint) (column : Nat) : Option Hint :=
  hints.find? fun h => h.span.covers column

/-- The marker under a column, with its role. -/
def marker (m : Message) (column : Nat) : Char × Option Role :=
  match covering? m.hints column with
  | none => if column = m.column then ('^', some .caret) else (' ', none)
  | some h =>
    if column = m.column ∧ h.kind ≠ .mark then ('^', some (Role.ofKind h.kind))
    else ('~', some (Role.ofKind h.kind))

/-- The character that the hints suggest under a column. -/
def suggestionAt : List Hint → Nat → Char
  | [], _ => ' '
  | h :: rest, column =>
    if h.newText ≠ [] ∧ h.index ≤ column ∧ column < h.index + h.newText.length then
      h.newText.getD (column - h.index) ' '
    else suggestionAt rest column

/-- The number of columns under which anything may stand. -/
def hintWidth (m : Message) : Nat :=
  m.hints.foldl (fun width h => max width (max h.span.stop (h.index + h.newText.length)))
    (max m.column m.text.length)

/-- The columns of the rows under the line, from the first one on. -/
def hintColumns (m : Message) : List Nat := (List.range m.hintWidth).map (· + 1)

/-- The markers up to the last one that is no blank. -/
def markers (m : Message) : List (Char × Option Role) :=
  (((m.hintColumns.map m.marker).reverse).dropWhile fun cell => cell.1 == ' ').reverse

/-- The suggested texts, each under the column where it goes. -/
def suggestions (m : Message) : Text :=
  Text.trimEnd Text.isBlank (m.hintColumns.map (suggestionAt m.hints))

/-- A row without a number. A row without content ends with the bar of the gutter. -/
def gutterRow (width : Nat) (content : Text) : Text :=
  let gutter := List.replicate width ' ' ++ separator
  if content = [] then Text.trimEnd Text.isBlank gutter else gutter ++ content

/-- The rows under the line of the message. -/
def hintRows (m : Message) (p : Painter) (width : Nat) : Outcome (List Text) := do
  let row ← p.runs m.markers
  if m.suggestions = [] then return [gutterRow width row]
  else
    let suggested ← p.paint m.suggestions .suggestion
    return [gutterRow width row, gutterRow width suggested]

/-- The rows of some lines of the context, from a line number on. -/
def lineRows (m : Message) (p : Painter) (width : Nat) : Nat → List Text → Outcome (List Text)
  | _, [] => .ok []
  | number, line :: rest => do
    let text := Text.padLeft width (Number.numeral number) ++ separator ++ line
    if number = m.line then
      let row ← p.paint text .focusLine
      let under ← m.hintRows p width
      let below ← m.lineRows p width (number + 1) rest
      return row :: under ++ below
    else
      let row ← p.paint text .contextLine
      let below ← m.lineRows p width (number + 1) rest
      return row :: below

/-- The rows under the header: an empty one and those of the context, if there is one. The number
of the last line sets the width of the gutter. -/
def contextRows (m : Message) (p : Painter) : Outcome (List Text) :=
  match m.context with
  | none => .ok []
  | some context =>
    if Number.isWritable context.last then
      (m.lineRows p (Number.numeral context.last).length context.start context.lines).map ([] :: ·)
    else .error .unwritable

def unrenderable? (m : Message) : Option RenderError :=
  if m.file = [] then some .noFile
  else if m.text = [] then some .noText
  else if m.hints ≠ [] ∧ m.context = none then some .hintsWithoutContext
  else none

/-- The layout of a message, painted in the styles of a palette or not. -/
def renderWith (m : Message) (palette : Palette) (styles : Styles) (color : Bool) : Outcome Text :=
  match m.unrenderable? with
  | some error => .error (.render error)
  | none => do
    let painter : Painter := ⟨m.level, styles, palette, color⟩
    let header ← m.header painter
    let rows ← m.contextRows painter
    return Text.joinLines (header :: rows)

def render (m : Message) (styles : Styles) (color : Bool) : Outcome Text :=
  m.renderWith Style.palette styles color

end Diagnostics.Message
