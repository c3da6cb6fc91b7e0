import Diagnostics.Error

/-!
The line that a message is about, and that line with the hints of the message carried out. There
are two ways to do so: from the last hint to the first, where no edit moves a hint still to come,
or from the first to the last, where each edit moves the others by what the line has grown.
-/
namespace Diagnostics

/-- A line with hints carried out from the last to the first. -/
def Hint.applyBackwards (hints : List Hint) (line : Text) : Text := hints.foldr Hint.apply line

/-- A line with hints carried out from the first to the last, after edits by which it has grown. -/
def Hint.applyForwards : List Hint → Int → Text → Text
  | [], _, line => line
  | hint :: rest, grown, line =>
    let edited := hint.applyAt line grown
    applyForwards rest (grown + (edited.length - line.length)) edited

namespace Message

/-- The line of the context that the message is about. -/
def focusLine (m : Message) : Outcome Text :=
  match m.context with
  | none => .error (.noContext .readingLine)
  | some context =>
    match context.lineAt m.line with
    | .ok line => .ok line
    | .error e => .error (.noLine e)

/-- The line with every hint carried out, the last one first. -/
def applyHints (m : Message) : Outcome Text :=
  match m.context with
  | none => .error (.noContext .applyingHints)
  | some _ => m.focusLine.map (Hint.applyBackwards m.hints)

/-- The line with every hint carried out, the first one first. -/
def fixedLine (m : Message) : Outcome Text :=
  m.focusLine.map (Hint.applyForwards m.hints 0)

end Message
end Diagnostics
