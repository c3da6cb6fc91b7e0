import Diagnostics.Message.Basic
import Diagnostics.Value.Basic

/-!
Messages as plain values, with all that they hold: the entries of a summary.
-/
namespace Diagnostics

def Hint.summary (h : Hint) : Value :=
  Value.ofMembers
    [("modification", .text h.kind.name),
     ("index", .integer h.index),
     ("length", .integer h.span.length),
     ("text", Value.ofOption .text h.text?)]

def Context.summary (c : Context) : Value :=
  Value.ofMembers [("start_line", .integer c.start), ("lines", .list (c.lines.map .text))]

namespace Message

/-- A message as a value. Its line and its column are always there. -/
def summary (m : Message) : Value :=
  let context := match m.context with
    | none => []
    | some context => [("context", context.summary)]
  let hints := if m.hints = [] then [] else [("hints", .list (m.hints.map Hint.summary))]
  Value.ofMembers
    ([("file", .text m.file),
      ("level", .text m.level.name),
      ("message", .text m.text),
      ("line", .integer m.line),
      ("column", .integer m.column)] ++ context ++ hints)

end Message
end Diagnostics
