import Diagnostics.Json.Reader
import Diagnostics.Log.Scanner
import Diagnostics.Sarif.Reader
import Diagnostics.Settings.Basic

/-!
Reading the messages out of a file: a report by the ending of its name, and a log otherwise.
-/
namespace Diagnostics

/-- The document that a text holds. -/
def Json.documentOf (room : Room) (text : Text) : Outcome Value :=
  match Json.read room text with
  | .ok document => .ok document
  | .error .malformed => .error .document
  | .error .half => .error .halfCharacter
  | .error (.integer e) => .error (.integer e)
  | .error (.tooDeep nesting) => .error (.tooDeep nesting)

namespace Files

/-- The messages of a report, up to the first error in one of them. -/
def reportMessages (files : Files) (room : Room) (path : Text) : Outcome (List Message × Option Error) := do
  let text ← files.readText path
  let document ← Json.documentOf room text
  Sarif.messages document none

/-- The messages of a log, up to the first error. -/
def logMessages (files : Files) (path : Text) : List Message × Option Error :=
  match files.readLines path with
  | .ok (lines, fault) => Log.messagesFrom fault .empty lines
  | .error e => ([], some e)

/-- The messages of a file, up to the first error. What is wrong with a whole report is an error at
once. -/
def messages (files : Files) (settings : Settings) (room : Room) (path : Text) :
    Outcome (List Message × Option Error) :=
  if settings.isReport path then files.reportMessages room path else .ok (files.logMessages path)

end Files
end Diagnostics
