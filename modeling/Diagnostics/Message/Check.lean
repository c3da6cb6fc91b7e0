import Diagnostics.Hint.Check
import Diagnostics.Value.Display

/-!
Messages from their parts and from values of unknown shape. All parts are checked, and then
whether they fit together.
-/
namespace Diagnostics

/-- A text of one line. -/
def Location.checkText (text : Text) : Checked Text :=
  Check.rule (fun t => !t.any Text.isBreak) "message text cannot contain newlines" text

def Location.ofMembers (members : Members) : Checked Location :=
  (Check.both (Check.required members "text" fun v => (Check.text v).bind Location.checkText)
    (Check.both (Check.defaulted members "line" none (Check.optional (Check.natural 1)))
      (Check.defaulted members "column" none (Check.optional (Check.natural 1))))).map
    fun (text, line, column) => ⟨text, line, column⟩

def Location.check : Value → Checked Location := Check.record .location Location.ofMembers

/-- A number that is not below one, if it is set. -/
def Location.checkNumber : Option Int → Checked (Option Nat)
  | none => .ok none
  | some n => (Check.atLeast 1 n).map some

def Location.make (text : Text) (line column : Option Int) : Checked Location :=
  (Check.both (Check.member "text" (Location.checkText text))
    (Check.both (Check.member "line" (Location.checkNumber line))
      (Check.member "column" (Location.checkNumber column)))).map
    fun (text, line, column) => ⟨text, line, column⟩

def Context.check : Value → Checked Context :=
  Check.record .window fun members =>
    (Check.both (Check.required members "start_line" (Check.natural 1))
      (Check.required members "lines" (Check.list Check.text))).map
      fun (start, lines) => ⟨start, lines⟩

/-- The lines that a value stands for: the pieces of a text between its breaks, the items of a list
as texts, the member names of an object. -/
def Context.linesOf : Value → Outcome (List Text)
  | .text t => .ok (Text.splitBreaks t)
  | .list items => items.mapM Value.asText
  | .object members => .ok (members.map Prod.fst)
  | _ => .error .wrongType

/-- A context contains the line that a number stands for. Other values are no lines. -/
def Context.containsValue (c : Context) : Value → Outcome Bool
  | .integer n => .ok (c.contains n)
  | .flag b => .ok (c.contains (if b then 1 else 0))
  | .real x =>
    if Number.isFinite x then
      let (n, d) := Number.quotientOf x
      .ok (decide (c.start * d ≤ n ∧ n ≤ c.last * d))
    else .ok false
  | _ => .error .wrongType

/-- The line of the number that a value stands for. -/
def Context.lineAtValue (c : Context) : Value → Outcome Text
  | .integer n => (c.lineAt n).mapError .noLine
  | .flag b => (c.lineAt (if b then 1 else 0)).mapError .noLine
  | _ => .error .wrongType

namespace Message

/-- A file name: one line, and without blanks. -/
def checkFile (file : Text) : Checked Text :=
  (Check.rule (fun t => !t.any Text.isBreak) "file name cannot contain newlines" file).bind
    (Check.rule (fun t => !t.any Text.isBlank) "file name cannot contain whitespace")

/-- A message of checked parts, with its hints in order, if they fit together. -/
def fitted (file : Text) (level : Severity) (location : Location) (context : Option Context)
    (hints : List Hint) : Checked Message :=
  let hints := Hint.sort hints
  match misfit? location.effectiveLine context hints with
  | some misfit => Check.fail (.rejected (Error.ofMisfit misfit).message)
  | none => .ok ⟨file, level, location, context, hints⟩

def build (file : Text) (level : Severity) (location : Location) (context : Option Context)
    (hints : List Hint) : Checked Message :=
  (Check.member "file" (checkFile file)).bind fun file => fitted file level location context hints

def check : Value → Checked Message :=
  Check.record .message fun members =>
    (Check.both (Check.required members "file" fun v => (Check.text v).bind checkFile)
      (Check.both (Check.defaulted members "level" .note Check.severity)
        (Check.both (Check.required members "location" Location.check)
          (Check.both (Check.defaulted members "context" none (Check.optional Context.check))
            (Check.defaulted members "hints" [] (Check.list Hint.check)))))).bind
      fun (file, level, location, context, hints) => fitted file level location context hints

def checked {α : Type} (subject : Subject) : Checked α → Outcome α
  | .ok a => .ok a
  | .error found => .error (.invalid subject found)

/-- A message without context. The location is checked first. -/
def create (file text : Text) (level : Severity) (line column : Option Int) : Outcome Message :=
  (checked .location (Location.make text line column)).bind fun location =>
    checked .message (build file level location none [])

/-- A message without context of a severity, from its file, its text, its line and its column. -/
def describe (level : Severity) (members : Members) : Outcome Message :=
  (checked .location (Location.ofMembers members)).bind fun location =>
    checked .message
      ((Check.required members "file" fun v => (Check.text v).bind checkFile).bind fun file =>
        fitted file level location none [])

end Message
end Diagnostics
