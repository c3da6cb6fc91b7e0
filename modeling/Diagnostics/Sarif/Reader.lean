import Diagnostics.Message.Update
import Diagnostics.Value.Lookup

/-!
Reading messages out of reports in the SARIF format. A report has runs, a run has results, and each
result has a text and locations. There is a message for each location in a file of a result with a
text; everything else is passed over.
-/
namespace Diagnostics.Sarif

def runs (document : Value) : Outcome (List Value) :=
  match document.member? "runs".toList with
  | some (.list runs) => .ok runs
  | _ => .error (.report .noRuns)

/-- The run at an index. An index that is too long to be written is an error of its own where the
error would name it. -/
def runAt (runs : List Value) (index : RunIndex) : Outcome Members :=
  match Text.itemAt? runs index.toInt with
  | none => .error (.ofReport (.noRunAt index))
  | some (.object members) => .ok members
  | some _ => .error (.ofReport (.runNotObject index))

/-- The index of the last of some runs. -/
def lastIndex (runs : List Value) : RunIndex := .number ((runs.length : Int) - 1)

/-- The run of a report at an index; the last one if no index is given. -/
def run (document : Value) (index : Option RunIndex) : Outcome Members :=
  (runs document).bind fun runs => runAt runs (index.getD (lastIndex runs))

/-- The index that a value stands for, if it stands for one. -/
def indexOf : Value → Outcome (Option RunIndex)
  | .null => .ok none
  | .integer n => .ok (some (.number n))
  | .flag b => .ok (some (.flag b))
  | _ => .error .wrongType

/-- A location in a file, with the text and the severity of its result. -/
structure Finding where
  text : Text
  level : Severity
  physical : Members

def severity (result : Members) : Severity :=
  match Members.valueOf? result "level".toList with
  | some (.text level) => Severity.ofReportLevel level
  | _ => .warning

/-- The objects in the list that a member holds. -/
def objectsOf (members : Members) (key : String) : List Members :=
  ((Members.valueOf? members key.toList).getD .null).objects

def findingsOf (result : Members) : List Finding :=
  match Members.textAt? (Members.objectAt? result "message".toList) "text".toList with
  | none | some [] => []
  | some text =>
    (objectsOf result "locations").filterMap fun location =>
      (Members.objectAt? location "physicalLocation".toList).map fun physical =>
        ⟨text, severity result, physical⟩

def findings (run : Members) : List Finding := (objectsOf run "results").flatMap findingsOf

/-- The message of a finding. A snippet of the file is its context. -/
def Finding.toMessage (f : Finding) : Outcome Message := do
  let uri :=
    (Members.textAt? (Members.objectAt? f.physical "artifactLocation".toList) "uri".toList).getD []
  let region := Members.objectAt? f.physical "region".toList
  let line ← Members.integerAt region "startLine".toList 1
  let column ← Members.integerAt region "startColumn".toList 1
  let message ← Message.create uri f.text f.level (some line) (some column)
  match Members.textAt? (region.bind fun region => Members.objectAt? region "snippet".toList)
      "text".toList with
  | none => return message
  | some snippet =>
    message.withContext line (Text.splitBreaks (Text.trimEnd Text.isBreak snippet))

/-- The messages before the first error, and that error. -/
def untilError : List (Outcome Message) → List Message × Option Error
  | [] => ([], none)
  | .error e :: _ => ([], some e)
  | .ok m :: rest =>
    let (messages, error) := untilError rest
    (m :: messages, error)

/-- The messages of a run, up to the first error. -/
def messagesOf (run : Members) : List Message × Option Error :=
  untilError ((findings run).map Finding.toMessage)

/-- The messages of one run of a report, up to the first error. -/
def messages (document : Value) (index : Option RunIndex) :
    Outcome (List Message × Option Error) :=
  (run document index).map messagesOf

/-- The messages of the run that a value picks, up to the first error. -/
def messagesAt (document index : Value) : Outcome (List Message × Option Error) := do
  let runs ← runs document
  let index ← indexOf index
  let run ← runAt runs (index.getD (lastIndex runs))
  return messagesOf run

end Diagnostics.Sarif
