import Diagnostics.Files
import Diagnostics.Json.Writer
import Diagnostics.Sarif.Writer
import Diagnostics.Summary

/-!
The texts of reports on some messages: a list of their summaries, and a report in the SARIF format.
-/
namespace Diagnostics.Report

/-- The text of a document, unless one of its integers is too long to be written. -/
def textOf (document : Value) : Outcome Text :=
  if document.isWritable then .ok (Json.write document) else .error .unwritable

def summaries (messages : List Message) : Outcome Text :=
  textOf (.list (messages.map Message.summary))

/-- The report of a tool on some messages. -/
def sarif (messages : List Message) (tool : Value) : Outcome Text :=
  (Sarif.document messages tool).bind textOf

/-- The files with a report on some messages. -/
def writeSarif (files : Files) (messages : List Message) (path : Text) : Outcome Files :=
  (sarif messages Sarif.defaultTool).bind fun text => files.writeText path text

end Diagnostics.Report
