import Diagnostics.Message.Fix

/-!
Reports in the SARIF format: one run of one tool, with a result for each message. The line of a
message with a context is the snippet of its region, and a message without a file names none.
-/
namespace Diagnostics.Sarif

def version : Text := "2.1.0".toList

/-- Where the format is described. -/
def schema : Text :=
  "https://schemastore.azurewebsites.net/schemas/json/sarif-2.1.0.json".toList

/-- The name of the tool that writes a report, unless another one is given. -/
def defaultTool : Value := .text "diagnoseit".toList

def toolVersion : Text := "0.1.0".toList

/-- The members that show the line of a message. -/
def snippet (m : Message) : Outcome (List (String × Value)) :=
  match m.context with
  | none => .ok []
  | some _ => m.focusLine.map fun line => [("snippet", Value.ofMembers [("text", .text line)])]

def result (m : Message) : Outcome Value :=
  (snippet m).map fun snippet =>
    let region := Value.ofMembers
      ([("startLine", .integer m.line), ("startColumn", .integer m.column)] ++ snippet)
    let file := if m.file = [] then []
      else [("artifactLocation", Value.ofMembers [("uri", .text m.file)])]
    Value.ofMembers
      [("level", .text m.level.reportLevel),
       ("message", Value.ofMembers [("text", .text m.text)]),
       ("locations", .list
         [Value.ofMembers
           [("physicalLocation", Value.ofMembers (("region", region) :: file))]])]

/-- The report on some messages of a tool, which is named by any value. -/
def document (messages : List Message) (tool : Value) : Outcome Value :=
  (messages.mapM result).map fun results =>
    Value.ofMembers
      [("version", .text version),
       ("$schema", .text schema),
       ("runs", .list
         [Value.ofMembers
           [("tool", Value.ofMembers
             [("driver", Value.ofMembers
               [("name", tool), ("version", .text toolVersion)])]),
            ("results", .list results)]])]

end Diagnostics.Sarif
