import Diagnostics.Message.Update
import Diagnostics.Value.Lookup

/-!
Messages in an older form: an identifier that names the file, a type, a text, a line number, a
caret with an index and a length, and a context. A caret of several columns becomes a mark behind
the column of the message, where there is a context to show it.
-/
namespace Diagnostics.OldForm

/-- A value is one, as a number or as a flag. -/
def isOne : Value → Bool
  | .integer n => n == 1
  | .flag b => b
  | .real x => x == 1
  | _ => false

/-- A value as an integer. Numbers lose their fraction, and texts are read. -/
def toInteger : Value → Outcome Int
  | .integer n => .ok n
  | .flag b => .ok (if b then 1 else 0)
  | .real x =>
    if Number.isFinite x then .ok (Number.truncate x)
    else if x == x then .error .infiniteNumber
    else .error .undefinedNumber
  | .text t =>
    match Number.readInteger t with
    | .ok n => .ok n
    | .error e => .error (.integer e)
  | _ => .error .wrongType

def membersOf : Value → Outcome Members
  | .object members => .ok members
  | _ => .error .noMembers

/-- A member as an integer, one if it is absent. -/
def integerMember (members : Members) (name : String) : Outcome Int :=
  toInteger ((Members.valueOf? members name.toList).getD (.integer 1))

/-- A member that must be there, as a text. -/
def textMember (members : Members) (name : String) : Outcome Text :=
  match Members.valueOf? members name.toList with
  | some value => value.asText
  | none => .error (.absentMember name.toList)

def severity (members : Members) : Severity :=
  match Members.valueOf? members "type".toList with
  | some (.text label) => Severity.ofLabel label .note
  | _ => .note

/-- The caret of a message: its index and its length. -/
def caret (members : Members) : Outcome (Int × Int) := do
  let value := (Members.valueOf? members "caret".toList).getD .null
  let caret ← if value.isVoid then .ok [] else membersOf value
  let index ← integerMember caret "index"
  let length ← integerMember caret "length"
  return (index, length)

/-- The mark for a caret of some columns. -/
def mark (index length : Int) : Outcome Hint :=
  Hint.describe .mark
    [("index".toList, .integer (index + 1)), ("length".toList, .integer (length - 1))]

/-- A message of the older form. Only version one of that form is known. -/
def convert (payload version : Value) : Outcome Message := do
  if !isOne version then .error (.unknownForm (← version.asText))
  let members ← membersOf payload
  let (index, length) ← caret members
  let file ← textMember members "id"
  let text ← textMember members "message"
  let line ← integerMember members "lineNumber"
  let message ← Message.create file text (severity members) (some line) (some index)
  match (Members.valueOf? members "context".toList).getD .null with
  | .null => return message
  | context =>
    let context ← membersOf context
    let start ← integerMember context "index"
    let lines := (Members.valueOf? context "lines".toList).getD (.list [])
    let message ← message.withContextValues (.integer start) lines
    if 1 < length then message.withHint (← mark index length) else return message

end Diagnostics.OldForm
