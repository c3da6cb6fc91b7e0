import Diagnostics.Check.Problem
import Diagnostics.Message.Basic
import Diagnostics.Number.Integer
import Diagnostics.Timestamp.Basic
import Diagnostics.Value.Display

/-!
Why an operation fails: each cause with the facts that its wording needs.
-/
namespace Diagnostics

/-- What a context was needed for. -/
inductive ContextUse where
  | readingLine
  | addingHint
  | applyingHints
  | creatingPatch
  deriving DecidableEq

inductive RenderError where
  | noFile
  | noText
  | hintsWithoutContext
  deriving DecidableEq

inductive PatchError where
  | noHeader
  | noTarget
  | lineBeforeHunk (line : Text)
  | noHunk
  | outside (line : Nat)
  | invalidRow (row : Text)
  | mismatch (line : Nat)
  | wrongCount (line expected found : Nat)
  deriving DecidableEq

/-- The index of a run in a report. -/
inductive RunIndex where
  | number (n : Int)
  /-- A flag, which counts as zero or one. -/
  | flag (b : Bool)
  deriving DecidableEq

/-- The number that an index stands for. -/
def RunIndex.toInt : RunIndex → Int
  | .number n => n
  | .flag b => if b then 1 else 0

def RunIndex.text : RunIndex → Text
  | .number n => Number.integerText n
  | .flag b => (Value.flag b).display

/-- Why a report holds no run that can be read. -/
inductive ReportError where
  | noRuns
  | noRunAt (index : RunIndex)
  | runNotObject (index : RunIndex)
  deriving DecidableEq

/-- The index that the wording needs, if it needs one, can be written. -/
def ReportError.isWritable : ReportError → Bool
  | .noRuns => true
  | .noRunAt index | .runNotObject index => Number.isWritable index.toInt.natAbs

/-- Why settings cannot be read. -/
inductive SettingsError where
  /-- The file is not in the format of settings files. -/
  | malformed
  /-- The section is not a table. -/
  | notTable
  /-- The section holds wrong values. -/
  | invalid (problems : List Problem)
  deriving DecidableEq

/-- Why an operation fails. -/
inductive Error where
  /-- A record cannot be made from the values given for it. -/
  | invalid (subject : Subject) (problems : List Problem)
  /-- A context cannot start before the first line. -/
  | contextStart
  /-- The parts of a message do not fit together. -/
  | misfit (misfit : Misfit)
  | noContext (use : ContextUse)
  | render (error : RenderError)
  | patch (error : PatchError)
  | report (error : ReportError)
  | settings (error : SettingsError)
  /-- A text is no integer. -/
  | integer (error : Number.IntegerError)
  /-- A member of a report should be an integer. -/
  | notInteger (member shown : Text)
  /-- A number without integral part. -/
  | undefinedNumber
  | infiniteNumber
  | unknownForm (version : Text)
  | unknownSeverity (shown : Text)
  | unknownRole (shown : Text)
  /-- A member that must be there is absent. -/
  | absentMember (name : Text)
  /-- A value has a type for which the operation is not defined. -/
  | wrongType
  /-- A value has no members. -/
  | noMembers
  /-- A name cannot be set. -/
  | notSettable
  /-- No line has the number that was asked for. -/
  | noLine (error : Text.IndexError)
  /-- A number has more digits than are written. -/
  | unwritable
  /-- A style cannot be read. -/
  | style
  /-- A document cannot be read. -/
  | document
  /-- Half of a character stands alone in a document, which is no text. -/
  | halfCharacter
  /-- Parts of a document stand too deep inside each other. -/
  | tooDeep (nesting : Nesting)
  /-- Bytes are no text. -/
  | encoding
  | absentFile
  | isDirectory
  /-- A file stands where a path has a directory. -/
  | notDirectory
  /-- A path is longer than file systems allow. -/
  | pathTooLong
  /-- Numbers are no time. -/
  | time (error : TimeError)
  /-- A path holds the null character. -/
  | nullInPath
  /-- A path starts with the name of a user who has no home. -/
  | noHome
  deriving DecidableEq

def ContextUse.message : ContextUse → Text
  | .readingLine => "message has no context".toList
  | .addingHint => "cannot add a fix-it hint without a context".toList
  | .applyingHints => "cannot apply fix-it hints without a context".toList
  | .creatingPatch => "cannot create a patch without a context".toList

def RenderError.message : RenderError → Text
  | .noFile => "no file has been provided".toList
  | .noText => "no message text has been provided".toList
  | .hintsWithoutContext => "fix-it hints cannot be rendered without a context".toList

def PatchError.message : PatchError → Text
  | .noHeader => "patch does not start with a '---' header".toList
  | .noTarget => "patch header does not name a file".toList
  | .lineBeforeHunk line => "unexpected line before the first hunk: ".toList ++ Text.quoted line
  | .noHunk => "patch contains no hunks".toList
  | .outside line => "hunk at line ".toList ++ Number.numeral line ++ " is outside the source".toList
  | .invalidRow row => "invalid hunk line: ".toList ++ Text.quoted row
  | .mismatch line => "patch does not match the source at line ".toList ++ Number.numeral line
  | .wrongCount line expected found =>
    "hunk at line ".toList ++ Number.numeral line ++ " expected ".toList ++
      Number.numeral expected ++ " source lines, found ".toList ++ Number.numeral found

def ReportError.message : ReportError → Text
  | .noRuns => "SARIF document has no 'runs' list".toList
  | .noRunAt index => "SARIF document has no run at index ".toList ++ index.text
  | .runNotObject index =>
    "SARIF run ".toList ++ index.text ++ " is not an object".toList

/-- The wording of a problem, behind the way to its place. -/
def Problem.message (p : Problem) : Text :=
  let names := p.path.map fun step => match step with
    | .member name => name
    | .item index => Number.numeral index
  Text.joinWith ['.'] names ++ ": ".toList ++ p.cause.message

/-- The wording of what is wrong with a record. -/
def problemsMessage (subject : Subject) (found : List Problem) : Text :=
  subject.name ++ ": ".toList ++ Text.joinWith "; ".toList (found.map Problem.message)

def SettingsError.message : SettingsError → Text
  | .malformed => "settings cannot be read".toList
  | .notTable => "[tool.diagnoseit] must be a table".toList
  | .invalid found => problemsMessage .settings found

/-- What was read when a document turned out to be too deep. -/
def Nesting.message : Nesting → Text
  | .list => " while decoding a JSON array from a unicode string".toList
  | .object => " while decoding a JSON object from a unicode string".toList
  | .rule => []
  | .operation => " while calling a Python object".toList
  | .comparison => " in comparison".toList

def Error.message : Error → Text
  | .invalid subject found => problemsMessage subject found
  | .contextStart => "context start line must be greater than 0".toList
  | .misfit m => m.message
  | .noContext use => use.message
  | .render e => e.message
  | .patch e => e.message
  | .report e => e.message
  | .settings e => e.message
  | .integer e => e.message
  | .notInteger member shown => member ++ " must be an integer, got ".toList ++ shown
  | .undefinedNumber => "cannot convert float NaN to integer".toList
  | .infiniteNumber => "cannot convert float infinity to integer".toList
  | .unknownForm version => "unsupported legacy message version: ".toList ++ version
  | .unknownSeverity shown => shown ++ " is not a valid Severity".toList
  | .unknownRole shown => shown ++ " is not a valid StyleRole".toList
  | .absentMember name => Text.quoted name
  | .wrongType => "operation is not defined for this type of value".toList
  | .noMembers => "value has no members".toList
  | .notSettable => "name cannot be set".toList
  | .noLine .outside => "tuple index out of range".toList
  | .noLine .tooLarge => "cannot fit 'int' into an index-sized integer".toList
  | .unwritable =>
    ("Exceeds the limit (4300 digits) for integer string conversion; " ++
      "use sys.set_int_max_str_digits() to increase the limit").toList
  | .style => "style cannot be read".toList
  | .document => "document cannot be read".toList
  | .halfCharacter => "half of a character stands alone".toList
  | .tooDeep nesting => "maximum recursion depth exceeded".toList ++ nesting.message
  | .encoding => "file is not valid UTF-8".toList
  | .absentFile => "no such file".toList
  | .isDirectory => "path leads to a directory".toList
  | .notDirectory => "path leads through a file".toList
  | .pathTooLong => "path is too long".toList
  | .time e => e.message
  | .nullInPath => "embedded null byte".toList
  | .noHome => "Could not determine home directory.".toList

/-- Errors that belong to messages, patches, reports and settings, rather than to the values,
files and styles that an operation was given. -/
def Error.isDiagnostic : Error → Bool
  | .contextStart | .misfit _ | .noContext _ | .render _ | .patch _ | .report _ | .settings _ => true
  | _ => false

/-- The error for a misfit. It cannot be put into words if one of its numbers is too long. -/
def Error.ofMisfit (m : Misfit) : Error :=
  if m.numbers.all Number.isWritable then .misfit m else .unwritable

/-- The error for a report. It cannot be put into words if the index in it is too long. -/
def Error.ofReport (e : ReportError) : Error := if e.isWritable then .report e else .unwritable

/-- The outcome of an operation. -/
abbrev Outcome := Except Error

/-- The text of a value, unless one of its integers is too long to be written. -/
def Value.written (value : Value) : Outcome Text :=
  if value.isWritable then .ok value.display else .error .unwritable

/-- A value as a text: a text is itself, any other value is written. -/
def Value.asText : Value → Outcome Text
  | .text t => .ok t
  | value => value.written

end Diagnostics
