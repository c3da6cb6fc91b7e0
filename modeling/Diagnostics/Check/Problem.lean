import Diagnostics.Number.Numeral
import Diagnostics.Value.Basic

/-!
What is wrong with a value that should have a certain shape: each problem names the place in the
value and the cause.
-/
namespace Diagnostics

/-- The records that values are checked against. -/
inductive Subject where
  | span
  | hint
  | location
  | window
  | message
  | settings
  deriving DecidableEq

/-- The name of a record in messages. -/
def Subject.name : Subject → Text
  | .span => "Range".toList
  | .hint => "FixItHint".toList
  | .location => "Location".toList
  | .window => "Context".toList
  | .message => "DiagnosticMessage".toList
  | .settings => "DiagnoseConfig".toList

inductive Step where
  | member (name : Text)
  | item (index : Nat)
  deriving DecidableEq

/-- Why a value has not the shape that it should have. -/
inductive Cause where
  | absent
  | notText
  | belowBound (bound : Nat)
  | notInteger
  | fractional
  | unreadableInteger
  | integerTooLarge
  | infinite
  | notFlag
  | unreadableFlag
  | notSeverity
  | notHintKind
  | notList
  | notMapping
  | notRecord (subject : Subject)
  | extraMember
  | unknownMember (name : Text)
  /-- A rule of the domain is broken, in the words of that rule. -/
  | rejected (reason : Text)
  deriving DecidableEq

/-- A cause, and the place where it was found. -/
structure Problem where
  path : List Step
  cause : Cause
  deriving DecidableEq

def Cause.tag : Cause → Text
  | .absent => "missing".toList
  | .notText => "string_type".toList
  | .belowBound _ => "greater_than_equal".toList
  | .notInteger => "int_type".toList
  | .fractional => "int_from_float".toList
  | .unreadableInteger => "int_parsing".toList
  | .integerTooLarge => "int_parsing_size".toList
  | .infinite => "finite_number".toList
  | .notFlag => "bool_type".toList
  | .unreadableFlag => "bool_parsing".toList
  | .notSeverity => "enum".toList
  | .notHintKind => "enum".toList
  | .notList => "tuple_type".toList
  | .notMapping => "dict_type".toList
  | .notRecord _ => "model_type".toList
  | .extraMember => "extra_forbidden".toList
  | .unknownMember _ => "no_such_attribute".toList
  | .rejected _ => "value_error".toList

def Cause.message : Cause → Text
  | .absent => "Field required".toList
  | .notText => "Input should be a valid string".toList
  | .belowBound bound =>
    "Input should be greater than or equal to ".toList ++ Number.numeral bound
  | .notInteger => "Input should be a valid integer".toList
  | .fractional =>
    "Input should be a valid integer, got a number with a fractional part".toList
  | .unreadableInteger =>
    "Input should be a valid integer, unable to parse string as an integer".toList
  | .integerTooLarge =>
    "Unable to parse input string as an integer, exceeded maximum size".toList
  | .infinite => "Input should be a finite number".toList
  | .notFlag => "Input should be a valid boolean".toList
  | .unreadableFlag => "Input should be a valid boolean, unable to interpret input".toList
  | .notSeverity =>
    "Input should be 'ignored', 'note', 'remark', 'warning', 'error' or 'fatal'".toList
  | .notHintKind => "Input should be 'mark', 'insert', 'remove' or 'replace'".toList
  | .notList => "Input should be a valid tuple".toList
  | .notMapping => "Input should be a valid dictionary".toList
  | .notRecord subject =>
    "Input should be a valid dictionary or instance of ".toList ++ subject.name
  | .extraMember => "Extra inputs are not permitted".toList
  | .unknownMember name => "Object has no attribute '".toList ++ name ++ ['\'']
  | .rejected reason => "Value error, ".toList ++ reason

end Diagnostics
