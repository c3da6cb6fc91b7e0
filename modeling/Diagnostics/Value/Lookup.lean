import Diagnostics.Error
import Diagnostics.Value.Display

/-!
Looking for members of a certain kind in values of unknown shape.
-/
namespace Diagnostics
namespace Value

def isList : Value → Bool
  | .list _ => true
  | _ => false

/-- A value that counts as nothing: none at all, zero, and everything empty. -/
def isVoid : Value → Bool
  | .null => true
  | .flag b => !b
  | .integer n => n == 0
  | .real x => x == 0
  | .text t => t.isEmpty
  | .list items => items.isEmpty
  | .object members => members.isEmpty
  | .moment _ => false

/-- The objects in a list; other values have none. -/
def objects : Value → List Members
  | .list items => items.filterMap fun item => match item with
    | .object members => some members
    | _ => none
  | _ => []

/-- The member of an object, if it is an object. -/
def objectAt? (value : Value) (key : Text) : Option Members :=
  match value.member? key with
  | some (.object members) => some members
  | _ => none

end Value

namespace Members

/-- The member of some members, if it is an object. -/
def objectAt? (members : Members) (key : Text) : Option Members :=
  (Value.object members).objectAt? key

/-- The member of some members, if it is a text. -/
def textAt? (members : Option Members) (key : Text) : Option Text :=
  match members.bind fun members => Members.valueOf? members key with
  | some (.text t) => some t
  | _ => none

/-- The member of some members, which has to be an integer if it is there. -/
def integerAt? (members : Option Members) (key : Text) : Outcome (Option Int) :=
  match members.bind fun members => Members.valueOf? members key with
  | none | some .null => .ok none
  | some (.integer n) => .ok (some n)
  | some value => value.written.bind fun shown => .error (.notInteger key shown)

/-- The member of some members, which has to be an integer if it is there, or a default. -/
def integerAt (members : Option Members) (key : Text) (default : Int) : Outcome Int :=
  (integerAt? members key).map (·.getD default)

end Members
end Diagnostics
