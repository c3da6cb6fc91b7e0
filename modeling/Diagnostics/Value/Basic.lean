import Diagnostics.Text.Basic

/-!
Values of unknown shape: what documents and settings files hold. The members of an object keep
their order, and a member that is set again keeps its place.
-/
namespace Diagnostics

/-- A value of a document. -/
inductive Value where
  | null
  | flag (b : Bool)
  /-- An integer of any size. -/
  | integer (n : Int)
  | real (x : Float)
  | text (t : Text)
  | list (items : List Value)
  /-- An object, with its members in order. -/
  | object (members : List (Text × Value))
  /-- A date or a time, which settings files have and other documents do not. -/
  | moment (written : Text)

/-- How many steps of reading may be under way inside each other. -/
abbrev Room := Nat

/-- The step of reading that was about to start when there was no room left. -/
inductive Nesting where
  | list
  | object
  | rule
  | operation
  | comparison
  deriving DecidableEq

/-- The members of an object, in order. -/
abbrev Members := List (Text × Value)

namespace Members

def valueOf? (members : Members) (key : Text) : Option Value :=
  match members with
  | [] => none
  | (k, v) :: rest => if k = key then some v else valueOf? rest key

/-- Set a member: in its place if there is one of that name, else at the end. -/
def put (key : Text) (value : Value) : Members → Members
  | [] => [(key, value)]
  | (k, v) :: rest => if k = key then (k, value) :: rest else (k, v) :: put key value rest

/-- Set some members one after the other. -/
def putAll (entries members : Members) : Members :=
  entries.foldl (fun all entry => put entry.1 entry.2 all) members

end Members

namespace Value

/-- The value of a member of an object; there is none in any other value. -/
def member? (value : Value) (key : Text) : Option Value :=
  match value with
  | .object members => Members.valueOf? members key
  | _ => none

/-- An object from its member names and values. -/
def ofMembers (members : List (String × Value)) : Value :=
  .object (members.map fun entry => (entry.1.toList, entry.2))

/-- A value, or no value. -/
def ofOption {α : Type} (write : α → Value) : Option α → Value
  | none => .null
  | some a => write a

end Value
end Diagnostics
