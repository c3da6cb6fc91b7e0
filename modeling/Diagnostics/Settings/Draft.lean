import Diagnostics.Settings.Basic
import Diagnostics.Value.Lookup

/-!
Drafts: settings while they are edited. A member is checked when it is set. All entries may be
replaced at once as well, and then none is checked; so whoever reads a draft meets any value under
the name of a member, or none. A name with a low line in front is a private note and takes any
value, unless it has a meaning of its own.
-/
namespace Diagnostics.Settings

/-- What a draft does its work with. An entry under the name of a tool hides it. -/
inductive Tool where
  /-- The ways of setting a name that are known already. -/
  | setters
  | checker
  | writer
  | useColor
  | isReport
  | painting
  | listing
  deriving DecidableEq

/-- What goes wrong where a tool is hidden. Some tools are asked for a part of theirs, which no value
has; the others are carried out, and a value cannot be. -/
def Tool.whenHidden : Tool → Error
  | .setters | .checker | .writer => .noMembers
  | .useColor | .isReport | .painting | .listing => .wrongType

/-- What a name means in a draft, if it is neither a member nor a mere note. -/
inductive Meaning where
  /-- It follows from the rest of the draft and cannot be set. -/
  | derived
  /-- It is the kind of the draft. No value fits there. -/
  | kind
  /-- It stands for all entries. -/
  | entries
  /-- It keeps account of the members that were set. -/
  | account
  /-- It holds entries that are put in when the next member is set. -/
  | additions
  | tool (tool : Tool)
  deriving DecidableEq

/-- The names that have a meaning. -/
abbrev Naming := Text → Option Meaning

/-- Settings while they are edited. -/
structure Draft where
  /-- Members and notes. -/
  entries : Members
  /-- No value has been put in place of the account of the members that were set. -/
  accountKept : Bool
  additions : Value

namespace Draft

/-- A draft that starts from some settings. -/
def ofSettings (s : Settings) : Draft := ⟨s.toMembers, true, .null⟩

/-- The value that hides a tool. -/
def hiding? (naming : Naming) (d : Draft) (tool : Tool) : Option Value :=
  (d.entries.find? fun entry => naming entry.1 = some (.tool tool)).map Prod.snd

/-- A tool is there, unless an entry hides it. -/
def need (naming : Naming) (d : Draft) (tool : Tool) : Outcome Unit :=
  match d.hiding? naming tool with
  | none => .ok ()
  | some _ => .error tool.whenHidden

/-- There is a way of setting a name. An object may hide the known ways, as long as it holds nothing
under this name: then the way is found anew. -/
def needSetter (naming : Naming) (d : Draft) (name : Text) : Outcome Unit :=
  match d.hiding? naming .setters with
  | some (.object ways) => match Members.valueOf? ways name with
    | none | some .null => .ok ()
    | some _ => .error .wrongType
  | _ => d.need naming .setters

/-- The entries with those that wait to be put in. -/
def allEntries (d : Draft) : Outcome Members :=
  match d.additions with
  | .null => .ok d.entries
  | .object additions => .ok (Members.putAll additions d.entries)
  | _ => .error .wrongType

/-- The draft with another value for a member. -/
def setMember (naming : Naming) (d : Draft) (name : Text) (value : Value) : Outcome Draft := do
  d.need naming .checker
  let entries ← d.allEntries
  match checkMember name value with
  | .error found => .error (.invalid .settings found)
  | .ok checked =>
    if d.accountKept then
      return { d with entries := Members.put name checked entries, additions := .null }
    else .error .wrongType

/-- The draft with another value for a name. -/
def set (naming : Naming) (d : Draft) (name : Text) (value : Value) : Outcome Draft := do
  d.needSetter naming name
  match naming name with
  | some .derived => .error .notSettable
  | some .kind => .error .wrongType
  | some .entries => match value with
    | .object entries => return { d with entries }
    | _ => .error .wrongType
  | some .account => return { d with accountKept := false }
  | some .additions => return { d with additions := value }
  | some (.tool _) | none =>
    if name.head? = some '_' then return { d with entries := Members.put name value d.entries }
    else d.setMember naming name value

/-- The value of a member: that of an entry, or else that of an entry which waits to be put in. -/
def valueOf (d : Draft) (name : String) : Outcome Value :=
  match Members.valueOf? d.entries name.toList with
  | some value => .ok value
  | none =>
    if d.additions.isVoid then .error .noMembers
    else match d.additions with
      | .object additions => match Members.valueOf? additions name.toList with
        | some value => .ok value
        | none => .error .noMembers
      | _ => .error .wrongType

/-- Whether to use colours, on a terminal or elsewhere. -/
def useColor (naming : Naming) (d : Draft) (terminal : Bool) : Outcome Value := do
  d.need naming .useColor
  match ← d.valueOf "color" with
  | .null => return .flag terminal
  | value => return value

/-- The endings that a value holds: the items of a list, the characters of a text and the names in
an object. -/
def endingsOf : Value → Outcome (List Value)
  | .list items => .ok items
  | .text t => .ok (t.map fun c => .text [c])
  | .object members => .ok (members.map fun entry => .text entry.1)
  | _ => .error .wrongType

/-- A name ends in one of some endings. They are looked at up to the first that fits, and must be
texts so far. -/
def endsInAny (name : Text) : List Value → Outcome Bool
  | [] => .ok false
  | .text ending :: rest => if Text.endsIn name ending then .ok true else endsInAny name rest
  | _ :: _ => .error .wrongType

/-- A file is a report by the ending of its name, in any case. -/
def isReport (naming : Naming) (d : Draft) (path : Text) : Outcome Bool := do
  d.need naming .isReport
  let endings ← endingsOf (← d.valueOf "sarif_extensions")
  endsInAny (Text.lower (Path.ofText path).lastName) endings

def roleOf (name : Text) : Outcome Role :=
  match Role.ofName? name with
  | some role => .ok role
  | none => .error (.unknownRole (Value.text name).display)

/-- The style of each role, as a value. A void one stands for none. -/
def painting (naming : Naming) (d : Draft) : Outcome (Severity → Role → Value) := do
  d.need naming .painting
  match ← d.valueOf "styles" with
  | .object styles =>
    let overrides ← styles.mapM fun entry => (roleOf entry.1).map fun role => (role, entry.2)
    return fun severity role => match overrides.find? fun entry => entry.1 = role with
      | some (_, style) => if style.isVoid then .null else style
      | none => Value.ofOption .text (Styles.standard severity role)
  | _ => .error .noMembers

def toValue (naming : Naming) (d : Draft) : Outcome Value := do
  d.need naming .listing
  d.need naming .writer
  return .object (d.entries.filter fun entry => (memberNames.map String.toList).contains entry.1)

end Draft
end Diagnostics.Settings
