import Diagnostics.Settings.Basic
import Diagnostics.Toml.Reader
import Diagnostics.Value.Lookup

/-!
Settings out of a file: its section `tool.diagnoseit`, in which a hyphen in a name counts as a low
line. Where there is no such file or section, the standard settings hold.
-/
namespace Diagnostics.Settings

/-- The file that holds settings unless another one is given. -/
def standardFile : Text := "pyproject.toml".toList

/-- A name with low lines for hyphens. -/
def memberName (written : Text) : Text := written.map fun c => if c = '-' then '_' else c

/-- The section of a document, with the names of its members as they are known here. -/
def sectionOf (document : Members) : Outcome Members :=
  match (Members.objectAt? document "tool".toList).bind fun tool =>
      Members.valueOf? tool "diagnoseit".toList with
  | none => .ok []
  | some (.object members) =>
    .ok (Members.putAll (members.map fun entry => (memberName entry.1, entry.2)) [])
  | some _ => .error (.settings .notTable)

def documentOf (room : Room) (text : Text) : Outcome Members :=
  match Toml.read room text with
  | .ok document => .ok document
  | .error .malformed => .error (.settings .malformed)
  | .error (.integer e) => .error (.integer e)
  | .error (.tooDeep nesting) => .error (.tooDeep nesting)

def ofText (room : Room) (text : Text) : Outcome Settings := do
  let document ← documentOf room text
  let members ← sectionOf document
  match ofMembers members with
  | .ok settings => return settings
  | .error found => .error (.settings (.invalid found))

def ofBytes (room : Room) (bytes : ByteArray) : Outcome Settings :=
  match Text.ofBytes? bytes with
  | some text => ofText room text
  | none => .error .encoding

/-- The settings in a file, if it is there. -/
def load (files : Files) (room : Room) (path : Text) : Outcome Settings :=
  match files.locate path with
  | .file _ file => ofBytes room file.bytes
  | .tooLong => .error .pathTooLong
  | _ => .ok standard

end Diagnostics.Settings
