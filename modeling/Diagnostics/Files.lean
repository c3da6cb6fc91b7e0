import Diagnostics.Error
import Diagnostics.Number.Rounding
import Diagnostics.Text.Encoding

/-!
The files that operations read and write, as a value: each with its path, its bytes and the time of
its last change. Paths start from the working directory, or from the root if they start with a
slash.
-/
namespace Diagnostics

/-- A file: its bytes, and the nanosecond of its last change where that is known, counted from the
start of 1970. -/
structure File where
  bytes : ByteArray
  modified : Option Int

/-- The nanosecond at which a number of seconds from the start of 1970 on is over. -/
def File.nanoseconds (seconds : Float) : Int :=
  Number.inUnits Number.floorQuotient 1000000000 seconds

/-- The names on the way to a file. The slash is the name of the root. -/
abbrev Path := List Text

namespace Path

def root : Text := ['/']

/-- The name that leads to the directory above. -/
def parent : Text := ['.', '.']

/-- The path that a text stands for. Empty names and single dots say nothing. -/
def ofText (text : Text) : Path :=
  let names := (Text.splitOnChar '/' text).filter fun name => name ≠ [] ∧ name ≠ ['.']
  if text.head? = some '/' then root :: names else names

/-- The text of a path. The empty path is a single dot. -/
def text : Path → Text
  | [] => ['.']
  | name :: names =>
    if name = root then '/' :: Text.joinWith ['/'] names else Text.joinWith ['/'] (name :: names)

/-- The text of a path as it is shown: two slashes at the front, and no more, stay two. -/
def shown (written : Text) : Text :=
  let plain := (ofText written).text
  match written with
  | '/' :: '/' :: rest => if rest.head? = some '/' then plain else '/' :: plain
  | _ => plain

/-- The last name of a path: empty where there is none. -/
def lastName (path : Path) : Text :=
  match path.getLast? with
  | some name => if name = root then [] else name
  | none => []

/-- The path with one more name. The name of the parent leads back, or out of the directory where
the path starts. -/
def enter (path : Path) (name : Text) : Path :=
  if name ≠ parent then path ++ [name]
  else match path.getLast? with
    | none => [parent]
    | some last =>
      if last = parent then path ++ [parent] else if last = root then path else path.dropLast

/-- A path that is a directory wherever it starts: the way back and out, and the root. -/
def isAbove (path : Path) : Bool := path.all fun name => name == parent || name == root

end Path

/-- Files, directories and sinks, each with its path. A sink holds nothing, and forgets what is
written to it. -/
structure Files where
  entries : List (Path × File)
  directories : List Path
  sinks : List Path

inductive Target where
  | file (path : Path) (file : File)
  | directory
  | sink
  /-- Nothing, in a directory that is there. -/
  | free (path : Path)
  | absent
  | notDirectory
  | tooLong
  | null

namespace Files

def devices : Path := [Path.root, "dev".toList]

/-- No files, and the one sink that is always there. -/
def empty : Files := ⟨[], [devices], [devices ++ ["null".toList]]⟩

def fileAt? (files : Files) (path : Path) : Option File :=
  (files.entries.find? fun entry => entry.1 = path).map Prod.snd

def isDirectory (files : Files) (path : Path) : Bool :=
  path.isAbove || files.directories.contains path

/-- The longest name that file systems allow, in bytes. -/
def nameLimit : Nat := 255

/-- The longest path that file systems allow, in bytes. -/
def pathLimit : Nat := 4095

/-- Where some names lead from a directory. -/
def follow (files : Files) : Path → List Text → Target
  | _, [] => .directory
  | current, name :: rest =>
    if nameLimit < (Text.toBytes name).size then .tooLong
    else
      let next := current.enter name
      match files.fileAt? next with
      | some file => if rest.isEmpty then .file next file else .notDirectory
      | none =>
        if files.isDirectory next then follow files next rest
        else if files.sinks.contains next then if rest.isEmpty then .sink else .notDirectory
        else if rest.isEmpty then .free next else .absent

def locate (files : Files) (path : Text) : Target :=
  if path.contains '\x00' then .null
  else if pathLimit < (Text.toBytes (Path.shown path)).size then .tooLong
  else files.follow [] (Path.ofText path)

/-- A path leads to a file. Paths that are too long are an error. -/
def isFile (files : Files) (path : Text) : Outcome Bool :=
  match files.locate path with
  | .file _ _ => .ok true
  | .tooLong => .error .pathTooLong
  | _ => .ok false

def open? (files : Files) (path : Text) : Outcome File :=
  match files.locate path with
  | .file _ file => .ok file
  | .sink => .ok ⟨ByteArray.empty, none⟩
  | .directory => .error .isDirectory
  | .free _ | .absent => .error .absentFile
  | .notDirectory => .error .notDirectory
  | .tooLong => .error .pathTooLong
  | .null => .error .nullInPath

/-- The text of a file, with a line feed at the end of each line. -/
def readText (files : Files) (path : Text) : Outcome Text :=
  (files.open? path).bind fun file =>
    match Text.ofBytes? file.bytes with
    | some text => .ok (Text.plainLineEnds text)
    | none => .error .encoding

/-- The lines of a file, each with the line feed at its end, and the fault that keeps from reading
more, if there is one. -/
def readLines (files : Files) (path : Text) : Outcome (List Text × Option Error) :=
  (files.open? path).map fun file =>
    match Text.ofBytes? file.bytes with
    | some text => (Text.linesWithEnds (Text.plainLineEnds text), none)
    | none => (Text.linesBeforeFault file.bytes, some .encoding)

/-- The files with one more, which takes the place of one with the same path. -/
def put (files : Files) (path : Path) (file : File) : Files :=
  if files.entries.any fun entry => entry.1 = path then
    { files with
      entries := files.entries.map fun entry => if entry.1 = path then (path, file) else entry }
  else { files with entries := files.entries ++ [(path, file)] }

def writeText (files : Files) (path text : Text) : Outcome Files :=
  match files.locate path with
  | .file path _ | .free path => .ok (files.put path ⟨Text.toBytes text, none⟩)
  | .sink => .ok files
  | .directory => .error .isDirectory
  | .absent => .error .absentFile
  | .notDirectory => .error .notDirectory
  | .tooLong => .error .pathTooLong
  | .null => .error .nullInPath

def addDirectory (files : Files) (path : Path) : Files :=
  { files with directories := path :: files.directories }

/-- The files with one that is added together with the directories on the way to it. -/
def addBelow (files : Files) (file : File) : Path → List Text → Files
  | current, [] => files.put current file
  | current, [name] => files.put (current.enter name) file
  | current, name :: rest =>
    let next := current.enter name
    addBelow (files.addDirectory next) file next rest

/-- The files with one that is added together with the directories on the way to it. -/
def add (files : Files) (path : Text) (file : File) : Files :=
  files.addBelow file [] (Path.ofText path)

end Files
end Diagnostics
