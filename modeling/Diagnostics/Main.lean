import Diagnostics.Command.Run
import Std.Time.Zoned.Database

/-!
The program: it looks for the files that a command line names, runs the command on them, prints
what it gave and writes the report if there is one.
-/
namespace Diagnostics.Program

/-- How the program is used. -/
def usage : String :=
  "usage: render FILE [--color|--no-color] [--config FILE]\n" ++
  "       patch FILE [--index N] [--config FILE]\n" ++
  "       sarif FILE --output FILE [--config FILE]"

/-- The files with what a path really leads to. -/
def look (files : Files) (path : Path) : IO Files := do
  let found := (← IO.currentDir) / String.ofList path.text
  if files.sinks.contains path then return files
  else if ← found.isDir then return files.addDirectory path
  else if ← found.pathExists then
    let bytes ← IO.FS.readBinFile found
    let time := (← found.metadata).modified
    return files.put path ⟨bytes, some (time.sec * 1000000000 + time.nsec.toNat)⟩
  else return files

/-- The files with what some names really lead to, and with all that is on the way. -/
def lookAlong (files : Files) (current : Path) : List Text → IO Files
  | [] => return files
  | name :: rest => do
    let next := current.enter name
    lookAlong (← look files next) next rest

/-- The files with what some paths really lead to. -/
def lookAll (files : Files) (paths : List Text) : IO Files :=
  paths.foldlM (fun files path => lookAlong files [] (Path.ofText path)) files

/-- The time from which times are counted. -/
def start : Timestamp := ⟨1970, 1, 1, 0, 0, 0⟩

/-- The room for reading documents. -/
def room : Room := 985

/-- How clocks are set here; as in Greenwich if nothing is known about it. -/
def zone : IO Timestamp.Zone := do
  let rules ← try Std.Time.Database.defaultGetLocalZoneRules
    catch _ => pure Std.Time.TimeZone.ZoneRules.UTC
  return fun seconds =>
    (rules.timezoneAt (.ofSecondsSinceUnixEpoch (.ofInt seconds))).offset.second.val

/-- What a command finds, but for files. -/
def surroundings : IO Command.Surroundings := do
  let now ← Std.Time.Timestamp.now
  let zone ← zone
  let terminal ← (← IO.getStdout).isTty
  let home ← IO.getEnv "HOME"
  let shown := Timestamp.ofNanoseconds zone now.toNanosecondsSinceUnixEpoch.val
  return {
    files := Files.empty
    room := room
    clock := ⟨shown.toOption.getD start, zone⟩
    palette := Style.palette
    terminal := terminal
    home? := fun user => if user = [] then home.map String.toList else none }

/-- Write the report of a command that has written one. -/
def writeReport (files : Files) : Command → IO Unit
  | .report _ output _ =>
    match files.locate output with
    | .file path file =>
      IO.FS.writeBinFile (String.ofList path.text) file.bytes
    | _ => return
  | _ => return

/-- Run a command on the files that are there. -/
def run (command : Command) : IO UInt32 := do
  let s ← surroundings
  let named := command.paths.map fun path => (s.withHome path).toOption.getD path
  let s := { s with files := ← lookAll s.files (Settings.standardFile :: named) }
  let s := { s with files := ← lookAll s.files (s.mentioned command) }
  let result := s.run command
  (← IO.getStdout).putStr (String.ofList result.output)
  if result.exitCode = 0 then writeReport result.files command
  if result.exitCode = 2 then IO.eprintln usage
  if let some e := result.failure then
    IO.eprintln (String.ofList ("error: ".toList ++ e.message))
  return UInt32.ofNat result.exitCode

end Diagnostics.Program

/-- Run the command of the command line. -/
def main (arguments : List String) : IO UInt32 := do
  match Diagnostics.Command.ofArguments? (arguments.map String.toList) with
  | some command => Diagnostics.Program.run command
  | none =>
    IO.eprintln Diagnostics.Program.usage
    return 2
