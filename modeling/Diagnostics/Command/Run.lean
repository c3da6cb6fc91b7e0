import Diagnostics.Command.Arguments
import Diagnostics.Extract
import Diagnostics.Notice
import Diagnostics.Patch.Create
import Diagnostics.Render
import Diagnostics.Report
import Diagnostics.Settings.Source

/-!
What commands do: they read settings and the messages of a file, and show the messages, a patch or
where a report went. Output that does not go to a terminal is stripped of escape sequences.
-/
namespace Diagnostics.Command

/-- What commands find around them. -/
structure Surroundings where
  files : Files
  /-- The room for reading documents. -/
  room : Room
  clock : Clock
  /-- How styles are read. -/
  palette : Palette
  /-- Whether the output goes to a terminal. -/
  terminal : Bool
  /-- The directories of users by their names. The user at work has the empty name. -/
  home? : Text → Option Text

/-- What a command leaves behind. -/
structure Result where
  exitCode : Nat
  output : Text
  /-- The error that ended the command before its time. -/
  failure : Option Error
  files : Files

namespace Surroundings

/-- A command that was not asked for in the right way, or not with files that are there. -/
def misused (s : Surroundings) : Result := ⟨2, [], none, s.files⟩

/-- A command that ended before its time, behind some output. -/
def failed (s : Surroundings) (output : Text) (e : Error) : Result := ⟨1, output, some e, s.files⟩

/-- A command that ended as it should, with an exit code. -/
def finished (s : Surroundings) (exitCode : Nat) (output : Text) : Result :=
  ⟨exitCode, output, none, s.files⟩

/-- A text on a row of its own. -/
def row (s : Surroundings) (text : Text) : Text :=
  (if s.terminal then text else Sequences.any.strip text) ++ ['\n']

/-- A notice to the user, as the settings want it. -/
def notice (s : Surroundings) (settings : Settings) (kind : Notice) (message : Text) : Text :=
  kind.text message settings.emoji (settings.useColor s.terminal && s.terminal)

/-- A path with the directory of a user in place of a tilde and the name of the user. -/
def withHome (s : Surroundings) (path : Text) : Outcome Text :=
  match Path.ofText path with
  | ('~' :: user) :: names =>
    match s.home? user with
    | some home => .ok (Text.joinWith ['/'] (home :: names))
    | none => .error .noHome
  | _ => .ok path

/-- The path of the file that a command is about, if it leads to a file. -/
def existing (s : Surroundings) (path : Text) : Outcome (Option Text) := do
  let path ← s.withHome path
  return if ← s.files.isFile path then some path else none

/-- Run a command on the settings and the path of its file. Wrong settings are a misuse. -/
def prepare (s : Surroundings) (command : Command) (run : Settings → Text → Result) : Result :=
  match Settings.load s.files s.room (command.settings?.getD Settings.standardFile) with
  | .error e => if e.isDiagnostic then s.misused else s.failed [] e
  | .ok settings =>
    match s.existing command.file with
    | .error e => s.failed [] e
    | .ok none => s.misused
    | .ok (some path) => run settings path

/-- What showing some messages gave: the output, the messages shown and those among them that make
the run fail, and the error that ended it. -/
structure Shown where
  output : Text
  count : Nat
  blocking : Nat
  failure : Option Error

/-- Show some messages, and behind them an error that ended the reading of the file. Messages that
cannot be rendered are passed over. -/
def showAll (s : Surroundings) (settings : Settings) (failure : Option Error) :
    List Message → Shown
  | [] => ⟨[], 0, 0, failure⟩
  | m :: rest =>
    match m.renderWith s.palette settings.painting (settings.useColor s.terminal) with
    | .ok text =>
      let shown := s.showAll settings failure rest
      { shown with
        output := s.row text ++ s.row [] ++ shown.output
        count := shown.count + 1
        blocking := shown.blocking + if m.level.isBlocking then 1 else 0 }
    | .error e =>
      if e.isDiagnostic then
        let shown := s.showAll settings failure rest
        let skipped := "skipping unrenderable diagnostic: ".toList ++ e.message
        { shown with output := s.notice settings .warning skipped ++ shown.output }
      else ⟨[], 0, 0, some e⟩

/-- Show messages and how many there are. The exit code is one if one of them makes the run
fail. -/
def render (s : Surroundings) (settings : Settings) (path : Text) : Result :=
  match s.files.messages settings s.room path with
  | .error e => s.failed [] e
  | .ok (messages, failure) =>
    let shown := s.showAll settings failure messages
    match shown.failure with
    | some e => s.failed shown.output e
    | none =>
      let count := Number.numeral shown.count ++ " diagnostic(s), ".toList
      if shown.blocking = 0 then
        s.finished 0 (shown.output ++ s.notice settings .success (count ++ "no errors".toList))
      else
        s.finished 1 (shown.output ++ s.notice settings .failure
          (count ++ Number.numeral shown.blocking ++ " error(s)".toList))

/-- Show the patch for the message at an index. -/
def patch (s : Surroundings) (index : Nat) (settings : Settings) (path : Text) : Result :=
  match s.files.messages settings s.room path with
  | .error e => s.failed [] e
  | .ok (messages, failure) =>
    match messages[index - 1]?, failure with
    | none, some e => s.failed [] e
    | none, none => s.misused
    | some m, _ =>
      match Patch.createIn s.files m s.clock with
      | .ok text => s.finished 0 (s.row text)
      | .error e =>
        if e.isDiagnostic then s.finished 1 (s.notice settings .failure e.message)
        else s.failed [] e

/-- Write a report on the messages, and say where it went. -/
def report (s : Surroundings) (output : Text) (settings : Settings) (path : Text) : Result :=
  match s.files.messages settings s.room path with
  | .error e => s.failed [] e
  | .ok (_, some e) => s.failed [] e
  | .ok (messages, none) =>
    match Report.writeSarif s.files messages output with
    | .error e => s.failed [] e
    | .ok files =>
      let written := "wrote ".toList ++ Number.numeral messages.length ++
        " result(s) to ".toList ++ Path.shown output
      ⟨0, s.notice settings .success written, none, files⟩

/-- The files that the messages of a command's file are about. -/
def mentioned (s : Surroundings) (command : Command) : List Text :=
  let found : Outcome (List Message × Option Error) := do
    let settings ← Settings.load s.files s.room (command.settings?.getD Settings.standardFile)
    s.files.messages settings s.room (← s.withHome command.file)
  match found with
  | .ok (messages, _) => messages.map Message.file
  | .error _ => []

def run (s : Surroundings) (command : Command) : Result :=
  s.prepare command fun settings path =>
    match command with
    | .render _ color _ =>
      s.render (match color with
        | some color => { settings with color := some color }
        | none => settings) path
    | .patch _ index _ => s.patch index settings path
    | .report _ output _ => s.report output settings path

/-- Run the command of a command line, if it is one. -/
def runArguments (s : Surroundings) (arguments : List Text) : Result :=
  match ofArguments? arguments with
  | some command => s.run command
  | none => s.misused

end Surroundings
end Diagnostics.Command
