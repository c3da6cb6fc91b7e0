import Diagnostics.Files
import Diagnostics.Message.Fix

/-!
Patches that carry out the hints of a message. A patch has one hunk, which spans the context; if
the hints change the line of the message, that line is removed and the fixed line is added.
-/
namespace Diagnostics.Patch

def fixSuffix : Text := ".fix".toList

/-- The numbers of a hunk's lines: the first one and their count. -/
def extent (c : Context) : Text :=
  Number.numeral c.start ++ ',' :: Number.numeral c.lines.length

def headRows (file : Text) (context : Context) (modified now : Timestamp) : List Text :=
  ["--- ".toList ++ file ++ ' ' :: modified.text,
   "+++ ".toList ++ file ++ fixSuffix ++ ' ' :: now.text,
   "@@ -".toList ++ extent context ++ " +".toList ++ extent context ++ " @@".toList]

/-- The rows of a hunk: each line behind a blank, but for the one at an index, which gives way to
another one if that differs. -/
def bodyRows (expected : Text) : Nat → List Text → List Text
  | _, [] => []
  | 0, line :: rest =>
    (if line = expected then [' ' :: line] else ['-' :: line, '+' :: expected]) ++
      rest.map (' ' :: ·)
  | index + 1, line :: rest => (' ' :: line) :: bodyRows expected index rest

/-- The patch of a message, given when the file was changed and what time it is now. Numbers that are
too long to be written have no patch. -/
def create (m : Message) (modified now : Timestamp) : Outcome Text :=
  match m.context with
  | none => .error (.noContext .creatingPatch)
  | some context => m.fixedLine.bind fun expected =>
    if Number.isWritable context.start && Number.isWritable context.lines.length then
      .ok (Text.joinLines (headRows m.file context modified now ++
        bodyRows expected (m.line - context.start) context.lines))
    else .error .unwritable

/-- When the file of a message was changed, by a clock: now, unless there is such a file. -/
def modifiedTime (files : Files) (file : Text) (clock : Clock) : Outcome Timestamp :=
  if file = [] then .ok clock.now
  else match files.locate file with
    | .file _ ⟨_, none⟩ => .ok clock.now
    | .file _ ⟨_, some nanoseconds⟩ => match Timestamp.ofNanoseconds clock.zone nanoseconds with
      | .ok modified => .ok modified
      | .error e => .error (.time e)
    | .tooLong => .error .pathTooLong
    | _ => .ok clock.now

/-- The patch of a message about one of some files. -/
def createIn (files : Files) (m : Message) (clock : Clock) : Outcome Text :=
  match m.context with
  | none => .error (.noContext .creatingPatch)
  | some _ => (modifiedTime files m.file clock).bind fun modified => create m modified clock.now

end Diagnostics.Patch
