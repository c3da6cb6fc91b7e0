import Diagnostics.Files

/-!
Applying patches. A patch names its file in the first line, and from its third line on consists of
hunks: a header with the place and the number of the lines that it is about, and rows that start
with a blank for a line that stays, a minus for one that goes, and a plus for one that comes. An
empty row stands for an empty line that stays, and rows that start with a backslash say nothing.
-/
namespace Diagnostics.Patch

/-- The text behind a given start. -/
def behind? : Text → Text → Option Text
  | [], text => some text
  | c :: start, d :: text => if c = d then behind? start text else none
  | _ :: _, [] => none

/-- The digits at the front of a text, one at least, and what follows them. -/
def digits? (text : Text) : Option (Text × Text) :=
  match text.span Text.isDecimalDigit with
  | ([], _) => none
  | (digits, rest) => some (digits, rest)

/-- A comma and digits at the front of a text, if they are there, and what follows them. -/
def count? : Text → Option Text × Text
  | ',' :: text =>
    match digits? text with
    | some (digits, rest) => (some digits, rest)
    | none => (none, ',' :: text)
  | text => (none, text)

/-- The numbers of a hunk's old lines as they are written: the first one, and their count, which
may be absent. -/
structure HunkHeader where
  start : Text
  count : Option Text
  deriving DecidableEq

/-- The numbers in the header of a hunk; other lines have none. Only the old lines matter, but the
new ones have to be there, and anything may follow the header. -/
def header? (line : Text) : Option HunkHeader := do
  let (start, rest) ← (← behind? "@@ -".toList line) |> digits?
  let (count, rest) := count? rest
  let (_, rest) ← (← behind? " +".toList rest) |> digits?
  let _ ← behind? " @@".toList (count? rest).2
  return ⟨start, count⟩

/-- A hunk: where its old lines are, how many they are, and its rows. -/
structure Hunk where
  oldStart : Nat
  oldCount : Nat
  rows : List Text
  deriving DecidableEq

namespace Hunk

/-- The number of lines before a hunk. A hunk without old lines comes after the line that it
names. -/
def start (h : Hunk) : Nat := if h.oldCount = 0 then h.oldStart else h.oldStart - 1

end Hunk

/-- The file named in the first line of a patch. -/
def target (patch : Text) : Outcome Text :=
  match (Text.fileLines patch).head?.bind (behind? "--- ".toList) with
  | none => .error (.patch .noHeader)
  | some rest =>
    match rest.takeWhile (· != ' ') with
    | [] => .error (.patch .noTarget)
    | file => .ok file

/-- Lines as rows and the hunks behind them. -/
def group : List Text → List Text × List (HunkHeader × List Text)
  | [] => ([], [])
  | line :: rest =>
    let (rows, hunks) := group rest
    match header? line with
    | some header => ([], (header, rows) :: hunks)
    | none => (line :: rows, hunks)

def number (digits : Text) : Outcome Nat :=
  match Number.readDigits digits with
  | .ok n => .ok n
  | .error e => .error (.integer e)

/-- A hunk from its header and its rows. One line is meant where no count is given. -/
def hunk (header : HunkHeader) (rows : List Text) : Outcome Hunk := do
  let start ← number header.start
  let count ← match header.count with
    | some digits => number digits
    | none => .ok 1
  return ⟨start, count, rows⟩

def hunksOf : List (HunkHeader × List Text) → Outcome (List Hunk)
  | [] => .ok []
  | (header, rows) :: rest => do
    let first ← hunk header rows
    let others ← hunksOf rest
    return first :: others

def hunks (patch : Text) : Outcome (List Hunk) :=
  match group ((Text.fileLines patch).drop 2) with
  | (line :: _, _) => .error (.patch (.lineBeforeHunk line))
  | ([], []) => .error (.patch .noHunk)
  | ([], found) => hunksOf found

/-- What a row says. -/
inductive Row where
  | keep (line : Text)
  | drop (line : Text)
  | add (line : Text)
  | silent
  | invalid
  deriving DecidableEq

def Row.ofText : Text → Row
  | [] => .keep []
  | ' ' :: line => .keep line
  | '-' :: line => .drop line
  | '+' :: line => .add line
  | '\\' :: _ => .silent
  | _ => .invalid

/-- The lines that rows make of a source from a position on, and the position behind them. -/
def applyRows (source : List Text) : Nat → List Text → Outcome (List Text × Nat)
  | position, [] => .ok ([], position)
  | position, row :: rest =>
    match Row.ofText row with
    | .silent => applyRows source position rest
    | .add line => (applyRows source position rest).map fun (lines, stop) => (line :: lines, stop)
    | .invalid => .error (.patch (.invalidRow row))
    | .keep line =>
      if source[position]? = some line then
        (applyRows source (position + 1) rest).map fun (lines, stop) => (line :: lines, stop)
      else .error (.patch (.mismatch (position + 1)))
    | .drop line =>
      if source[position]? = some line then applyRows source (position + 1) rest
      else .error (.patch (.mismatch (position + 1)))

/-- The lines that a hunk makes of a source, and the number of source lines before what is left. -/
def applyHunk (source : List Text) (h : Hunk) : Outcome (List Text × Nat) :=
  (applyRows source h.start h.rows).bind fun (lines, stop) =>
    if stop - h.start = h.oldCount then .ok (lines, stop)
    else .error (.patch (.wrongCount h.oldStart h.oldCount (stop - h.start)))

/-- The lines that hunks make of what is left of a source behind some lines. -/
def applyHunks (source : List Text) : Nat → List Hunk → Outcome (List Text)
  | cursor, [] => .ok (source.drop cursor)
  | cursor, h :: rest =>
    if h.start < cursor ∨ source.length < h.start then .error (.patch (.outside h.oldStart))
    else do
      let (lines, stop) ← applyHunk source h
      let others ← applyHunks source stop rest
      return (source.take h.start).drop cursor ++ lines ++ others

/-- A text that a patch has been applied to. It ends with a line feed if and only if it did so
before. -/
def apply (patch source : Text) : Outcome Text := do
  let _ ← target patch
  let found ← hunks patch
  let lines ← applyHunks (Text.fileLines source) 0 found
  return Text.joinLines lines ++ (if Text.endsIn source ['\n'] then ['\n'] else [])

/-- The file of a patch after the patch has been applied to it. -/
def applyIn (files : Files) (patch : Text) : Outcome Text := do
  let file ← target patch
  let source ← files.readText file
  apply patch source

end Diagnostics.Patch
