import Diagnostics.Text.Encoding
import Diagnostics.Toml.Scalar

/-!
Reading TOML documents. A document is a table that its rows fill: rows with a key and a value, and
headers that open a table or add one to an array of tables. What was written in one place cannot be
opened again: arrays and tables between brackets are complete, a table has one header, and tables
that dotted keys made have none.
-/
namespace Diagnostics.Toml

/-- The names on the way to a value. -/
abbrev Path := List Text

/-- Change the table at the end of a path, which is made if nothing is there. Of an array of tables
the last one is meant, where arrays may be entered at all. -/
def updateAt (arrays : Bool) (change : Members → Option Members) : Path → Members → Option Members
  | [], table => change table
  | name :: path, table =>
    match Members.valueOf? table name with
    | none => (updateAt arrays change path []).map fun inner => Members.put name (.object inner) table
    | some (.object inner) =>
      (updateAt arrays change path inner).map fun inner => Members.put name (.object inner) table
    | some (.list items) =>
      match arrays, items.getLast? with
      | true, some (.object inner) =>
        (updateAt arrays change path inner).map fun inner =>
          Members.put name (.list (items.dropLast ++ [.object inner])) table
      | _, _ => none
    | some _ => none

/-- Set a value that is not there yet. -/
def setNew (arrays : Bool) (path : Path) (value : Value) (table : Members) : Option Members :=
  match path.getLast? with
  | none => none
  | some name =>
    updateAt arrays (fun inner =>
      if (Members.valueOf? inner name).isSome then none
      else some (Members.put name value inner)) path.dropLast table

/-- Add an empty table to the array at the end of a path. -/
def addTable (path : Path) (table : Members) : Option Members :=
  match path.getLast? with
  | none => none
  | some name =>
    updateAt true (fun inner =>
      match Members.valueOf? inner name with
      | none => some (Members.put name (.list [.object []]) inner)
      | some (.list items) => some (Members.put name (.list (items ++ [.object []])) inner)
      | some _ => none) path.dropLast table

/-- A value that is complete where it is written. -/
def isClosedValue : Value → Bool
  | .list _ | .object _ => true
  | _ => false

/-- A path leads into a complete value. -/
def leadsInto (complete : List Path) (path : Path) : Bool :=
  complete.any fun start => start.isPrefixOf path

/-- A change that has to succeed. -/
def orFault {α : Type} : Option α → Except Fault α
  | some a => .ok a
  | none => .error .malformed

mutual
/-- A value. The arrays and tables that stand inside each other all need room: an array for two
steps around its items, and a table for three around its values. -/
def value : Nat → Room → Text → Except Fault (Value × Text)
  | 0, _, _ => .error .malformed
  | fuel + 1, room, text =>
    match text with
    | '[' :: rest => do
      need 3 .rule room
      match ← skipGaps room fuel rest with
      | ']' :: rest => .ok (.list [], rest)
      | rest => (items fuel room rest).map fun (items, rest) => (.list items, rest)
    | '{' :: rest => do
      need 1 .rule room
      need 2 .operation room
      need 3 .rule room
      match skipSpace rest with
      | '}' :: rest => .ok (.object [], rest)
      | rest => (entries fuel (room - 2) [] [] rest).map fun (table, rest) => (.object table, rest)
    | text => scalar room text
/-- The items of an array, one at least, up to the closing bracket. -/
def items : Nat → Room → Text → Except Fault (List Value × Text)
  | 0, _, _ => .error .malformed
  | fuel + 1, room, text => do
    let (first, rest) ← value fuel (room - 2) text
    match ← skipGaps room fuel rest with
    | ']' :: rest => .ok ([first], rest)
    | ',' :: rest =>
      match ← skipGaps room fuel rest with
      | ']' :: rest => .ok ([first], rest)
      | rest => (items fuel room rest).map fun (others, rest) => (first :: others, rest)
    | _ => .error .malformed
/-- The entries of a table between braces, one at least, up to the closing brace, set in a table of
which some values are complete. -/
def entries : Nat → Room → List Path → Members → Text → Except Fault (Members × Text)
  | 0, _, _, _, _ => .error .malformed
  | fuel + 1, room, complete, table, text => do
    let (path, found, rest) ← pair fuel room text
    if leadsInto complete path then .error .malformed
    let table ← orFault (setNew false path found table)
    let complete := if isClosedValue found then path :: complete else complete
    match skipSpace rest with
    | '}' :: rest => .ok (table, rest)
    | ',' :: rest => entries fuel room complete table (skipSpace rest)
    | _ => .error .malformed
/-- A key, an equals sign and a value. -/
def pair : Nat → Room → Text → Except Fault (Path × Value × Text)
  | 0, _, _ => .error .malformed
  | fuel + 1, room, text => do
    let (path, rest) ← key room (text.length + 1) text
    match rest with
    | '=' :: rest =>
      let (found, rest) ← value fuel (room - 1) (skipSpace rest)
      .ok (path, found, rest)
    | _ => .error .malformed
end

/-- A document that has been read in part. -/
structure Draft where
  table : Members
  /-- The path of the header last read. -/
  header : Path
  /-- Values between brackets or braces. -/
  complete : List Path
  /-- Tables that no header may open any more. -/
  opened : List Path
  /-- Tables made by dotted keys since the header last read. -/
  dotted : List Path

/-- The proper starts of a path behind some header, from the shortest to the longest. -/
def properStarts (header path : Path) : List Path :=
  ((List.range path.length).drop 1).map fun n => header ++ path.take n

/-- The draft with the entry of a row. -/
def Draft.enter (d : Draft) (path : Path) (found : Value) : Except Fault Draft := do
  let starts := properStarts d.header path
  if starts.any fun start => d.opened.contains start then .error .malformed
  if leadsInto d.complete (d.header ++ path.dropLast) then .error .malformed
  let table ← orFault (setNew true (d.header ++ path) found d.table)
  let complete :=
    if isClosedValue found then (d.header ++ path) :: d.complete else d.complete
  return { d with table, complete, dotted := starts ++ d.dotted }

/-- The draft behind the header of a table. -/
def Draft.openTable (d : Draft) (path : Path) : Except Fault Draft := do
  let opened := d.dotted ++ d.opened
  if opened.contains path || leadsInto d.complete path then .error .malformed
  let table ← orFault (updateAt true some path d.table)
  return { d with table, header := path, opened := path :: opened, dotted := [] }

/-- The draft behind the header of a table in an array. What was said about the array's other
tables does not hold for the new one. -/
def Draft.openItem (d : Draft) (path : Path) : Except Fault Draft := do
  let opened := d.dotted ++ d.opened
  if leadsInto d.complete path then .error .malformed
  let table ← orFault (addTable path d.table)
  let outside (other : Path) : Bool := !path.isPrefixOf other
  return ⟨table, path, d.complete.filter outside, path :: opened.filter outside, []⟩

/-- The draft behind a statement at the front of a text, and the rest. -/
def statement (room : Room) (d : Draft) (text : Text) : Except Fault (Draft × Text) :=
  match text with
  | '[' :: '[' :: rest => do
    let (path, rest) ← key room (rest.length + 1) (skipSpace rest)
    let d ← d.openItem path
    match rest with
    | ']' :: ']' :: rest => .ok (d, rest)
    | _ => .error .malformed
  | '[' :: rest => do
    let (path, rest) ← key room (rest.length + 1) (skipSpace rest)
    let d ← d.openTable path
    match rest with
    | ']' :: rest => .ok (d, rest)
    | _ => .error .malformed
  | text => do
    let (path, found, rest) ← pair (3 * text.length + 3) room text
    let d ← d.enter path found
    .ok (d, rest)

/-- The draft behind the rows of a text. -/
def rows (room : Room) : Nat → Draft → Text → Except Fault Draft
  | 0, _, _ => .error .malformed
  | fuel + 1, d, text =>
    match skipSpace text with
    | [] => .ok d
    | '\n' :: rest => rows room fuel d rest
    | text => do
      let (d, rest) ← if text.head? = some '#' then .ok (d, text) else statement room d text
      match ← skipComment (skipSpace rest) with
      | [] => .ok d
      | '\n' :: rest => rows room fuel d rest
      | _ => .error .malformed

/-- The steps that lead to the entries of a document. -/
def outerSteps : Nat := 4

/-- The table that a document holds. -/
def read (room : Room) (text : Text) : Except Fault Members :=
  let text := Text.feedsOnly text
  (rows (room - outerSteps) (text.length + 1) ⟨[], [], [], [], []⟩ text).map (·.table)

end Diagnostics.Toml
