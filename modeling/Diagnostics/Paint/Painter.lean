import Diagnostics.Paint.Style

/-!
Painting the parts of a rendered message. Each part has a role, a role has a style that may depend
on the severity of the message, and cells of one role that stand side by side are painted as one.
-/
namespace Diagnostics

/-- The parts of a rendered message. -/
inductive Role where
  | location
  | level
  | message
  | contextLine
  | focusLine
  | caret
  | mark
  | insert
  | remove
  | replace
  | suggestion
  deriving DecidableEq

namespace Role

def all : List Role :=
  [.location, .level, .message, .contextLine, .focusLine, .caret, .mark, .insert, .remove, .replace,
   .suggestion]

def name : Role → Text
  | .location => "location".toList
  | .level => "level".toList
  | .message => "message".toList
  | .contextLine => "context_line".toList
  | .focusLine => "focus_line".toList
  | .caret => "caret".toList
  | .mark => "mark".toList
  | .insert => "insert".toList
  | .remove => "remove".toList
  | .replace => "replace".toList
  | .suggestion => "suggestion".toList

/-- The role of exactly that name. -/
def ofName? (name : Text) : Option Role := all.find? (·.name = name)

/-- The role of the columns that a hint of some kind is about. -/
def ofKind : HintKind → Role
  | .mark => .mark
  | .insert => .insert
  | .remove => .remove
  | .replace => .replace

end Role

/-- The style of each role, given the severity of the message. -/
abbrev Styles := Severity → Role → Option Text

namespace Styles

/-- The style of the severity in a header. -/
def ofTone : Tone → Text
  | .muted => "bold bright_black".toList
  | .informational => "bold blue".toList
  | .caution => "bold yellow".toList
  | .danger => "bold red".toList

/-- The styles that are used unless others are set. -/
def standard : Styles := fun severity role =>
  match role with
  | .level => some (ofTone severity.tone)
  | .location | .message => some "bold".toList
  | .contextLine => some "bold bright_black".toList
  | .focusLine => some "bold bright_white".toList
  | .caret => some "bold green".toList
  | .mark | .remove => some "red".toList
  | .insert => some "green".toList
  | .replace => some "yellow".toList
  | .suggestion => none

/-- The standard styles, but for some roles. An empty style stands for none. -/
def override (overrides : List (Role × Text)) : Styles := fun severity role =>
  match overrides.find? fun entry => entry.1 = role with
  | some (_, []) => none
  | some (_, style) => some style
  | none => standard severity role

end Styles

/-- What a painter goes by. -/
structure Painter where
  level : Severity
  styles : Styles
  palette : Palette
  /-- Whether anything is painted at all. -/
  color : Bool

namespace Painter

/-- A text in the style of its role. -/
def paint (p : Painter) (text : Text) (role : Role) : Outcome Text :=
  if !p.color || text.isEmpty then .ok text
  else match p.styles p.level role with
    | none | some [] => .ok text
    | some style => (p.palette style).map fun apply => apply text

/-- A text in the style of its role, if it has one. -/
def paintCell (p : Painter) (text : Text) : Option Role → Outcome Text
  | none => .ok text
  | some role => p.paint text role

/-- Some cells behind a text of one role that has been collected, its last character first. -/
def runsAfter (p : Painter) (collected : Text) (current : Option Role) :
    List (Char × Option Role) → Outcome Text
  | [] => if collected = [] then .ok [] else p.paintCell collected.reverse current
  | (c, role) :: rest =>
    if role ≠ current ∧ collected ≠ [] then
      (p.paintCell collected.reverse current).bind fun painted =>
        (p.runsAfter [c] role rest).map (painted ++ ·)
    else p.runsAfter (c :: collected) role rest

/-- Cells, painted in runs of one role. -/
def runs (p : Painter) (cells : List (Char × Option Role)) : Outcome Text :=
  p.runsAfter [] none cells

end Painter
end Diagnostics
