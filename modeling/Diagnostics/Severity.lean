import Diagnostics.Text.Blank
import Diagnostics.Text.Lowercase

/-!
Severities of messages: their names, their ranks and the levels of reports that they stand for.
-/
namespace Diagnostics

/-- How severe a message is, from the least to the most. -/
inductive Severity where
  | ignored
  | note
  | remark
  | warning
  | error
  | fatal
  deriving DecidableEq

/-- What a severity means to a reader, where colours are chosen. -/
inductive Tone where
  | muted
  | informational
  | caution
  | danger
  deriving DecidableEq

def Tone.name : Tone → Text
  | .muted => "muted".toList
  | .informational => "informational".toList
  | .caution => "caution".toList
  | .danger => "danger".toList

namespace Severity

def all : List Severity := [.ignored, .note, .remark, .warning, .error, .fatal]

/-- The name of a severity, as it stands in headers. -/
def name : Severity → Text
  | .ignored => "ignored".toList
  | .note => "note".toList
  | .remark => "remark".toList
  | .warning => "warning".toList
  | .error => "error".toList
  | .fatal => "fatal".toList

/-- The severity of exactly that name. -/
def ofName? (name : Text) : Option Severity := all.find? (·.name = name)

/-- Severities of one rank are equally severe. -/
def rank : Severity → Nat
  | .ignored => 0
  | .note => 1
  | .remark => 1
  | .warning => 2
  | .error => 3
  | .fatal => 3

def tone : Severity → Tone
  | .ignored => .muted
  | .note => .informational
  | .remark => .informational
  | .warning => .caution
  | .error => .danger
  | .fatal => .danger

/-- A message of this severity makes a run fail. -/
def isBlocking (s : Severity) : Bool := rank .error ≤ s.rank

/-- The severity named by a label, in any case and with blanks around it, or a default. -/
def ofLabel (label : Text) (default : Severity) : Severity :=
  (ofName? (Text.lower (Text.trim Text.isBlank label))).getD default

/-- The level of a report that stands for a severity. -/
def reportLevel : Severity → Text
  | .ignored => "none".toList
  | .note => "note".toList
  | .remark => "note".toList
  | .warning => "warning".toList
  | .error => "error".toList
  | .fatal => "error".toList

/-- The severity that a level of a report stands for, in any case; other levels are warnings. -/
def ofReportLevel (level : Text) : Severity :=
  let level := Text.lower level
  if level = "error".toList then .error
  else if level = "note".toList then .note
  else if level = "none".toList then .ignored
  else .warning

/-- The severity that is read back from a report. -/
def reported : Severity → Severity
  | .remark => .note
  | .fatal => .error
  | s => s

@[simp] theorem ofName?_name (s : Severity) : ofName? s.name = some s := by cases s <;> decide

theorem rank_reported (s : Severity) : s.reported.rank = s.rank := by cases s <;> rfl

end Severity
end Diagnostics
