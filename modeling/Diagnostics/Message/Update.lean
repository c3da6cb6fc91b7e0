import Diagnostics.Message.Check

/-!
Changed copies of messages. Each change is checked, and so is the whole message that it leads to;
a change that is refused leaves the message as it was.
-/
namespace Diagnostics.Message

/-- The message, checked again with all its parts. -/
def recheck (m : Message) : Outcome Message :=
  checked .message (build m.file m.level m.location m.context m.hints)

def withFile (m : Message) (file : Text) : Outcome Message := recheck { m with file }

def withFileValue (m : Message) (file : Value) : Outcome Message :=
  (checked .message (Check.member "file" (Check.text file))).bind m.withFile

def withLevel (m : Message) (level : Severity) : Outcome Message := recheck { m with level }

def withLevelValue (m : Message) (level : Value) : Outcome Message :=
  (checked .message (Check.member "level" (Check.severity level))).bind m.withLevel

/-- A copy with a context that has the line of the message. -/
def attach (m : Message) (context : Context) : Outcome Message :=
  match contextMisfit? m.line context with
  | some misfit => .error (.ofMisfit misfit)
  | none => recheck { m with context := some context }

/-- A copy with some lines around it, from a line number on. -/
def withContext (m : Message) (start : Int) (lines : List Text) : Outcome Message :=
  if start ≤ 0 then .error .contextStart else m.attach ⟨start.toNat, lines⟩

/-- A number is not above zero; other values cannot be compared. -/
def notPositive : Value → Outcome Bool
  | .integer n => .ok (n ≤ 0)
  | .flag b => .ok (!b)
  | .real x => .ok (x ≤ 0)
  | _ => .error .wrongType

def withContextValues (m : Message) (start lines : Value) : Outcome Message :=
  (notPositive start).bind fun refused =>
    if refused then .error .contextStart
    else (Context.linesOf lines).bind fun lines =>
      (checked .window (Check.member "start_line" (Check.natural 1 start))).bind fun start =>
        m.attach ⟨start, lines⟩

/-- A copy with one more hint, which goes where its first column belongs. -/
def withHint (m : Message) (hint : Hint) : Outcome Message :=
  match m.context with
  | none => .error (.noContext .addingHint)
  | some _ =>
    match hintMisfit? (m.hints ++ [hint]) with
    | some misfit => .error (.ofMisfit misfit)
    | none => recheck { m with hints := Hint.sort (m.hints ++ [hint]) }

/-- A copy with some more hints, one after the other. -/
def withHints (m : Message) : List Hint → Outcome Message
  | [] => .ok m
  | hint :: rest => (m.withHint hint).bind fun m => m.withHints rest

end Diagnostics.Message
