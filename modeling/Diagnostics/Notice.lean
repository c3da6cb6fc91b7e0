import Diagnostics.Paint.Style

/-!
Notices to the user: what went well, what was passed over and what failed. On terminals every line
of a notice is coloured.
-/
namespace Diagnostics

/-- What a notice is about. -/
inductive Notice where
  | success
  | warning
  | failure
  deriving DecidableEq

namespace Notice

def picture : Notice → Text
  | .success => "✅ ".toList
  | .warning => "⚠️ ".toList
  | .failure => "❌ ".toList

def code : Notice → Text
  | .success => "32".toList
  | .warning => "33".toList
  | .failure => "31".toList

/-- A line in the colour of a notice. An empty line stays empty. -/
def paint (n : Notice) (line : Text) : Text :=
  if line = [] then [] else "\x1b[".toList ++ n.code ++ 'm' :: line ++ "\x1b[0m".toList

/-- The lines of a notice, each with a line feed at its end. -/
def text (n : Notice) (message : Text) (emoji painted : Bool) : Text :=
  let message := (if emoji then n.picture else []) ++ message
  let lines := Text.splitOnChar '\n' message
  (if painted then lines.map n.paint else lines).flatMap fun line => line ++ ['\n']

end Notice
end Diagnostics
