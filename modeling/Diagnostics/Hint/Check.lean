import Diagnostics.Check.Field
import Diagnostics.Error
import Diagnostics.Number.Rounding

/-!
Hints from values of unknown shape. The text of a hint has to go with its kind: hints that insert
or replace carry one, hints that mark or remove carry none.
-/
namespace Diagnostics

def Span.check : Value → Checked Span :=
  Check.record .span fun members =>
    (Check.both (Check.required members "index" (Check.natural 1))
      (Check.defaulted members "length" 1 (Check.natural 0))).map fun (index, length) =>
      ⟨index, length⟩

/-- A span covers the column that a number stands for. Other values are no columns. -/
def Span.coversValue (s : Span) : Value → Outcome Bool
  | .integer n => .ok (decide (s.index ≤ n ∧ n < s.stop))
  | .flag b => .ok (s.covers (if b then 1 else 0))
  | .real x =>
    if Number.isFinite x then
      let (n, d) := Number.quotientOf x
      .ok (decide (s.index * d ≤ n ∧ n < s.stop * d))
    else .ok false
  | _ => .error .wrongType

def HintKind.check : Value → Checked HintKind
  | .text t => match HintKind.ofName? t with
    | some kind => .ok kind
    | none => Check.fail .notHintKind
  | _ => Check.fail .notHintKind

namespace Hint

/-- A line with a hint carried out, its columns moved to the right by the offset that a value stands
for. A hint that changes nothing takes an offset with a fraction too. -/
def applyShifted (h : Hint) (line : Text) : Value → Outcome Text
  | .integer n => .ok (h.applyAt line n)
  | .flag b => .ok (h.applyAt line (if b then 1 else 0))
  | .real _ => if h.kind = .mark then .ok line else .error .wrongType
  | _ => .error .wrongType

/-- A hint made of its parts, or the rule that they break. -/
def make (kind : HintKind) (span : Span) (text : Option Text) : Checked Hint :=
  match ofParts? kind span text with
  | some hint => .ok hint
  | none =>
    match kind.hasText, text with
    | true, none =>
      Check.fail (.rejected ("text is required for ".toList ++ kind.title ++ " hints".toList))
    | false, some _ =>
      Check.fail (.rejected ("text is not supported for ".toList ++ kind.title ++ " hints".toList))
    | _, _ => Check.fail (.rejected "INSERT hints must have a range length of 1".toList)

def textMember (members : Members) : Checked (Option Text) :=
  Check.defaulted members "text" none (Check.optional Check.text)

def check : Value → Checked Hint :=
  Check.record .hint fun members =>
    (Check.both (Check.required members "modification" HintKind.check)
      (Check.both (Check.required members "range" Span.check) (textMember members))).bind
      fun (kind, span, text) => make kind span text

/-- The span of a hint that is about to be made. Text is always inserted before one column. -/
def describedSpan (kind : HintKind) (members : Members) : Checked Span :=
  let length := match kind with
    | .insert => .ok 1
    | _ => Check.defaulted members "length" 1 (Check.natural 0)
  (Check.both (Check.required members "index" (Check.natural 1)) length).map
    fun (index, length) => ⟨index, length⟩

/-- A hint of a kind, from its index, its length and its text. The span is checked first. -/
def describe (kind : HintKind) (members : Members) : Outcome Hint :=
  match describedSpan kind members with
  | .error found => .error (.invalid .span found)
  | .ok span =>
    let text := if kind.hasText then textMember members else .ok none
    match text.bind (make kind span) with
    | .error found => .error (.invalid .hint found)
    | .ok hint => .ok hint

end Hint
end Diagnostics
