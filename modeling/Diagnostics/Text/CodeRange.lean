/-!
Classes of characters given by closed ranges of code points, in ascending order.
-/
namespace Diagnostics.Text

/-- A code point lies in one of some ranges. The search stops at the first range above it. -/
def inRanges : List (Nat × Nat) → Nat → Bool
  | [], _ => false
  | (low, high) :: rest, code => if code < low then false else code ≤ high || inRanges rest code

/-- Ranges in ascending order that do not touch: what the search relies on. -/
def Ascending : List (Nat × Nat) → Prop
  | [] => True
  | [(low, high)] => low ≤ high
  | (low, high) :: (low', high') :: rest =>
    low ≤ high ∧ high < low' ∧ Ascending ((low', high') :: rest)

end Diagnostics.Text
