import Diagnostics.Text.Basic

/-!
Cutting a text at an index. An index counts from the start, a negative one from the end, and
whatever lies outside the text is moved to its nearest end.
-/
namespace Diagnostics.Text

/-- The number of characters before an index in a text of some length. -/
def offset (index : Int) (length : Nat) : Nat :=
  if index < 0 then (index + length).toNat else index.toNat

def before (text : Text) (index : Int) : Text := text.take (offset index text.length)

def since (text : Text) (index : Int) : Text := text.drop (offset index text.length)

/-- The item at an index; a negative index counts from the end. -/
def itemAt? {α : Type} (items : List α) (index : Int) : Option α :=
  if 0 ≤ index then items[index.toNat]?
  else if 0 ≤ index + items.length then items[(index + items.length).toNat]? else none

/-- Why there is no item at an index. -/
inductive IndexError where
  /-- The list ends before the index. -/
  | outside
  /-- The index does not fit into 64 bits. -/
  | tooLarge
  deriving DecidableEq

def itemAt {α : Type} (items : List α) (index : Int) : Except IndexError α :=
  match itemAt? items index with
  | some item => .ok item
  | none => if -Nat.pow 2 63 ≤ index ∧ index < Nat.pow 2 63 then .error .outside else .error .tooLarge

/-- Counted from the start, an index is the place of its item. -/
theorem itemAt_natCast {α : Type} {items : List α} {n : Nat} (inside : n < items.length) :
    itemAt items (n : Int) = .ok items[n] := by
  simp [itemAt, itemAt?, inside]

theorem before_natCast (text : Text) (n : Nat) : before text (n : Int) = text.take n := by
  have h : ¬ (n : Int) < 0 := by omega
  simp [before, offset, h]

theorem since_natCast (text : Text) (n : Nat) : since text (n : Int) = text.drop n := by
  have h : ¬ (n : Int) < 0 := by omega
  simp [since, offset, h]

end Diagnostics.Text
