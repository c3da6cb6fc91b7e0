import Diagnostics.Message.OldForm
import Diagnostics.Proofs.Message.History
import Diagnostics.Proofs.Message.Refusal
import Diagnostics.Proofs.Message.Replay

/-!
What becomes of the caret of a message in the older form. Its index is the column of the message, and
what it is longer than one column is a mark right behind that column.
-/
namespace Diagnostics

theorem Message.exists_context_of_withContextValues {m changed : Message} {start lines : Value}
    (valid : m.Valid) (given : m.withContextValues start lines = .ok changed) :
    ∃ c, changed = { m with context := some c } := by
  simp only [withContextValues, bind_eq_ok] at given
  obtain ⟨refused, _, given⟩ := given
  split at given
  · cases given
  · simp only [bind_eq_ok] at given
    obtain ⟨texts, _, first, _, made⟩ := given
    obtain ⟨_, _, _, _, rfl⟩ := build_eq_ok.mp (attach_eq_ok.mp made)
    rw [Hint.sort_of_ascending (Hint.ascending_of_spaced valid.hints_spaced)]
    exact ⟨_, rfl⟩

theorem Message.eq_of_withHint {m changed : Message} {h : Hint} (free : m.hints = [])
    (hinted : m.withHint h = .ok changed) : changed = { m with hints := [h] } := by
  obtain ⟨_, _, _, _, rfl⟩ := build_eq_ok.mp (withHint_eq_ok.mp hinted)
  rw [free]
  rfl

namespace OldForm

/-- A member is an integer; it counts as one if it is absent. -/
def Holds (members : Members) (name : String) (n : Int) : Prop :=
  (Members.valueOf? members name.toList).getD (.integer 1) = .integer n

/-- The index and the length of the caret of a message, in members of it or, where there are none, by
default. -/
def HasCaret (members : Members) (index length : Int) : Prop :=
  ∃ caret, Holds caret "index" index ∧ Holds caret "length" length ∧
    (Members.valueOf? members "caret".toList = some (.object caret) ∨
      caret = [] ∧ ((Members.valueOf? members "caret".toList).getD .null).isVoid = true)

variable {members : Members} {index length : Int}

theorem integerMember_of_holds {name : String} {n : Int} (holds : Holds members name n) :
    integerMember members name = .ok n := by
  rw [integerMember, holds]
  rfl

theorem caret_eq (carets : HasCaret members index length) : caret members = .ok (index, length) := by
  obtain ⟨found, first, size, given⟩ := carets
  have stated : (if ((Members.valueOf? members "caret".toList).getD .null).isVoid then .ok []
      else membersOf ((Members.valueOf? members "caret".toList).getD .null)) =
        (.ok found : Outcome Members) := by
    rcases given with given | ⟨rfl, void⟩
    · rw [given]
      cases found <;> rfl
    · rw [if_pos void]
  have read : caret members = (.ok found : Outcome Members).bind fun caret =>
      (integerMember caret "index").bind fun index =>
        (integerMember caret "length").bind fun length => .ok (index, length) := by
    rw [← stated, caret]
    split <;> rfl
  rw [read, Except.bind, integerMember_of_holds first, Except.bind, integerMember_of_holds size]
  rfl

theorem mark_eq (column : Nat) (wide : 1 < length) :
    mark column length = .ok (.mark ⟨column + 1, (length - 1).toNat⟩) := by
  have spanned : Hint.describedSpan .mark [("index".toList, .integer (column + 1)),
      ("length".toList, .integer (length - 1))] = .ok ⟨column + 1, (length - 1).toNat⟩ := by
    refine map_eq_ok.mpr ⟨(column + 1, (length - 1).toNat), Check.both_eq_ok.mpr
      ⟨Check.required_eq_ok.mpr ⟨.integer (column + 1), rfl, ?_⟩,
        Check.defaulted_eq_ok.mpr (.inr ⟨.integer (length - 1), rfl, ?_⟩)⟩, rfl⟩
    · exact bind_eq_ok.mpr ⟨_, rfl, Check.atLeast_eq_ok.mpr ⟨by omega, by omega⟩⟩
    · exact bind_eq_ok.mpr ⟨_, rfl, Check.atLeast_eq_ok.mpr ⟨by omega, by omega⟩⟩
  rw [mark, Hint.describe, spanned]
  rfl

/-- A message that has been made of an older one with a context and a caret. -/
structure Converted (members : Members) (index length : Int) (m : Message) : Prop where
  valid : m.Valid
  file : textMember members "id" = .ok m.file
  text : textMember members "message" = .ok m.text
  around : m.context ≠ none
  column : (m.column : Int) = index
  hints : m.hints = if 1 < length then [.mark ⟨m.column + 1, (length - 1).toNat⟩] else []

theorem converted {context : Members} {version : Value} {m : Message}
    (around : Members.valueOf? members "context".toList = some (.object context))
    (carets : HasCaret members index length) (made : convert (.object members) version = .ok m) :
    Converted members index length m := by
  unfold convert at made
  split at made
  · obtain ⟨_, _, failed⟩ := bind_eq_ok.mp made
    cases failed
  simp only [membersOf, caret_eq carets, around, Option.getD_some, bind, bind_eq_ok, Except.ok.injEq,
    pure, Except.pure, exists_eq_left'] at made
  obtain ⟨file, named, text, told, line, _, created, creating, start, _, shown, given, marked⟩ := made
  obtain ⟨l, column, rfl, rfl, valid, same⟩ : ∃ l c : Nat, line = l ∧ index = c ∧
      (Message.plain file text (severity members) l c).Valid ∧
      created = Message.plain file text (severity members) l c := by
    rcases Message.create_cases file text (severity members) line index with
      ⟨_, refused⟩ | ⟨_, _, refused⟩ | ⟨l, c, hl, hc, valid, accepted⟩
    · cases refused.symm.trans creating
    · cases refused.symm.trans creating
    · exact ⟨l, c, hl, hc, valid, Except.ok.inj (creating.symm.trans accepted)⟩
  subst same
  have shownValid := Message.valid_of_outcome valid (.context _ _) given
  obtain ⟨c, rfl⟩ := Message.exists_context_of_withContextValues valid given
  by_cases wide : 1 < length
  · rw [if_pos wide, mark_eq column wide] at marked
    obtain ⟨_, ⟨⟩, hinted⟩ := bind_eq_ok.mp marked
    have counted : (Hint.mark ⟨column + 1, (length - 1).toNat⟩).Valid := Nat.le_add_left 1 column
    have mValid := Message.valid_of_withHint shownValid counted hinted
    obtain rfl := Message.eq_of_withHint rfl hinted
    exact ⟨mValid, named, told, Option.some_ne_none c, rfl, (if_pos wide).symm⟩
  · rw [if_neg wide] at marked
    obtain rfl := Except.ok.inj marked
    exact ⟨shownValid, named, told, Option.some_ne_none c, rfl, (if_neg wide).symm⟩

end OldForm
end Diagnostics
