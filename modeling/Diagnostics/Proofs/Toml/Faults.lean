import Diagnostics.Toml.Reader
import Mathlib.Data.List.Infix

/-!
Why documents are refused. Reading leaves a rest of the text, and the text accounts for each fault:
a number that is too long stands in it as a run of digits, and where there is too little room, it
opens many brackets or braces.
-/
namespace Diagnostics.Toml
variable {α β : Type} {steps steps' : Nat} {room room' : Nat} {text text' : Text} {fault : Fault}

/-- A run of digits and low lines stands in a text, with a number of digits. -/
def HoldsDigits (digits : Nat) (text : Text) : Prop :=
  ∃ run, run <:+: text ∧ (∀ c ∈ run, Text.isPlainDigit c = true ∨ c = '_') ∧
    run.countP Text.isPlainDigit = digits

/-- The room that arrays and tables take if everything that a text opens stands inside each other:
two steps for an array and three for a table. -/
def nestingRoom (text : Text) : Nat := 2 * text.count '[' + 3 * text.count '{'

/-- A text accounts for a fault of reading it, where reading takes some steps besides those of
arrays and tables. -/
def Accounts (steps room : Nat) (text : Text) : Fault → Prop
  | .malformed => True
  | .integer e =>
    ∃ digits, e = .tooLong digits ∧ Number.digitLimit < digits ∧ HoldsDigits digits text
  | .tooDeep _ => room < steps + nestingRoom text

/-- Reading leaves a rest of the text, or the text accounts for its fault. -/
def Reads (rest : α → Text) (steps room : Nat) (text : Text) : Except Fault α → Prop
  | .ok found => rest found <:+ text
  | .error fault => Accounts steps room text fault

/-! ## Reading one thing after another -/

theorem nestingRoom_le (fewer : text.Sublist text') : nestingRoom text ≤ nestingRoom text' := by
  have arrays := fewer.count_le '['
  have tables := fewer.count_le '{'
  unfold nestingRoom
  omega

theorem HoldsDigits.mono {digits : Nat} (holds : HoldsDigits digits text)
    (within : text <:+: text') : HoldsDigits digits text' := by
  obtain ⟨run, stands, among, count⟩ := holds
  exact ⟨run, stands.trans within, among, count⟩

theorem Accounts.mono (accounts : Accounts steps room text fault) (within : text <:+ text')
    (enough : room' + (steps + nestingRoom text) ≤ room + (steps' + nestingRoom text')) :
    Accounts steps' room' text' fault := by
  cases fault with
  | malformed => trivial
  | integer e =>
    obtain ⟨digits, same, long, holds⟩ := accounts
    exact ⟨digits, same, long, holds.mono within.isInfix⟩
  | tooDeep nesting =>
    unfold Accounts at accounts ⊢
    omega

namespace Reads
variable {rest : α → Text} {rest' : β → Text} {m : Except Fault α}

theorem mono (reads : Reads rest steps room text m) (within : text <:+ text')
    (enough : room' + (steps + nestingRoom text) ≤ room + (steps' + nestingRoom text')) :
    Reads rest steps' room' text' m := by
  cases m with
  | ok found => exact List.IsSuffix.trans reads within
  | error fault => exact Accounts.mono reads within enough

/-- A part of the text is read in some steps of the whole. -/
theorem part (reads : Reads rest steps room text m) (within : text <:+ text')
    (enough : room' + steps ≤ room + steps') : Reads rest steps' room' text' m := by
  have fewer := nestingRoom_le within.sublist
  exact reads.mono within (by omega)

/-- Reading in some steps of more. -/
theorem more (reads : Reads rest steps room text m) (enough : room' + steps ≤ room + steps') :
    Reads rest steps' room' text m :=
  reads.part (List.suffix_refl text) enough

theorem bind {next : α → Except Fault β} (first : Reads rest steps room text m)
    (second : ∀ found, Reads rest' steps room (rest found) (next found)) :
    Reads rest' steps room text (m >>= next) := by
  cases m with
  | ok found => exact (second found).part first (Nat.le_refl _)
  | error fault => exact first

/-- Two ways of reading that go on alike. -/
theorem iteBind {c : Prop} [Decidable c] {other : Except Fault α} {next : α → Except Fault β}
    (first : Reads rest steps room text m) (second : Reads rest steps room text other)
    (third : ∀ found, Reads rest' steps room (rest found) (next found)) :
    Reads rest' steps room text (if c then m >>= next else other >>= next) := by
  split
  · exact first.bind third
  · exact second.bind third

/-- What is read may leave less of the text. -/
theorem shrink {change : α → β} (reads : Reads rest steps room text m)
    (less : ∀ found, rest' (change found) <:+ rest found) :
    Reads rest' steps room text (m.map change) := by
  cases m with
  | ok found => exact (less found).trans reads
  | error fault => exact reads

theorem malformed : Reads rest steps room text (.error .malformed) := trivial

theorem map {change : α → β} (reads : Reads rest steps room text m)
    (same : ∀ found, rest' (change found) = rest found) :
    Reads rest' steps room text (m.map change) :=
  reads.shrink fun found => (same found).symm ▸ List.suffix_refl _

end Reads

theorem reads_need (nesting : Nesting) (enough : steps' ≤ steps) :
    Reads (fun _ => text) steps room text (need steps' nesting room) := by
  rw [need]
  split
  next short => exact Nat.lt_of_lt_of_le short (Nat.le_add_right_of_le enough)
  next => exact List.suffix_refl text

/-! ## Blanks and comments -/

theorem skipSpace_suffix (text : Text) : skipSpace text <:+ text := List.dropWhile_suffix _

theorem skipFeed_suffix (text : Text) : skipFeed text <:+ text := by
  unfold skipFeed
  split
  · exact List.suffix_cons _ _
  · exact List.suffix_refl _

theorem reads_skipComment (room : Nat) (text : Text) : Reads id 0 room text (skipComment text) := by
  unfold skipComment
  split
  next rest =>
    split
    · exact .malformed
    · exact (List.dropWhile_suffix _).trans (List.suffix_cons _ rest)
  next => exact List.suffix_refl text

theorem reads_skipGaps (room : Nat) (fuel : Nat) (text : Text) :
    Reads id 5 room text (skipGaps room fuel text) := by
  induction fuel generalizing text with
  | zero => exact List.suffix_refl text
  | succ fuel ih =>
    have blanks : text.dropWhile isSpaceOrFeed <:+ text := List.dropWhile_suffix _
    rw [skipGaps]
    split
    next rest found =>
      rw [found] at blanks
      refine .bind (reads_need _ (by omega)) fun _ => .bind (reads_need _ (by omega)) fun _ => ?_
      refine .bind ((reads_skipComment room _).part blanks (by omega)) fun rest => ?_
      exact ih rest
    next => exact blanks

end Diagnostics.Toml
