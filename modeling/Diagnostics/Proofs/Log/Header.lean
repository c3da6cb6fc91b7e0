import Diagnostics.Log.Scanner
import Diagnostics.Proofs.Log.Grammar
import Diagnostics.Proofs.Message.Acceptance
import Diagnostics.Proofs.Text.Lines

/-!
Headers as they are found in lines, and the messages that they start. The file of a header has no
blanks and its text no line feed, so a message is refused only because of its numbers or because of
a carriage return in its text.
-/
namespace Diagnostics

namespace Text

/-- The codes in some ranges. -/
def codesOf (ranges : List (Nat × Nat)) : List Nat :=
  ranges.flatMap fun (low, high) => List.range' low (high + 1 - low)

theorem mem_codesOf_of_inRanges {ranges : List (Nat × Nat)} {code : Nat}
    (inside : inRanges ranges code = true) : code ∈ codesOf ranges := by
  induction ranges with
  | nil => cases inside
  | cons range rest ih =>
    obtain ⟨low, high⟩ := range
    rw [inRanges] at inside
    rw [codesOf, List.flatMap_cons, List.mem_append]
    split at inside
    · cases inside
    · rcases Bool.or_eq_true_iff.mp inside with upTo | later
      · left
        rw [decide_eq_true_eq] at upTo
        rw [List.mem_range'_1]
        omega
      · exact .inr (ih later)

theorem isWordChar_of_isBlank {c : Char} (blank : isBlank c = true) : isWordChar c = false := by
  have none : ∀ code ∈ codesOf blankRanges, inRanges wordRanges code = false := by decide +kernel
  exact none c.toNat (mem_codesOf_of_inRanges blank)

end Text

namespace Log

theorem isBlank_of_isFileChar {c : Char} (inFile : isFileChar c = true) : Text.isBlank c = false := by
  rw [← Bool.not_eq_true]
  intro blank
  rw [isFileChar, Text.isWordChar_of_isBlank blank] at inFile
  simp only [Bool.false_or, Bool.or_eq_true, beq_iff_eq] at inFile
  rcases inFile with ((rfl | rfl) | rfl) | rfl <;> exact absurd blank (by decide)

theorem header?_eq_some {text : Text} {start : Nat} {h : Header}
    (found : header? text = some (start, h)) :
    h.file.any Text.isBlank = false ∧ '\n' ∉ h.message := by
  have starts := (header?_eq_some_iff.mp found).starts
  refine ⟨?_, starts.message⟩
  rw [List.any_eq_false]
  intro c member
  simp [isBlank_of_isFileChar (starts.file.2 c member)]

/-! ## The message of a header -/

namespace Header

/-- The numbers of a header can be read and count from one, and its text is one line. -/
structure Admissible (h : Header) : Prop where
  line_short : h.line.length ≤ Number.digitLimit
  column_short : h.column.length ≤ Number.digitLimit
  line_counts : 1 ≤ Number.ofDigitText h.line
  column_counts : 1 ≤ Number.ofDigitText h.column
  message_single : '\r' ∉ h.message

instance (h : Header) : Decidable h.Admissible :=
  decidable_of_iff (h.line.length ≤ Number.digitLimit ∧ h.column.length ≤ Number.digitLimit ∧
    1 ≤ Number.ofDigitText h.line ∧ 1 ≤ Number.ofDigitText h.column ∧ '\r' ∉ h.message)
  ⟨fun ⟨line, column, lineCounts, columnCounts, single⟩ =>
      ⟨line, column, lineCounts, columnCounts, single⟩,
    fun ⟨line, column, lineCounts, columnCounts, single⟩ =>
      ⟨line, column, lineCounts, columnCounts, single⟩⟩

/-- The message that a header stands for. -/
def plainMessage (h : Header) : Message :=
  .plain h.file h.message h.level.severity (Number.ofDigitText h.line) (Number.ofDigitText h.column)

theorem number_eq_ok {digits : Text} {n : Nat} :
    number digits = .ok n ↔ digits.length ≤ Number.digitLimit ∧ n = Number.ofDigitText digits := by
  unfold number Number.readDigits
  by_cases short : digits.length ≤ Number.digitLimit
  · simp [short, eq_comm]
  · simp [short]

theorem plainMessage_valid_iff {h : Header} (solid : h.file.any Text.isBlank = false)
    (noFeed : '\n' ∉ h.message) :
    h.plainMessage.Valid ↔ '\r' ∉ h.message ∧ 1 ≤ Number.ofDigitText h.line ∧
      1 ≤ Number.ofDigitText h.column := by
  constructor
  · intro valid
    obtain ⟨single, line, column⟩ := Message.location_valid_iff.mp valid.location_valid
    exact ⟨(Text.plain_iff.mp single).2, line, column⟩
  · rintro ⟨noReturn, line, column⟩
    have single : Text.Plain h.message := Text.plain_iff.mpr ⟨noFeed, noReturn⟩
    exact Message.valid_bare solid (Message.location_valid_iff.mpr ⟨single, line, column⟩)

theorem plainMessage_valid {text : Text} {start : Nat} {h : Header}
    (found : header? text = some (start, h)) (admissible : h.Admissible) : h.plainMessage.Valid := by
  obtain ⟨solid, noFeed⟩ := header?_eq_some found
  exact (plainMessage_valid_iff solid noFeed).mpr
    ⟨admissible.message_single, admissible.line_counts, admissible.column_counts⟩

/-- A header in a line gives its message if it is admissible, and no message otherwise. -/
theorem toMessage_eq_ok {text : Text} {start : Nat} {h : Header} {m : Message}
    (found : header? text = some (start, h)) :
    h.toMessage = .ok m ↔ h.Admissible ∧ m = h.plainMessage := by
  obtain ⟨solid, noFeed⟩ := header?_eq_some found
  have opened : h.toMessage = (number h.line).bind fun line => (number h.column).bind fun column =>
      Message.create h.file h.message h.level.severity (some (line : Int)) (some (column : Int)) := rfl
  simp only [opened, bind_eq_ok, number_eq_ok, Message.create_natCast_eq_ok]
  constructor
  · rintro ⟨_, ⟨lineShort, rfl⟩, _, ⟨columnShort, rfl⟩, valid, rfl⟩
    obtain ⟨single, line, column⟩ := (plainMessage_valid_iff solid noFeed).mp valid
    exact ⟨⟨lineShort, columnShort, line, column, single⟩, rfl⟩
  · rintro ⟨admissible, rfl⟩
    exact ⟨_, ⟨admissible.line_short, rfl⟩, _, ⟨admissible.column_short, rfl⟩,
      plainMessage_valid found admissible, rfl⟩

end Header
end Log
end Diagnostics
