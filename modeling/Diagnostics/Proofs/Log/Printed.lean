import Diagnostics.Proofs.Log.Scan
import Diagnostics.Proofs.Render.Alignment

/-!
Messages printed and read in a log. The first line of a message without colours is a header, and as
long as the level and the file are such that headers have, it is read as that message without what
stands around it, whatever the text of the message looks like.
-/
namespace Diagnostics

namespace Message

/-- A message that lacks nothing is printed with its header first, unless a number is too long to be
written. -/
theorem exists_rows_render {m : Message} (valid : m.Valid) (named : m.file ≠ []) (told : m.text ≠ [])
    (styles : Styles) :
    (m.Overlong ∧ m.render styles false = .error .unwritable) ∨
    (¬ m.Overlong ∧ ∃ rows, m.render styles false = .ok (Text.joinLines (m.headerText :: rows))) := by
  have whole := unrenderable?_eq_none valid named told
  refine (@renderWith_of_whole m whole Style.palette styles false nofun).imp_right ?_
  rintro ⟨short, header, rows, headed, _, rendered⟩
  rw [header_bare rfl (not_overlong_iff.mp short).1] at headed
  cases headed
  exact ⟨short, rows, rendered⟩

end Message

namespace Log

/-! ## The header of a message -/

/-- The first line of a text. -/
def firstLine (text : Text) : Text := text.takeWhile (· != '\n')

theorem firstLine_joinLines {line : Text} {rest : List Text} (noFeed : '\n' ∉ line) :
    firstLine (Text.joinLines (line :: rest)) = line := by
  cases rest with
  | nil =>
    have alone : (line ++ []).takeWhile (· != '\n') = line := takeWhile_message noFeed nofun
    rwa [List.append_nil] at alone
  | cons next rest => exact takeWhile_message noFeed (by simp)

section Printed
variable {m : Message} {level : Level}

/-- The parts of the header that a message is printed with. -/
def printed (m : Message) (level : Level) : Header :=
  ⟨m.file, Number.numeral m.line, Number.numeral m.column, level, m.text⟩

theorem text_printed (same : m.level = level.severity) : (printed m level).text = m.headerText := by
  have name : m.level.name = level.name := by rw [same]; cases level <;> rfl
  simp [printed, Header.text, Message.headerText, Message.place, name]

theorem starts_printed (valid : m.Valid) (file : Run isFileChar m.file)
    (same : m.level = level.severity) : Starts m.headerText (printed m level) where
  file := file
  line := ⟨Number.numeral_ne_nil _, Number.isPlainDigit_of_mem_numeral _⟩
  column := ⟨Number.numeral_ne_nil _, Number.isPlainDigit_of_mem_numeral _⟩
  message := Text.feed_not_mem_of_plain valid.location_valid.1
  written := ⟨[], by rw [text_printed same, List.append_nil], nofun⟩

theorem admissible_printed (valid : m.Valid) (placeable : m.isPlaceable = true) :
    (printed m level).Admissible where
  line_short := Number.length_numeral_le (by decide)
    (of_decide_eq_true (Bool.and_eq_true_iff.mp placeable).1)
  column_short := Number.length_numeral_le (by decide)
    (of_decide_eq_true (Bool.and_eq_true_iff.mp placeable).2)
  line_counts := by
    rw [printed, Number.ofDigitText_numeral]
    exact Message.one_le_line valid
  column_counts := by
    rw [printed, Number.ofDigitText_numeral]
    exact Message.one_le_column valid
  message_single := (Text.plain_iff.mp valid.location_valid.1).2

theorem plainMessage_printed (same : m.level = level.severity) :
    (printed m level).plainMessage = .plain m.file m.text m.level m.line m.column := by
  simp [printed, Header.plainMessage, Number.ofDigitText_numeral, same]

theorem bare_headerText (valid : m.Valid) : bare m.headerText = m.headerText := by
  refine Text.trimEnd_eq_self fun c last => ?_
  simpa using List.any_eq_false.mp (Message.plain_headerText valid) c (List.mem_of_getLast? last)

end Printed

/-! ## Reading it back -/

theorem described_singleton {line : Text} {start : Nat} {h : Header}
    (found : header? (bare line) = some (start, h)) : described [line] = [h.plainMessage] := by
  simp only [described, record?, found]
  rfl

/-- The first line of a printed message is read as one header, at its very start, and the message of
that header is the printed one without its context and its hints. Nothing is printed if its line, its
column or the last line of its context has too long a number. -/
theorem answers_firstLine {m : Message} (valid : m.Valid)
    (level : m.level ∈ [Severity.error, .warning, .note]) (file : Run isFileChar m.file)
    (told : m.text ≠ []) (styles : Styles) {calls : Nat} (enough : 1 < calls) :
    (m.Overlong ∧ m.render styles false = .error .unwritable) ∨
    (¬ m.Overlong ∧ ∃ text h, m.render styles false = .ok text ∧
      header? (bare (firstLine text)) = some (0, h) ∧
      (Scanner.answers calls (.ofLines [firstLine text])).map Prod.fst =
        [.message (.plain m.file m.text m.level m.line m.column), .finished]) := by
  obtain ⟨level, same⟩ : ∃ l : Level, m.level = l.severity := by
    simp only [List.mem_cons, List.not_mem_nil, or_false] at level
    rcases level with error | warning | note
    · exact ⟨.error, error⟩
    · exact ⟨.warning, warning⟩
    · exact ⟨.note, note⟩
  refine (Message.exists_rows_render valid file.1 told styles).imp_right ?_
  rintro ⟨short, rows, rendered⟩
  have first : firstLine (Text.joinLines (m.headerText :: rows)) = m.headerText :=
    firstLine_joinLines (Text.feed_not_mem_of_plain (Message.plain_headerText valid))
  have found : header? (bare m.headerText) = some (0, printed m level) := by
    rw [bare_headerText valid]
    exact header?_eq_some_iff.mpr ⟨starts_printed valid file same, nofun⟩
  have admissible : Admissible [m.headerText] :=
    admissible_cons.mpr ⟨by simp [found, admissible_printed valid (Message.not_overlong_iff.mp short).1], nofun⟩
  refine ⟨short, _, printed m level, rendered, by rwa [first], ?_⟩
  rw [first, answers_described admissible enough, described_singleton found,
    plainMessage_printed same]
  rfl

/-- A message whose text looks like a header and ends in blanks. -/
def lookalike : Message where
  file := "a/b.c".toList
  level := .error
  location := ⟨"c.h:1:2: note: x  ".toList, some 7, none⟩
  context := some ⟨6, ["y".toList, "d.c:3:4: error: z".toList]⟩
  hints := [.mark ⟨2, 3⟩]

theorem answers_lookalike :
    lookalike.Valid ∧ lookalike.level ∈ [Severity.error, .warning, .note] ∧
      Run isFileChar lookalike.file ∧ lookalike.text ≠ [] ∧
      ∃ text h, lookalike.render .standard false = .ok text ∧
        header? (bare (firstLine text)) = some (0, h) ∧
        (Scanner.answers 2 (.ofLines [firstLine text])).map Prod.fst =
          [.message ⟨"a/b.c".toList, .error, ⟨"c.h:1:2: note: x  ".toList, some 7, some 1⟩, none, []⟩,
            .finished] := by
  have valid : lookalike.Valid := by decide
  have level : lookalike.level ∈ [Severity.error, .warning, .note] := by decide
  have file : Run isFileChar lookalike.file := by decide +kernel
  refine ⟨valid, level, file, by decide, ?_⟩
  rcases answers_firstLine valid level file (by decide) .standard (show 1 < 2 by decide) with
    ⟨long, _⟩ | ⟨_, read⟩
  · exact absurd long (by decide +kernel)
  · exact read

/-- A message on the line with the last number that can be written, with one line below it. -/
def atLimit : Message := Message.atFirstOfTwo (Nat.pow 10 Number.digitLimit - 1)

/-- There is nothing to read then, since the number of the line below is too long. -/
theorem render_atLimit :
    atLimit.Valid ∧ atLimit.level ∈ [Severity.error, .warning, .note] ∧
      Run isFileChar atLimit.file ∧ atLimit.text ≠ [] ∧ Number.isWritable atLimit.line = true ∧
      Number.isWritable atLimit.column = true ∧
      atLimit.render .standard false = .error .unwritable := by
  have valid : atLimit.Valid := Message.valid_atFirstOfTwo (by decide +kernel)
  have named : Run isFileChar "a.c".toList := by decide +kernel
  refine ⟨valid, List.mem_of_getLast? rfl, named, List.cons_ne_nil _ _, by decide +kernel,
    by decide +kernel, ?_⟩
  rcases Message.exists_rows_render valid (List.cons_ne_nil _ _) (List.cons_ne_nil _ _) .standard with
    ⟨_, unwritable⟩ | ⟨short, _⟩
  · exact unwritable
  · exact absurd (by decide +kernel : atLimit.Overlong) short

end Log
end Diagnostics
