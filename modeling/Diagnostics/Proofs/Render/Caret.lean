import Diagnostics.Proofs.Message.Fix
import Diagnostics.Proofs.Message.OldForm
import Diagnostics.Proofs.Message.Outcomes
import Diagnostics.Proofs.Render.Alignment

/-!
The rows under the line of a message that has been made of an older one. The column of the message and
the mark behind it are drawn as one caret, and nothing is suggested.
-/
namespace Diagnostics

/-- A list without its tail of some class is the front of it that ends with another item. -/
theorem rdropWhile_append {α : Type} {p : α → Bool} {front back : List α}
    (solid : ∀ a ∈ front.getLast?, p a = false) (blank : ∀ a ∈ back, p a = true) :
    (front ++ back).rdropWhile p = front := by
  rw [List.rdropWhile, List.reverse_append,
    List.dropWhile_append_of_pos fun a member => blank a (List.mem_reverse.mp member),
    ← List.rdropWhile, List.rdropWhile_eq_self_iff]
  intro some
  rw [solid _ (List.getLast?_eq_some_getLast some)]
  exact Bool.false_ne_true

namespace Message
variable {m : Message} {behind : Nat}

/-- A message has no hints but a mark right behind its column, on some columns if any. -/
def Underlines (m : Message) (behind : Nat) : Prop :=
  m.hints = if behind = 0 then [] else [.mark ⟨m.column + 1, behind⟩]

/-! ## Markers -/

theorem marker_of_underlines (underlines : m.Underlines behind) (column : Nat) :
    (m.marker column).1 =
      if column = m.column then '^'
      else if m.column < column ∧ column ≤ m.column + behind then '~' else ' ' := by
  rw [marker, covering?, underlines]
  by_cases bare : behind = 0
  · by_cases here : column = m.column
    · simp [bare, here]
    · simp only [bare, if_true, List.find?_nil, here, if_false]
      rw [if_neg (by omega)]
  · by_cases covered : m.column + 1 ≤ column ∧ column < m.column + 1 + behind
    · have apart : column ≠ m.column := by omega
      have within : m.column < column ∧ column ≤ m.column + behind := by omega
      simp [bare, Hint.span, Span.covers, Span.stop, Hint.kind, covered, apart, within]
    · have past : ¬ (m.column < column ∧ column ≤ m.column + behind) := by omega
      simp only [bare, if_false, List.find?_cons, Hint.span, Span.covers, Span.stop, covered,
        decide_false, List.find?_nil, past]
      split <;> rfl

theorem hintWidth_of_underlines (underlines : m.Underlines behind) :
    m.column + behind ≤ m.hintWidth := by
  by_cases bare : behind = 0
  · rw [bare]
    exact column_le_hintWidth
  · have member : .mark ⟨m.column + 1, behind⟩ ∈ m.hints := by
      rw [underlines, if_neg bare]
      exact List.mem_singleton_self _
    have within := (hint_le_hintWidth member).1
    simp only [Hint.span, Span.stop] at within
    omega

/-- The caret of a message, up to the last column of the mark behind it. -/
theorem map_marker_of_underlines (valid : m.Valid) (underlines : m.Underlines behind) :
    (List.range (m.column + behind)).map (fun i => (m.marker (i + 1)).1) =
      List.replicate (m.column - 1) ' ' ++ '^' :: List.replicate behind '~' := by
  obtain ⟨before, place⟩ := Nat.exists_eq_add_of_le' (one_le_column valid)
  have blanks : (List.range before).map (fun i => (m.marker (i + 1)).1) =
      List.replicate before ' ' := by
    rw [List.map_eq_replicate_iff.mpr, List.length_range]
    intro i inside
    rw [List.mem_range] at inside
    rw [marker_of_underlines underlines, if_neg (by omega), if_neg (by omega)]
  have tildes : ((List.range behind).map (before + 1 + ·)).map (fun i => (m.marker (i + 1)).1) =
      List.replicate behind '~' := by
    rw [List.map_map, List.map_eq_replicate_iff.mpr, List.length_range]
    intro i inside
    rw [List.mem_range] at inside
    rw [Function.comp_apply, marker_of_underlines underlines, if_neg (by omega), if_pos (by omega)]
  have caret : (m.marker (before + 1)).1 = '^' := by
    rw [marker_of_underlines underlines, if_pos place.symm]
  rw [place, List.range_add, List.map_append, tildes, List.range_succ, List.map_append, blanks]
  simp [caret]

theorem markers_of_underlines (valid : m.Valid) (underlines : m.Underlines behind) :
    m.markers.map Prod.fst =
      List.replicate (m.column - 1) ' ' ++ '^' :: List.replicate behind '~' := by
  have positive := one_le_column valid
  obtain ⟨further, wide⟩ := Nat.exists_eq_add_of_le (hintWidth_of_underlines underlines)
  have trimmed : m.markers = (m.hintColumns.map m.marker).rdropWhile fun cell => cell.1 == ' ' := rfl
  rw [trimmed, hintColumns, wide, List.range_add, List.map_append, List.map_append, rdropWhile_append]
  · rw [← map_marker_of_underlines valid underlines]
    simp
  · -- The last cell is the caret itself, or the end of the mark behind it.
    obtain ⟨before, place⟩ := Nat.exists_eq_add_of_le' (Nat.le_add_right_of_le (k := behind) positive)
    rw [place, List.range_succ]
    simp only [List.map_append, List.map_singleton, List.getLast?_concat]
    rintro _ ⟨⟩
    rw [marker_of_underlines underlines]
    split
    · rfl
    · rw [if_pos (by omega)]
      rfl
  · intro cell member
    simp only [List.map_map, List.mem_map, List.mem_range, Function.comp_apply] at member
    obtain ⟨i, _, rfl⟩ := member
    rw [marker_of_underlines underlines, if_neg (by omega), if_neg (by omega)]
    rfl

/-! ## Suggestions -/

theorem suggestions_eq_nil (silent : ∀ h ∈ m.hints, h.newText = []) : m.suggestions = [] := by
  have blank (column : Nat) : suggestionAt m.hints column = ' ' := by
    rcases suggestionAt_cases m.hints column with blank | ⟨h, member, among⟩
    · exact blank
    · rw [silent h member] at among
      cases among
  have trimmed : m.suggestions = (m.hintColumns.map (suggestionAt m.hints)).rdropWhile Text.isBlank :=
    rfl
  rw [trimmed, List.rdropWhile_eq_nil_iff]
  intro c member
  obtain ⟨column, _, rfl⟩ := List.mem_map.mp member
  rw [blank]
  rfl

end Message

/-! ## Messages of the older form -/

namespace OldForm
variable {members : Members} {index length : Int} {m : Message}

/-- A caret behind a gutter: blanks up to its index, its first column, and the others. -/
def caretRow (width : Nat) (index length : Int) : Text :=
  List.replicate width ' ' ++ Message.separator ++
    (List.replicate (index - 1).toNat ' ' ++ '^' :: List.replicate (length - 1).toNat '~')

theorem Converted.underlines (made : Converted members index length m) :
    m.Underlines (length - 1).toNat := by
  rw [Message.Underlines, made.hints]
  by_cases wide : 1 < length
  · rw [if_pos wide, if_neg (by omega)]
  · rw [if_neg wide, if_pos (by omega)]

theorem Converted.markerRow_eq (made : Converted members index length m) (width : Nat) :
    m.markerRow width = caretRow width index length := by
  have before : m.column - 1 = (index - 1).toNat := by
    rw [← made.column]
    omega
  rw [Message.markerRow, Message.markers_of_underlines made.valid made.underlines, before,
    Message.gutterRow, if_neg (by simp), caretRow]

theorem Converted.newText_eq_nil (made : Converted members index length m) {h : Hint}
    (member : h ∈ m.hints) : h.newText = [] := by
  rw [made.hints] at member
  split at member
  · rw [List.mem_singleton.mp member]
    rfl
  · cases member

/-- A mark changes nothing. -/
theorem Converted.applyBackwards_eq (made : Converted members index length m) (line : Text) :
    Hint.applyBackwards m.hints line = line := by
  rw [made.hints]
  split <;> rfl

/-- A message of the older form that has a context is laid out with its caret right under its line,
from the index of the caret on and as long as that is, unless its line, that index or the number of
the last line is too long to be written. Its caret changes nothing in the line. -/
theorem render_converted {context : Members} {version : Value}
    (around : Members.valueOf? members "context".toList = some (.object context))
    (carets : HasCaret members index length) (made : convert (.object members) version = .ok m)
    (named : textMember members "id" ≠ .ok []) (told : textMember members "message" ≠ .ok [])
    (unbroken : ∀ c ∈ m.context, ∀ line ∈ c.lines, '\n' ∉ line) (styles : Styles) :
    ∃ c, m.context = some c ∧
      ((m.Overlong ∧ m.render styles false = .error .unwritable) ∨
        (¬ m.Overlong ∧ ∃ text rows, m.render styles false = .ok text ∧
          m.Aligned c (Nat.digits 10 c.last).length text rows
            (caretRow (Nat.digits 10 c.last).length index length) [])) ∧
      ∃ line, m.focusLine = .ok line ∧ m.applyHints = .ok line := by
  have done := converted around carets made
  obtain ⟨c, given⟩ := Option.ne_none_iff_exists'.mp done.around
  obtain ⟨line, _, focus⟩ := Message.exists_focusLine done.valid given
  refine ⟨c, given, ?_, line, focus, ?_⟩
  · rw [done.file] at named
    rw [done.text] at told
    refine (Message.render_window done.valid given (fun none => named (by rw [none]))
      (fun none => told (by rw [none])) styles).imp_right fun ⟨short, rendered⟩ => ?_
    have aligned := Message.aligned_windowRows done.valid given (unbroken c given)
      (fun h member => by rw [done.newText_eq_nil member]; exact List.not_mem_nil) rfl
    have silent : m.suggestionRows (Nat.digits 10 c.last).length = [] :=
      if_pos (Message.suggestions_eq_nil fun h member => done.newText_eq_nil member)
    rw [done.markerRow_eq, silent] at aligned
    exact ⟨short, _, _, rendered, aligned⟩
  · rw [Message.applyHints_of_focusLine given focus, done.applyBackwards_eq]

/-- A message of the older form on the second of three lines, with a caret of four columns. -/
def older : Members :=
  [("id".toList, .text "a.c".toList), ("message".toList, .text "t".toList),
    ("lineNumber".toList, .integer 8),
    ("caret".toList, .object [("index".toList, .integer 3), ("length".toList, .integer 4)]),
    ("context".toList, .object [("index".toList, .integer 7),
      ("lines".toList, .list [.text "x".toList, .text "  neds".toList, .text "y".toList])])]

theorem render_converted_older : ∃ m text rows, convert (.object older) (.integer 1) = .ok m ∧
    m.render .standard false = .ok text ∧
    m.Aligned ⟨7, ["x".toList, "  neds".toList, "y".toList]⟩ 1 text rows "  |   ^~~~".toList [] ∧
    m.applyHints = .ok "  neds".toList := by
  have carets : HasCaret older 3 4 :=
    ⟨[("index".toList, .integer 3), ("length".toList, .integer 4)], rfl, rfl, .inl rfl⟩
  have width : (Nat.digits 10 9).length = 1 := by simp
  obtain ⟨c, around, drawn, line, focus, unchanged⟩ := @render_converted older 3 4 _ _ (.integer 1)
    rfl carets rfl nofun nofun (by rintro _ ⟨⟩; decide) .standard
  cases around
  cases focus
  rcases drawn with ⟨long, _⟩ | ⟨_, text, rows, rendered, aligned⟩
  · exact absurd long (by decide +kernel)
  · exact ⟨_, text, rows, rfl, rendered, width ▸ aligned, unchanged⟩

/-- A message of the older form on the first of two lines, without a caret. -/
def olderAt (line : Nat) : Members :=
  [("id".toList, .text "a.c".toList), ("message".toList, .text "t".toList),
    ("lineNumber".toList, .integer line),
    ("context".toList, .object [("index".toList, .integer line),
      ("lines".toList, .list [.text "a".toList, .text "b".toList])])]

theorem convert_olderAt {line : Nat} (positive : 1 ≤ line) :
    convert (.object (olderAt line)) (.integer 1) = .ok (Message.atFirstOfTwo line) := by
  have located : (⟨"t".toList, some line, some 1⟩ : Location).Valid :=
    Message.location_valid_iff.mpr ⟨by decide, positive, Nat.le_refl 1⟩
  have valid : (Message.plain "a.c".toList "t".toList .note line 1).Valid :=
    Message.valid_bare (by decide) located
  have carets : caret (olderAt line) = .ok (1, 1) := caret_eq ⟨[], rfl, rfl, .inr ⟨rfl, rfl⟩⟩
  have created : Message.create "a.c".toList "t".toList .note (some (line : Int)) (some 1) =
      .ok (.plain "a.c".toList "t".toList .note line 1) :=
    Message.create_natCast_eq_ok.mpr ⟨valid, rfl⟩
  have around : (Message.plain "a.c".toList "t".toList .note line 1).withContextValues
      (.integer line) (.list [.text "a".toList, .text "b".toList]) =
        .ok (Message.atFirstOfTwo line) := by
    have read : Context.linesOf (.list [.text "a".toList, .text "b".toList]) =
        .ok ["a".toList, "b".toList] := rfl
    rw [Message.withContextValues_eq read]
    exact Message.withContext_of_around valid (by omega) (Int.le_refl _) (by
      rw [show (Message.plain "a.c".toList "t".toList .note line 1).line = line from rfl]
      simp)
  have steps : convert (.object (olderAt line)) (.integer 1) =
      (caret (olderAt line)).bind fun found =>
        (Message.create "a.c".toList "t".toList .note (some (line : Int)) (some found.1)).bind
          fun message => (message.withContextValues (.integer line)
            (.list [.text "a".toList, .text "b".toList])).bind fun message =>
              if 1 < found.2 then (mark found.1 found.2).bind message.withHint else .ok message := rfl
  simp only [steps, carets, Except.bind, created, around]
  rfl

/-- The rows cannot be printed if the number of the second line is too long. -/
theorem render_converted_limit : ∃ context m c,
    Members.valueOf? (olderAt (Nat.pow 10 Number.digitLimit - 1)) "context".toList =
        some (.object context) ∧
      HasCaret (olderAt (Nat.pow 10 Number.digitLimit - 1)) 1 1 ∧
      convert (.object (olderAt (Nat.pow 10 Number.digitLimit - 1))) (.integer 1) = .ok m ∧
      textMember (olderAt (Nat.pow 10 Number.digitLimit - 1)) "id" ≠ .ok [] ∧
      textMember (olderAt (Nat.pow 10 Number.digitLimit - 1)) "message" ≠ .ok [] ∧
      m.context = some c ∧ (∀ line ∈ c.lines, '\n' ∉ line) ∧
      m.render .standard false = .error .unwritable := by
  have positive : 1 ≤ Nat.pow 10 Number.digitLimit - 1 := by decide +kernel
  have long : (Message.atFirstOfTwo (Nat.pow 10 Number.digitLimit - 1)).Overlong := by
    decide +kernel
  refine ⟨_, _, _, rfl, ⟨[], rfl, rfl, .inr ⟨rfl, rfl⟩⟩, convert_olderAt positive, nofun, nofun, rfl,
    by decide, ?_⟩
  rcases Message.render_window (Message.valid_atFirstOfTwo positive) rfl (List.cons_ne_nil _ _)
      (List.cons_ne_nil _ _) .standard with ⟨_, unwritable⟩ | ⟨short, _⟩
  · exact unwritable
  · exact absurd long short

end OldForm
end Diagnostics
