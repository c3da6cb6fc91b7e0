import Diagnostics.Proofs.Number.Numeral
import Diagnostics.Proofs.Render.Success
import Diagnostics.Proofs.Text.Lines
import Diagnostics.Proofs.Text.Run
import Mathlib.Data.List.GetD

/-!
The layout of a message without colours, written out. A painter without colours gives every text
back as it is, so the rows are the numbered lines of the context with the rows of the hints behind
the line of the message.
-/
namespace Diagnostics

namespace Painter
variable {bare : Painter} (plain : bare.color = false)
include plain

theorem paint_bare (text : Text) (role : Role) : bare.paint text role = .ok text := by
  rw [paint, plain]
  rfl

theorem paintCell_bare (text : Text) (role : Option Role) : bare.paintCell text role = .ok text := by
  cases role with
  | none => rfl
  | some role => exact paint_bare plain text role

theorem runsAfter_bare (collected : Text) (current : Option Role) (cells : List (Char × Option Role)) :
    bare.runsAfter collected current cells = .ok (collected.reverse ++ cells.map Prod.fst) := by
  induction cells generalizing collected current with
  | nil =>
    rw [runsAfter, paintCell_bare plain]
    by_cases empty : collected = []
    · rw [if_pos empty, empty]
      rfl
    · rw [if_neg empty, List.map_nil, List.append_nil]
  | cons cell cells ih =>
    obtain ⟨c, role⟩ := cell
    rw [runsAfter, paintCell_bare plain, ih, ih]
    split
    · simp [Except.bind, Except.map]
    · simp

theorem runs_bare (cells : List (Char × Option Role)) :
    bare.runs cells = .ok (cells.map Prod.fst) := by
  rw [runs, runsAfter_bare plain, List.reverse_nil, List.nil_append]

end Painter

namespace Message
variable {m : Message} {bare : Painter} {width number : Nat}

/-! ## Rows -/

def headerText (m : Message) : Text := m.place ++ (m.level.name ++ ": ".toList) ++ m.text

def numberedRow (width number : Nat) (line : Text) : Text :=
  Text.padLeft width (Number.numeral number) ++ separator ++ line

/-- Some lines behind their numbers, which ascend from the first one. -/
def numberedRows (width first : Nat) (lines : List Text) : List Text :=
  lines.mapIdx fun i line => numberedRow width (first + i) line

theorem numberedRows_cons (line : Text) (rest : List Text) :
    numberedRows width number (line :: rest) =
      numberedRow width number line :: numberedRows width (number + 1) rest := by
  simp [numberedRows, List.mapIdx_cons, Nat.add_assoc, Nat.add_comm 1]

def markerRow (m : Message) (width : Nat) : Text := gutterRow width (m.markers.map Prod.fst)

def suggestionRows (m : Message) (width : Nat) : List Text :=
  if m.suggestions = [] then [] else [gutterRow width m.suggestions]

/-- The rows of the context: behind the one of the message stand those of the hints. -/
def windowRows (m : Message) (width : Nat) (c : Context) : List Text :=
  let rows := numberedRows width c.start c.lines
  let seen := m.line - c.start + 1
  rows.take seen ++ m.markerRow width :: m.suggestionRows width ++ rows.drop seen

section Plain
variable (plain : bare.color = false)
include plain

theorem header_bare (placed : m.isPlaceable = true) : m.header bare = .ok m.headerText := by
  simp only [header, writtenPlace, if_pos placed, bind, Except.bind, Painter.paint_bare plain]
  rfl

theorem hintRows_bare : m.hintRows bare width = .ok (m.markerRow width :: m.suggestionRows width) := by
  rw [hintRows, Painter.runs_bare plain, suggestionRows]
  by_cases none : m.suggestions = []
  · simp only [bind, Except.bind, if_pos none]
    rfl
  · simp only [bind, Except.bind, if_neg none, Painter.paint_bare plain]
    rfl

theorem lineRows_bare_of_behind {lines : List Text} (behind : m.line < number) :
    m.lineRows bare width number lines = .ok (numberedRows width number lines) := by
  induction lines generalizing number with
  | nil => rfl
  | cons line rest ih =>
    rw [lineRows, if_neg (Nat.ne_of_gt behind), Painter.paint_bare plain, ih (Nat.lt_succ_of_lt behind),
      numberedRows_cons]
    rfl

theorem lineRows_bare {lines : List Text} (first : number ≤ m.line)
    (last : m.line < number + lines.length) :
    m.lineRows bare width number lines = .ok (m.windowRows width ⟨number, lines⟩) := by
  induction lines generalizing number with
  | nil => exact absurd last (Nat.not_lt.mpr first)
  | cons line rest ih =>
    rw [lineRows, windowRows, numberedRows_cons]
    by_cases focused : number = m.line
    · rw [if_pos focused, Painter.paint_bare plain, hintRows_bare plain,
        lineRows_bare_of_behind plain (focused ▸ Nat.lt_succ_self _), focused, Nat.sub_self]
      rfl
    · have later : number + 1 ≤ m.line := Nat.lt_of_le_of_ne first focused
      have step : m.line - number = m.line - (number + 1) + 1 := by omega
      rw [if_neg focused, Painter.paint_bare plain,
        ih later (by rw [List.length_cons] at last; omega), step]
      rfl

end Plain

/-- A message that lacks nothing is the header, an empty row and the rows of its context, unless the
header or the last number in the gutter cannot be written. -/
theorem render_plain (valid : m.Valid) {c : Context} (around : m.context = some c) (named : m.file ≠ [])
    (told : m.text ≠ []) (styles : Styles) :
    m.render styles false =
      if m.isPlaceable && Number.isWritable c.last then
        .ok (Text.joinLines
          (m.headerText :: [] :: m.windowRows (Number.numeral c.last).length c))
      else .error .unwritable := by
  obtain ⟨_, first, last⟩ := valid.context_around c around
  rw [render, renderWith, unrenderable?_eq_none valid named told]
  dsimp only
  cases placed : m.isPlaceable with
  | false =>
    rw [header, writtenPlace, placed]
    rfl
  | true =>
    rw [header_bare rfl placed, contextRows, around, Bool.true_and]
    dsimp only
    rw [lineRows_bare rfl first last]
    split <;> rfl

/-! ## Characters

The layout itself has no control characters: those in it are from the parts of the message. -/

theorem marker_cases (m : Message) (column : Nat) :
    (m.marker column).1 = '^' ∨ (m.marker column).1 = '~' ∨ (m.marker column).1 = ' ' := by
  unfold marker
  split <;> split <;> simp

theorem suggestionAt_cases (hints : List Hint) (column : Nat) :
    suggestionAt hints column = ' ' ∨ ∃ h ∈ hints, suggestionAt hints column ∈ h.newText := by
  induction hints with
  | nil => exact .inl rfl
  | cons h rest ih =>
    rw [suggestionAt]
    split
    · rename_i inside
      have here : column - h.index < h.newText.length := by omega
      rw [List.getD_eq_getElem _ _ here]
      exact .inr ⟨h, List.mem_cons_self, List.getElem_mem here⟩
    · exact ih.imp_right fun ⟨other, member, among⟩ => ⟨other, List.mem_cons_of_mem _ member, among⟩

theorem mem_markers {cell : Char × Option Role} (member : cell ∈ m.markers) :
    ∃ column, cell = m.marker column := by
  have among := (List.dropWhile_suffix _).subset (List.mem_reverse.mp member)
  obtain ⟨column, _, rfl⟩ := List.mem_map.mp (List.mem_reverse.mp among)
  exact ⟨column, rfl⟩

section Control
variable {c : Char} (control : c.toNat < 0x20)
include control

theorem not_mem_of_printed {text : Text} (printed : text.all (0x20 ≤ ·.toNat) = true) : c ∉ text :=
  fun member => absurd (of_decide_eq_true (List.all_eq_true.mp printed c member)) (Nat.not_le.mpr control)

theorem not_mem_blanks : c ∉ List.replicate width ' ' := by
  intro member
  rw [List.eq_of_mem_replicate member] at control
  exact absurd control (by decide)

theorem not_mem_separator : c ∉ separator := not_mem_of_printed control (by decide)

theorem not_mem_gutter : c ∉ List.replicate width ' ' ++ separator := by
  rw [List.mem_append, not_or]
  exact ⟨not_mem_blanks control, not_mem_separator control⟩

theorem not_mem_numeral : c ∉ Number.numeral number := by
  intro member
  have digit := Number.isPlainDigit_of_mem_numeral number c member
  rw [Text.isPlainDigit, Bool.and_eq_true, decide_eq_true_iff] at digit
  have low : 0x30 ≤ c.toNat := digit.1
  omega

theorem not_mem_place (file : c ∉ m.file) : c ∉ m.place := by
  have colon : c ≠ ':' := by
    rintro rfl
    exact absurd control (by decide)
  have last : c ∉ ": ".toList := not_mem_of_printed control (by decide)
  simp only [place, List.mem_append, List.mem_cons, not_or]
  exact ⟨⟨⟨file, colon, not_mem_numeral control⟩, colon, not_mem_numeral control⟩, last⟩

theorem not_mem_headerText (file : c ∉ m.file) (text : c ∉ m.text) : c ∉ m.headerText := by
  have level : c ∉ m.level.name ++ ": ".toList := by
    refine not_mem_of_printed control ?_
    cases m.level <;> decide
  rw [headerText, List.mem_append, List.mem_append, not_or, not_or]
  exact ⟨⟨not_mem_place control file, level⟩, text⟩

theorem not_mem_numberedRow {line : Text} (free : c ∉ line) : c ∉ numberedRow width number line := by
  simp only [numberedRow, Text.padLeft, List.mem_append, not_or]
  exact ⟨⟨⟨not_mem_blanks control, not_mem_numeral control⟩, not_mem_separator control⟩, free⟩

theorem not_mem_gutterRow {content : Text} (free : c ∉ content) : c ∉ gutterRow width content := by
  unfold gutterRow
  dsimp only
  split
  · exact fun member => not_mem_gutter control (Text.mem_of_mem_trimEnd member)
  · rw [List.mem_append, not_or]
    exact ⟨not_mem_gutter control, free⟩

theorem not_mem_markers : c ∉ m.markers.map Prod.fst := by
  intro member
  obtain ⟨cell, among, rfl⟩ := List.mem_map.mp member
  obtain ⟨column, rfl⟩ := mem_markers among
  rcases m.marker_cases column with shown | shown | shown <;> rw [shown] at control <;>
    exact absurd control (by decide)

theorem not_mem_suggestions (free : ∀ h ∈ m.hints, c ∉ h.newText) : c ∉ m.suggestions := by
  intro member
  obtain ⟨column, _, rfl⟩ := List.mem_map.mp (Text.mem_of_mem_trimEnd member)
  obtain blank | ⟨h, given, among⟩ := suggestionAt_cases m.hints column
  · rw [blank] at control
    exact absurd control (by decide)
  · exact free h given among

theorem not_mem_windowRows {context : Context} (lines : ∀ line ∈ context.lines, c ∉ line)
    (texts : ∀ h ∈ m.hints, c ∉ h.newText) : ∀ row ∈ m.windowRows width context, c ∉ row := by
  have numbered : ∀ row ∈ numberedRows width context.start context.lines, c ∉ row := by
    intro row member
    obtain ⟨i, inside, rfl⟩ := List.mem_mapIdx.mp member
    exact not_mem_numberedRow control (lines _ (List.getElem_mem inside))
  have suggested : ∀ row ∈ m.suggestionRows width, c ∉ row := by
    unfold suggestionRows
    split
    · exact List.forall_mem_nil _
    · exact List.forall_mem_singleton.mpr (not_mem_gutterRow control (not_mem_suggestions control texts))
  simp only [windowRows, List.mem_append, List.mem_cons]
  rintro row ((above | rfl | under) | below)
  · exact numbered row (List.mem_of_mem_take above)
  · exact not_mem_gutterRow control (not_mem_markers control)
  · exact suggested row under
  · exact numbered row (List.mem_of_mem_drop below)

end Control

/-- The header is one line, as no part of a valid message has a break. -/
theorem plain_headerText (valid : m.Valid) : Text.Plain m.headerText := by
  have text := Text.plain_iff.mp valid.location_valid.1
  refine Text.plain_iff.mpr ⟨not_mem_headerText (by decide) ?_ text.1,
    not_mem_headerText (by decide) ?_ text.2⟩
  · exact Text.not_mem_of_any_eq_false valid.file_solid (by decide)
  · exact Text.not_mem_of_any_eq_false valid.file_solid (by decide)

end Message
end Diagnostics
