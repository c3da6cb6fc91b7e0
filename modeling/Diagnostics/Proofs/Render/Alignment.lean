import Diagnostics.Proofs.Hint.Order
import Diagnostics.Proofs.Message.Acceptance
import Diagnostics.Proofs.Render.Plain
import Diagnostics.Proofs.Text.Lines
import Diagnostics.Proofs.Text.Pieces
import Mathlib.Data.List.DropRight
import Mathlib.Data.Nat.Digits.Lemmas

/-!
What stands under what. The lines of a context are set behind a gutter as wide as the number of the
last one, and the marker under a column of the line of the message tells whether that column is the
one of the message and whether a hint covers it.
-/
namespace Diagnostics

/-- An item of a list without its tail of some class: only items of the class are lost. -/
theorem getElem?_rdropWhile {α : Type} (p : α → Bool) (l : List α) (i : Nat) :
    (l.rdropWhile p)[i]? = l[i]? ∨
      (l.rdropWhile p)[i]? = none ∧ ∀ k, i ≤ k → ∀ a ∈ l[k]?, p a = true := by
  have whole := List.rdropWhile_append_rtakeWhile (p := p) (l := l)
  by_cases inside : i < (l.rdropWhile p).length
  · exact .inl (by rw [← List.getElem?_append_left inside, whole])
  · have past := Nat.not_lt.mp inside
    refine .inr ⟨List.getElem?_eq_none past, fun k further a found => ?_⟩
    rw [← whole, List.getElem?_append_right (Nat.le_trans past further)] at found
    exact List.mem_rtakeWhile_imp (List.mem_of_getElem? found)

namespace Message
variable {m : Message} {column : Nat}

/-! ## Columns with markers -/

theorem le_foldl_max (f : Hint → Nat) (hints : List Hint) (start : Nat) :
    start ≤ hints.foldl (fun width h => max width (f h)) start ∧
      ∀ h ∈ hints, f h ≤ hints.foldl (fun width h => max width (f h)) start := by
  induction hints generalizing start with
  | nil => simp
  | cons h rest ih =>
    obtain ⟨least, others⟩ := ih (max start (f h))
    rw [Nat.max_le] at least
    exact ⟨least.1, List.forall_mem_cons.mpr ⟨least.2, others⟩⟩

theorem column_le_hintWidth : m.column ≤ m.hintWidth :=
  Nat.le_trans (Nat.le_max_left _ _) (le_foldl_max _ m.hints _).1

theorem hint_le_hintWidth {h : Hint} (member : h ∈ m.hints) :
    h.span.stop ≤ m.hintWidth ∧ h.index + h.newText.length ≤ m.hintWidth :=
  Nat.max_le.mp
    ((le_foldl_max (fun h => max h.span.stop (h.index + h.newText.length)) m.hints _).2 h member)

/-- A row under the line without its tail of some class: what it has lost is of the class. -/
theorem getElem?_trimmedRow {α : Type} (f : Nat → α) (p : α → Bool)
    (past : ∀ k, m.hintWidth < k → p (f k) = true) (positive : 1 ≤ column) :
    ((m.hintColumns.map f).rdropWhile p)[column - 1]? = some (f column) ∨
      ((m.hintColumns.map f).rdropWhile p)[column - 1]? = none ∧ ∀ k, column ≤ k → p (f k) = true := by
  have cell (k : Nat) (positive : 1 ≤ k) : (m.hintColumns.map f)[k - 1]? =
      if k ≤ m.hintWidth then some (f k) else none := by
    by_cases within : k ≤ m.hintWidth
    · simp [hintColumns, within, Nat.sub_add_cancel positive, show k - 1 < m.hintWidth by omega]
    · simp [hintColumns, within, show m.hintWidth ≤ k - 1 by omega]
  have behind (lost : ∀ k, column - 1 ≤ k → ∀ a ∈ (m.hintColumns.map f)[k]?, p a = true) (k : Nat)
      (further : column ≤ k) : p (f k) = true := by
    by_cases within : k ≤ m.hintWidth
    · exact lost (k - 1) (by omega) _ (by simp [cell k (by omega), within])
    · exact past k (by omega)
  rcases getElem?_rdropWhile p (m.hintColumns.map f) (column - 1) with kept | ⟨lost, blank⟩
  · rw [kept, cell column positive]
    by_cases within : column ≤ m.hintWidth
    · exact .inl (if_pos within)
    · exact .inr ⟨if_neg within, fun k further => past k (by omega)⟩
  · exact .inr ⟨lost, behind blank⟩

def Covered (m : Message) (column : Nat) : Prop := ∃ h ∈ m.hints, h.span.covers column = true

def Underlined (m : Message) (column : Nat) : Prop :=
  ∃ h ∈ m.hints, h.span.covers column = true ∧ h.kind = .mark

theorem Underlined.covered (underlined : m.Underlined column) : m.Covered column :=
  underlined.imp fun _ ⟨member, covers, _⟩ => ⟨member, covers⟩

theorem covering?_eq_none : covering? m.hints column = none ↔ ¬ m.Covered column := by
  simp [covering?, Covered]

theorem covered_of_covering? {h : Hint} (found : covering? m.hints column = some h) :
    h.span.covers column = true ∧ m.Covered column := by
  have covers : h.span.covers column = true := by simpa using List.find?_some found
  exact ⟨covers, h, List.mem_of_find?_eq_some found, covers⟩

/-- No other hint than the one that is found covers the column. -/
theorem underlined_iff (spaced : Spaced m.hints) {h : Hint}
    (found : covering? m.hints column = some h) : m.Underlined column ↔ h.kind = .mark := by
  have apart := (Hint.spaced_iff_apart (Hint.ascending_of_spaced spaced)).mp spaced
  have member := List.mem_of_find?_eq_some found
  obtain ⟨covers, _⟩ := covered_of_covering? found
  refine ⟨?_, fun mark => ⟨h, member, covers, mark⟩⟩
  rintro ⟨other, among, also, mark⟩
  rwa [Hint.eq_of_covers apart member among covers also]

/-- Under the columns past the width of the hints stands nothing. -/
theorem marker_of_past (past : m.hintWidth < column) : m.marker column = (' ', none) := by
  have free : covering? m.hints column = none := by
    rw [covering?_eq_none]
    rintro ⟨h, member, covers⟩
    have within := (hint_le_hintWidth member).1
    rw [Span.covers, decide_eq_true_iff] at covers
    omega
  have apart : column ≠ m.column := Nat.ne_of_gt (Nat.lt_of_le_of_lt column_le_hintWidth past)
  rw [marker, free]
  exact if_neg apart

theorem getElem?_markers (positive : 1 ≤ column) :
    (m.markers.map Prod.fst)[column - 1]? = some (m.marker column).1 ∨
      (m.markers.map Prod.fst)[column - 1]? = none ∧ (m.marker column).1 = ' ' := by
  have trimmed : m.markers = (m.hintColumns.map m.marker).rdropWhile fun cell => cell.1 == ' ' := rfl
  have past : ∀ k, m.hintWidth < k → ((m.marker k).1 == ' ') = true := fun k further => by
    simp [marker_of_past further]
  rw [List.getElem?_map, trimmed]
  rcases getElem?_trimmedRow m.marker (fun cell => cell.1 == ' ') past positive with
    kept | ⟨lost, blank⟩
  · exact .inl (congrArg (Option.map Prod.fst) kept)
  · exact .inr ⟨congrArg (Option.map Prod.fst) lost, beq_iff_eq.mp (blank column (Nat.le_refl _))⟩

theorem getElem?_markers_iff {char : Char} (solid : char ≠ ' ') (positive : 1 ≤ column) :
    (m.markers.map Prod.fst)[column - 1]? = some char ↔ (m.marker column).1 = char := by
  rcases getElem?_markers (m := m) positive with kept | ⟨lost, blank⟩
  · rw [kept, Option.some_inj]
  · simp [lost, blank, solid.symm]

theorem marker_eq_caret (spaced : Spaced m.hints) :
    (m.marker column).1 = '^' ↔ column = m.column ∧ ¬ m.Underlined column := by
  rw [marker]
  cases found : covering? m.hints column with
  | none =>
    have free := mt Underlined.covered (covering?_eq_none.mp found)
    by_cases here : column = m.column
    · simp [← here, free]
    · simp [here]
  | some h =>
    rw [underlined_iff spaced found]
    by_cases shown : column = m.column ∧ h.kind ≠ .mark <;> simp [shown]

theorem marker_eq_tilde :
    (m.marker column).1 = '~' ↔ m.Covered column ∧ (m.marker column).1 ≠ '^' := by
  rw [marker]
  cases found : covering? m.hints column with
  | none =>
    have free := covering?_eq_none.mp found
    by_cases here : column = m.column <;> simp [here, free]
  | some h =>
    obtain ⟨_, covered⟩ := covered_of_covering? found
    by_cases shown : column = m.column ∧ h.kind ≠ .mark <;> simp [shown, covered]

/-! ## Rows -/

/-- A line behind its number, which stands on the right of a field. -/
def Numbered (width number : Nat) (line row : Text) : Prop :=
  ∃ blanks, row = List.replicate blanks ' ' ++ Number.numeral number ++ separator ++ line ∧
    blanks + (Number.numeral number).length = width

/-- The character of a row behind a gutter under a column. -/
def under? (width : Nat) (row : Text) (column : Nat) : Option Char := row[width + 3 + (column - 1)]?

theorem under?_gutter (width : Nat) (cells : Text) (column : Nat) :
    under? width (List.replicate width ' ' ++ separator ++ cells) column = cells[column - 1]? := by
  have gutter : (List.replicate width ' ' ++ separator).length = width + 3 := by simp [separator]
  rw [under?, List.getElem?_append_right (by omega), gutter, Nat.add_sub_cancel_left]

/-- What a row of markers shows under the columns of the line of the message. -/
structure Points (m : Message) (width : Nat) (row : Text) : Prop where
  gutter : ∃ cells, cells ≠ [] ∧ row = List.replicate width ' ' ++ separator ++ cells
  caret : ∀ column, 1 ≤ column →
    (under? width row column = some '^' ↔ column = m.column ∧ ¬ m.Underlined column)
  tilde : ∀ column, 1 ≤ column →
    (under? width row column = some '~' ↔ m.Covered column ∧ under? width row column ≠ some '^')
  blank : ∀ column, 1 ≤ column → under? width row column ≠ some '^' →
    under? width row column ≠ some '~' →
      under? width row column = some ' ' ∨ under? width row column = none
  shown : under? width row m.column = some '^' ∨ under? width row m.column = some '~'

/-- A text that shows a message in its context: the header, an empty line and the rows of the
context, with the markers and the suggestions right behind the row of the message. -/
structure Aligned (m : Message) (c : Context) (width : Nat) (text : Text) (rows : List Text)
    (marker : Text) (suggestions : List Text) : Prop where
  lines : Text.splitOnChar '\n' text = m.headerText :: [] ::
    (rows.take (m.line - c.start + 1) ++ marker :: suggestions ++ rows.drop (m.line - c.start + 1))
  complete : rows.length = c.lines.length
  numbered : ∀ i line, c.lines[i]? = some line →
    ∃ row, rows[i]? = some row ∧ Numbered width (c.start + i) line row
  points : m.Points width marker
  suggested : suggestions.length ≤ 1

/-- No number in front of the last one is wider. -/
theorem numbered_of_le {number last : Nat} (positive : 1 ≤ number) (upTo : number ≤ last) (line : Text) :
    Numbered (Nat.digits 10 last).length number line
      (numberedRow (Nat.digits 10 last).length number line) := by
  refine ⟨_, rfl, Nat.sub_add_cancel ?_⟩
  rw [Number.length_numeral (by omega)]
  exact Nat.le_length_digits_le 10 number last upTo

theorem points_markerRow (valid : m.Valid) (width : Nat) : m.Points width (m.markerRow width) := by
  have shown : (m.marker m.column).1 = '^' ∨ (m.marker m.column).1 = '~' := by
    by_cases underlined : m.Underlined m.column
    · exact .inr <| marker_eq_tilde.mpr ⟨underlined.covered, fun caret =>
        ((marker_eq_caret valid.hints_spaced).mp caret).2 underlined⟩
    · exact .inl <| (marker_eq_caret valid.hints_spaced).mpr ⟨rfl, underlined⟩
  have here := shown.imp (getElem?_markers_iff (by decide) (one_le_column valid)).mpr
    (getElem?_markers_iff (by decide) (one_le_column valid)).mpr
  have some : m.markers.map Prod.fst ≠ [] := by
    intro none
    simp [none] at here
  have row : m.markerRow width = List.replicate width ' ' ++ separator ++ m.markers.map Prod.fst :=
    if_neg some
  have under (column : Nat) :
      under? width (m.markerRow width) column = (m.markers.map Prod.fst)[column - 1]? := by
    rw [row, under?_gutter]
  refine ⟨⟨_, some, row⟩, fun column positive => ?_, fun column positive => ?_,
    fun column positive => ?_, by rwa [under]⟩
  · rw [under, getElem?_markers_iff (by decide) positive, marker_eq_caret valid.hints_spaced]
  · rw [under, getElem?_markers_iff (by decide) positive, marker_eq_tilde, ne_eq, ne_eq,
      getElem?_markers_iff (by decide) positive]
  · rw [under]
    rcases getElem?_markers (m := m) positive with kept | ⟨lost, _⟩
    · rcases m.marker_cases column with char | char | char <;> rw [char] at kept <;> simp [kept]
    · exact fun _ _ => .inr lost

theorem length_suggestionRows_le (m : Message) (width : Nat) : (m.suggestionRows width).length ≤ 1 := by
  unfold suggestionRows
  split <;> simp

theorem aligned_windowRows (valid : m.Valid) {c : Context} (around : m.context = some c)
    (lines : ∀ line ∈ c.lines, '\n' ∉ line) (texts : ∀ h ∈ m.hints, '\n' ∉ h.newText) {width : Nat}
    (wide : width = (Nat.digits 10 c.last).length) :
    m.Aligned c width (Text.joinLines (m.headerText :: [] :: m.windowRows width c))
      (numberedRows width c.start c.lines) (m.markerRow width) (m.suggestionRows width) where
  lines := by
    have header := Text.feed_not_mem_of_plain (plain_headerText valid)
    have unbroken : ∀ row ∈ m.headerText :: [] :: m.windowRows width c, '\n' ∉ row :=
      List.forall_mem_cons.mpr ⟨header,
        List.forall_mem_cons.mpr ⟨List.not_mem_nil, not_mem_windowRows (by decide) lines texts⟩⟩
    rw [Text.splitOnChar_joinLines_of_not_mem (List.cons_ne_nil _ _) unbroken]
    rfl
  complete := List.length_mapIdx
  numbered i line given := by
    have positive := (valid.context_around c around).1
    have inside := (List.getElem?_eq_some_iff.mp given).1
    refine ⟨numberedRow width (c.start + i) line, by simp [numberedRows, given], ?_⟩
    rw [wide]
    exact numbered_of_le (by omega) (by rw [Context.last]; omega) line
  points := points_markerRow valid width
  suggested := m.length_suggestionRows_le width

/-- The gutter is as wide as the number of the last line, unless a number is too long to be written. -/
theorem render_window {m : Message} (valid : m.Valid) {c : Context} (around : m.context = some c)
    (named : m.file ≠ []) (told : m.text ≠ []) (styles : Styles) :
    (m.Overlong ∧ m.render styles false = .error .unwritable) ∨
    (¬ m.Overlong ∧ m.render styles false = .ok (Text.joinLines
      (m.headerText :: [] :: m.windowRows (Nat.digits 10 c.last).length c))) := by
  obtain ⟨positive, _, last⟩ := valid.context_around c around
  have wide := Number.length_numeral (show c.last ≠ 0 by rw [Context.last]; omega)
  rw [render_plain valid around named told styles, wide, overlong_iff_of_context around]
  cases m.isPlaceable with
  | false => exact .inl ⟨.inl rfl, rfl⟩
  | true =>
    cases Number.isWritable c.last with
    | false => exact .inl ⟨.inr rfl, rfl⟩
    | true => exact .inr ⟨by simp, rfl⟩

/-- A message in its context is laid out in columns, unless its line, its column or the number of its
last line is too long to be written. -/
theorem render_aligned {m : Message} (valid : m.Valid) {c : Context} (around : m.context = some c)
    (named : m.file ≠ []) (told : m.text ≠ []) (lines : ∀ line ∈ c.lines, '\n' ∉ line)
    (texts : ∀ h ∈ m.hints, '\n' ∉ h.newText) (styles : Styles) :
    (m.Overlong ∧ m.render styles false = .error .unwritable) ∨
    (¬ m.Overlong ∧
      ∃ text rows marker suggestions, m.render styles false = .ok text ∧
        m.Aligned c (Nat.digits 10 c.last).length text rows marker suggestions) := by
  refine (render_window valid around named told styles).imp_right fun ⟨short, rendered⟩ => ?_
  exact ⟨short, _, _, _, _, rendered, aligned_windowRows valid around lines texts rfl⟩

/-- A message whose lines have numbers of one and of two digits, with a mark on its column and a
replacement behind it. -/
def widening : Message where
  file := "a.c".toList
  level := .error
  location := ⟨"t".toList, some 9, some 2⟩
  context := some ⟨8, ["x".toList, "abcd".toList, "y".toList]⟩
  hints := [.mark ⟨2, 1⟩, .replace ⟨4, 3⟩ "mn".toList]

theorem render_widening :
    widening.Valid ∧ ∃ text rows marker suggestions,
      widening.render .standard false = .ok text ∧
      widening.Aligned ⟨8, ["x".toList, "abcd".toList, "y".toList]⟩ 2 text rows marker
        suggestions := by
  have valid : widening.Valid := by decide
  have width : (Nat.digits 10 10).length = 2 := by simp
  rcases render_aligned valid rfl (by decide) (by decide) (by decide) (by decide) .standard with
    ⟨long, _⟩ | ⟨_, aligned⟩
  · exact absurd long (by decide +kernel)
  · exact ⟨valid, width ▸ aligned⟩

/-- A message on the first of two lines. -/
def atFirstOfTwo (line : Nat) : Message where
  file := "a.c".toList
  level := .note
  location := ⟨"t".toList, some line, some 1⟩
  context := some ⟨line, ["a".toList, "b".toList]⟩
  hints := []

theorem valid_atFirstOfTwo {line : Nat} (positive : 1 ≤ line) : (atFirstOfTwo line).Valid where
  file_solid := show "a.c".toList.any Text.isBlank = false by decide
  location_valid := location_valid_iff.mpr ⟨by decide, positive, Nat.le_refl 1⟩
  context_around := by
    rintro _ ⟨⟩
    exact ⟨positive, Nat.le_refl line, Nat.lt_add_of_pos_right Nat.two_pos⟩
  hints_in_context := nofun
  hints_valid := List.forall_mem_nil _
  hints_spaced := .nil

/-- The last number that can be written has one behind it that cannot. -/
theorem render_atFirstOfTwo_limit :
    (atFirstOfTwo (Nat.pow 10 Number.digitLimit - 1)).Valid ∧
      (atFirstOfTwo (Nat.pow 10 Number.digitLimit - 1)).render .standard false =
        .error .unwritable := by
  have valid : (atFirstOfTwo (Nat.pow 10 Number.digitLimit - 1)).Valid :=
    valid_atFirstOfTwo (by decide +kernel)
  have long : (atFirstOfTwo (Nat.pow 10 Number.digitLimit - 1)).Overlong := by decide +kernel
  rcases render_window valid rfl (List.cons_ne_nil _ _) (List.cons_ne_nil _ _) .standard with
    ⟨_, unwritable⟩ | ⟨short, _⟩
  · exact ⟨valid, unwritable⟩
  · exact absurd long short

end Message
end Diagnostics
