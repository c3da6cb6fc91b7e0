import Diagnostics.Proofs.Render.Alignment

/-!
The texts of hints under the line of the message. Hints do not touch, but their texts are of any
length, so two texts can reach one column. The row of suggestions has one character there, the one
of the first of the hints, and the texts are all drawn in full only if they agree.
-/
namespace Diagnostics

namespace Hint
variable {h other : Hint} {hints : List Hint} {column : Nat} {c : Char}

/-- The character that a hint suggests under a column. -/
def charAt? (h : Hint) (column : Nat) : Option Char :=
  if h.index ≤ column then h.newText[column - h.index]? else none

theorem charAt?_eq_some_iff :
    h.charAt? column = some c ↔ ∃ j, h.newText[j]? = some c ∧ column = h.index + j := by
  unfold charAt?
  constructor
  · intro shown
    split at shown
    · exact ⟨column - h.index, shown, by omega⟩
    · cases shown
  · rintro ⟨j, shown, rfl⟩
    simpa using shown

/-- The character that the first of some hints suggests under a column. -/
def firstCharAt? (hints : List Hint) (column : Nat) : Option Char :=
  hints.findSome? (·.charAt? column)

theorem exists_of_firstCharAt? (first : firstCharAt? hints column = some c) :
    ∃ h ∈ hints, h.charAt? column = some c :=
  List.exists_of_findSome?_eq_some first

theorem exists_firstCharAt? (member : h ∈ hints) (shown : h.charAt? column = some c) :
    ∃ first, firstCharAt? hints column = some first := by
  apply Option.isSome_iff_exists.mp
  rw [firstCharAt?, List.findSome?_isSome_iff]
  exact ⟨h, member, by rw [shown]; rfl⟩

/-- Nothing but blanks is suggested from a column on. -/
def BlankFrom (hints : List Hint) (column : Nat) : Prop :=
  ∀ further, column ≤ further → ∀ h ∈ hints, ∀ c, h.charAt? further = some c → Text.isBlank c = true

/-- Where two texts reach one column they have the same character, or there are only blanks from
there on. -/
def Agree (hints : List Hint) : Prop :=
  ∀ h ∈ hints, ∀ other ∈ hints, ∀ column a b, h.charAt? column = some a →
    other.charAt? column = some b → a = b ∨ BlankFrom hints column

/-- The texts of two hints reach one column. -/
def SharesColumn (h other : Hint) : Prop :=
  ∃ column a b, h.charAt? column = some a ∧ other.charAt? column = some b

end Hint

namespace Message
variable {m : Message} {width column : Nat} {c : Char}

/-! ## The row of suggestions -/

theorem suggestionAt_eq (hints : List Hint) (column : Nat) :
    suggestionAt hints column = (Hint.firstCharAt? hints column).getD ' ' := by
  induction hints with
  | nil => rfl
  | cons h rest ih =>
    rw [suggestionAt, Hint.firstCharAt?, List.findSome?_cons]
    split
    · rename_i inside
      obtain ⟨_, first, last⟩ := inside
      have here : column - h.index < h.newText.length := by omega
      simp [Hint.charAt?, first, here]
    · rename_i outside
      have absent : h.charAt? column = none := by
        rw [Option.eq_none_iff_forall_ne_some]
        intro c shown
        obtain ⟨j, there, rfl⟩ := Hint.charAt?_eq_some_iff.mp shown
        obtain ⟨inside, _⟩ := List.getElem?_eq_some_iff.mp there
        exact outside ⟨List.ne_nil_of_length_pos (by omega), by omega, by omega⟩
      rw [absent]
      exact ih

theorem isBlank_suggestionAt {hints : List Hint} (blank : Hint.BlankFrom hints column) {further : Nat}
    (behind : column ≤ further) : Text.isBlank (suggestionAt hints further) = true := by
  rw [suggestionAt_eq]
  cases first : Hint.firstCharAt? hints further with
  | none => rfl
  | some c =>
    obtain ⟨h, member, shown⟩ := Hint.exists_of_firstCharAt? first
    exact blank further behind h member c shown

theorem blankFrom_hintWidth : Hint.BlankFrom m.hints (m.hintWidth + 1) := by
  intro further past h member c shown
  obtain ⟨j, there, rfl⟩ := Hint.charAt?_eq_some_iff.mp shown
  obtain ⟨inside, _⟩ := List.getElem?_eq_some_iff.mp there
  have within := (hint_le_hintWidth member).2
  omega

theorem getElem?_suggestions (positive : 1 ≤ column) :
    m.suggestions[column - 1]? = some (suggestionAt m.hints column) ∨
      m.suggestions[column - 1]? = none ∧
        ∀ k, column ≤ k → Text.isBlank (suggestionAt m.hints k) = true :=
  getElem?_trimmedRow (suggestionAt m.hints) Text.isBlank
    (fun _ past => isBlank_suggestionAt blankFrom_hintWidth past) positive

theorem getElem?_suggestions_of_blank (positive : 1 ≤ column)
    (blank : ∀ k, column ≤ k → Text.isBlank (suggestionAt m.hints k) = true) :
    m.suggestions[column - 1]? = none := by
  rw [List.getElem?_eq_none_iff]
  by_contra inside
  have some : 1 ≤ m.suggestions.length := by omega
  have last := List.getLast?_eq_getElem? (l := m.suggestions)
  rcases getElem?_suggestions some with kept | ⟨lost, _⟩
  · have solid := Text.not_inClass_of_getLast?_trimEnd (last.trans kept)
    rw [blank _ (by omega)] at solid
    cases solid
  · rw [List.getElem?_eq_none_iff] at lost
    omega

/-! ## What is drawn -/

/-- Rows show a character under a column, or the character is a blank past their ends. -/
def Draws (width : Nat) (rows : List Text) (column : Nat) (c : Char) : Prop :=
  (∃ row ∈ rows, under? width row column = some c) ∨
    (∀ row ∈ rows, under? width row column = none) ∧ Text.isBlank c = true

/-- Every character of the text of a hint is drawn under its column. -/
def DrawnInFull (width : Nat) (rows : List Text) (h : Hint) : Prop :=
  ∀ j c, h.newText[j]? = some c → Draws width rows (h.index + j) c

theorem draws_suggestionRows :
    Draws width (m.suggestionRows width) column c ↔
      m.suggestions[column - 1]? = some c ∨
        m.suggestions[column - 1]? = none ∧ Text.isBlank c = true := by
  by_cases none : m.suggestions = []
  · simp [Draws, suggestionRows, none]
  · have row : gutterRow width m.suggestions =
        List.replicate width ' ' ++ separator ++ m.suggestions := if_neg none
    simp only [Draws, suggestionRows, if_neg none, List.mem_singleton, exists_eq_left, forall_eq, row,
      under?_gutter]

theorem draws_suggestionAt (positive : 1 ≤ column) :
    Draws width (m.suggestionRows width) column (suggestionAt m.hints column) := by
  rw [draws_suggestionRows]
  rcases getElem?_suggestions (m := m) positive with kept | ⟨lost, blank⟩
  · exact .inl kept
  · exact .inr ⟨lost, blank column (Nat.le_refl column)⟩

theorem drawnInFull_iff {rows : List Text} {h : Hint} :
    DrawnInFull width rows h ↔ ∀ column c, h.charAt? column = some c → Draws width rows column c := by
  constructor
  · intro full column c shown
    obtain ⟨j, there, rfl⟩ := Hint.charAt?_eq_some_iff.mp shown
    exact full j c there
  · intro drawn j c there
    exact drawn _ c (Hint.charAt?_eq_some_iff.mpr ⟨j, there, rfl⟩)

theorem one_le_of_charAt? (valid : m.Valid) {h : Hint} (member : h ∈ m.hints)
    (shown : h.charAt? column = some c) : 1 ≤ column := by
  obtain ⟨j, _, rfl⟩ := Hint.charAt?_eq_some_iff.mp shown
  exact Nat.le_add_right_of_le (valid.hints_valid h member)

theorem drawnInFull_of_alone (valid : m.Valid) {h : Hint} (member : h ∈ m.hints)
    (alone : ∀ other ∈ m.hints, h.SharesColumn other → other = h) :
    DrawnInFull width (m.suggestionRows width) h := by
  rw [drawnInFull_iff]
  intro column c shown
  obtain ⟨b, first⟩ := Hint.exists_firstCharAt? member shown
  obtain ⟨other, among, also⟩ := Hint.exists_of_firstCharAt? first
  obtain rfl := alone other among ⟨column, c, b, shown, also⟩
  have same : suggestionAt m.hints column = c := by
    rw [suggestionAt_eq, first, ← also, shown]
    rfl
  exact same ▸ draws_suggestionAt (one_le_of_charAt? valid member shown)

theorem agree_of_drawnInFull
    (full : ∀ h ∈ m.hints, DrawnInFull width (m.suggestionRows width) h) : Hint.Agree m.hints := by
  simp only [drawnInFull_iff, draws_suggestionRows] at full
  intro h member other among column a b shown also
  rcases full h member column a shown with here | ⟨lost, _⟩
  · rcases full other among column b also with there | ⟨lost, _⟩
    · exact .inl (Option.some.inj (here.symm.trans there))
    · simp [lost] at here
  · -- The row has ended, and what it does not show are blanks.
    refine .inr fun further behind g given x suggested => ?_
    have ended : m.suggestions[further - 1]? = none := by
      rw [List.getElem?_eq_none_iff] at lost ⊢
      omega
    rcases full g given further x suggested with here | ⟨_, blank⟩
    · simp [ended] at here
    · exact blank

theorem drawnInFull_of_agree (valid : m.Valid) (agree : Hint.Agree m.hints) {h : Hint}
    (member : h ∈ m.hints) : DrawnInFull width (m.suggestionRows width) h := by
  rw [drawnInFull_iff]
  intro column a shown
  obtain ⟨b, first⟩ := Hint.exists_firstCharAt? member shown
  obtain ⟨other, among, also⟩ := Hint.exists_of_firstCharAt? first
  have positive := one_le_of_charAt? valid member shown
  rcases agree h member other among column a b shown also with rfl | blank
  · have drawn : Draws width (m.suggestionRows width) column _ := draws_suggestionAt positive
    rwa [suggestionAt_eq, first] at drawn
  · -- Only blanks are left from here on, so the row has ended before the column.
    refine draws_suggestionRows.mpr (.inr ⟨?_, blank column (Nat.le_refl column) h member a shown⟩)
    exact getElem?_suggestions_of_blank positive fun _ => isBlank_suggestionAt blank

/-- What rows of suggestions show of the texts of some hints. -/
structure Suggests (hints : List Hint) (width : Nat) (rows : List Text) : Prop where
  single : rows.length ≤ 1
  gutter : ∀ row ∈ rows, ∃ cells, cells ≠ [] ∧ row = List.replicate width ' ' ++ separator ++ cells
  first : ∀ column, 1 ≤ column → Draws width rows column ((Hint.firstCharAt? hints column).getD ' ')
  alone : ∀ h ∈ hints, (∀ other ∈ hints, h.SharesColumn other → other = h) → DrawnInFull width rows h
  complete : (∀ h ∈ hints, DrawnInFull width rows h) ↔ Hint.Agree hints

theorem suggests_suggestionRows (valid : m.Valid) (width : Nat) :
    Suggests m.hints width (m.suggestionRows width) where
  single := m.length_suggestionRows_le width
  gutter := by
    intro row member
    by_cases none : m.suggestions = []
    · simp [suggestionRows, none] at member
    · simp only [suggestionRows, if_neg none, List.mem_singleton] at member
      exact ⟨m.suggestions, none, member.trans (if_neg none)⟩
  first := fun column positive => suggestionAt_eq m.hints column ▸ draws_suggestionAt positive
  alone := fun _ => drawnInFull_of_alone valid
  complete := ⟨agree_of_drawnInFull, fun agree _ => drawnInFull_of_agree valid agree⟩

/-- The suggestions of a message in its context stand right behind its line and the markers, unless
its line, its column or the number of its last line is too long to be written. They are all drawn in
full exactly if their texts agree. -/
theorem render_suggests {m : Message} (valid : m.Valid) {c : Context} (around : m.context = some c)
    (named : m.file ≠ []) (told : m.text ≠ []) (styles : Styles) :
    (m.Overlong ∧ m.render styles false = .error .unwritable) ∨
    (¬ m.Overlong ∧ ∃ width rows suggestions,
      width = (Nat.digits 10 c.last).length ∧ rows = numberedRows width c.start c.lines ∧
      m.render styles false = .ok (Text.joinLines (m.headerText :: [] ::
        (rows.take (m.line - c.start + 1) ++ m.markerRow width :: suggestions ++
          rows.drop (m.line - c.start + 1)))) ∧
      Suggests m.hints width suggestions) := by
  refine (render_window valid around named told styles).imp_right fun ⟨short, rendered⟩ => ?_
  exact ⟨short, _, _, m.suggestionRows _, rfl, rfl, rendered, suggests_suggestionRows valid _⟩

/-- A message with two insertions. The first text ends with blanks, and the second one starts under
the first of these. -/
def overBlanks : Message where
  file := "a.c".toList
  level := .note
  location := ⟨"t".toList, none, none⟩
  context := some ⟨1, ["xyz".toList]⟩
  hints := [.insert 1 "ab  ".toList, .insert 3 "Z".toList]

theorem not_agree_overBlanks : ¬ Hint.Agree overBlanks.hints := by
  intro agree
  have both := agree (.insert 1 "ab  ".toList) (by decide) (.insert 3 "Z".toList) (by decide) 3 ' ' 'Z'
    (by decide) (by decide)
  rcases both with same | blank
  · exact absurd same (by decide)
  · have shown := blank 3 (Nat.le_refl 3) (.insert 3 "Z".toList) (by decide) 'Z' (by decide)
    exact absurd shown (by decide)

theorem render_overBlanks : overBlanks.Valid ∧
    overBlanks.render .standard false =
      .ok "a.c:1:1: note: t\n\n1 | xyz\n  | ^ ~\n  | ab".toList ∧
    ∃ suggestions, Suggests overBlanks.hints 1 suggestions ∧
      ¬ ∀ h ∈ overBlanks.hints, DrawnInFull 1 suggestions h := by
  have valid : overBlanks.Valid := by decide
  refine ⟨valid, by decide +kernel, ?_⟩
  rcases render_suggests valid rfl (by decide) (by decide) .standard with
    ⟨long, _⟩ | ⟨_, width, _, suggestions, wide, _, _, suggests⟩
  · exact absurd long (by decide +kernel)
  · have narrow : width = 1 := wide.trans (by simp [Context.last])
    subst narrow
    exact ⟨suggestions, suggests, fun full => not_agree_overBlanks (suggests.complete.mp full)⟩

end Message
end Diagnostics
