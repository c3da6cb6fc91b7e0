import Diagnostics.Render

/-!
Which messages can be rendered. With styles that can be read, painting always gives a text, so a
message fails to be rendered only for what it lacks, or for a number that is too long to be written.
-/
namespace Diagnostics

/-! ## Styles -/

def Styles.Readable (styles : Styles) : Prop :=
  ∀ level role style, styles level role = some style → ∃ parsed, Style.parse style = .ok parsed

namespace Styles

def ReadableBy (styles : Styles) (palette : Palette) : Prop :=
  ∀ level role style, styles level role = some style → ∃ apply, palette style = .ok apply

theorem Readable.by_palette {styles : Styles} (readable : styles.Readable) :
    styles.ReadableBy Style.palette := by
  intro level role style found
  obtain ⟨parsed, read⟩ := readable level role style found
  exact ⟨parsed.render, by rw [Style.palette, read]; rfl⟩

def standardTexts : List Text :=
  [Tone.muted, .informational, .caution, .danger].map ofTone ++
    ["bold".toList, "bold bright_black".toList, "bold bright_white".toList, "bold green".toList,
     "red".toList, "green".toList, "yellow".toList]

theorem standard_mem {level : Severity} {role : Role} {style : Text}
    (found : standard level role = some style) : style ∈ standardTexts := by
  -- Only the style of the level depends on the severity, and it does so through the tone.
  cases role with
  | level =>
    cases found
    refine List.mem_append_left _ (List.mem_map_of_mem ?_)
    cases level <;> decide
  | suggestion => cases found
  | _ =>
    cases found
    decide

theorem standard_readable : standard.Readable := by
  have parse : ∀ style ∈ standardTexts, (Style.parse style).toOption.isSome := by decide +kernel
  intro level role style found
  have some := parse style (standard_mem found)
  cases read : Style.parse style with
  | ok parsed => exact ⟨parsed, rfl⟩
  | error e =>
    rw [read] at some
    cases some

theorem override_readable {overrides : List (Role × Text)}
    (readable : ∀ entry ∈ overrides, ∃ parsed, Style.parse entry.2 = .ok parsed) :
    (override overrides).Readable := by
  intro level role style found
  unfold override at found
  split at found
  · cases found
  · rename_i first
    cases found
    exact readable _ (List.mem_of_find?_eq_some first)
  · exact standard_readable level role style found

end Styles

/-! ## Painting -/

namespace Painter
variable {p : Painter} (readable : p.color = true → p.styles.ReadableBy p.palette)
include readable

theorem paint_ok (text : Text) (role : Role) : ∃ painted, p.paint text role = .ok painted := by
  unfold paint
  split
  · exact ⟨text, rfl⟩
  · rename_i painted
    have colored : p.color = true := by
      rw [Bool.or_eq_true, not_or, Bool.not_eq_true', Bool.not_eq_false] at painted
      exact painted.1
    split
    · exact ⟨text, rfl⟩
    · exact ⟨text, rfl⟩
    · rename_i style _ found
      obtain ⟨apply, read⟩ := readable colored _ _ _ found
      exact ⟨apply text, by rw [read]; rfl⟩

theorem paintCell_ok (text : Text) (role : Option Role) :
    ∃ painted, p.paintCell text role = .ok painted := by
  cases role with
  | none => exact ⟨text, rfl⟩
  | some role => exact paint_ok readable text role

theorem runsAfter_ok (collected : Text) (current : Option Role) (cells : List (Char × Option Role)) :
    ∃ painted, p.runsAfter collected current cells = .ok painted := by
  induction cells generalizing collected current with
  | nil =>
    rw [runsAfter]
    split
    · exact ⟨[], rfl⟩
    · exact paintCell_ok readable _ _
  | cons cell rest ih =>
    obtain ⟨c, role⟩ := cell
    rw [runsAfter]
    split
    · obtain ⟨painted, first⟩ := paintCell_ok readable collected.reverse current
      obtain ⟨others, later⟩ := ih [c] role
      exact ⟨painted ++ others, by rw [first, later]; rfl⟩
    · exact ih (c :: collected) role

end Painter

/-! ## Messages -/

namespace Message

/-- A number that the layout shows is too long to be written: the line or the column of the message,
or the number of the last line of its context. -/
def Overlong (m : Message) : Prop :=
  Number.isWritable m.line = false ∨ Number.isWritable m.column = false ∨
    ∃ c ∈ m.context, Number.isWritable c.last = false

instance (m : Message) : Decidable m.Overlong := inferInstanceAs (Decidable (_ ∨ _ ∨ _))

theorem overlong_iff {m : Message} :
    m.Overlong ↔ m.isPlaceable = false ∨ ∃ c ∈ m.context, Number.isWritable c.last = false := by
  rw [Overlong, isPlaceable, Bool.and_eq_false_iff, or_assoc]

theorem not_overlong_iff {m : Message} :
    ¬ m.Overlong ↔ m.isPlaceable = true ∧ ∀ c ∈ m.context, Number.isWritable c.last = true := by
  simp [overlong_iff]

theorem overlong_iff_of_context {m : Message} {c : Context} (around : m.context = some c) :
    m.Overlong ↔ m.isPlaceable = false ∨ Number.isWritable c.last = false := by
  simp [overlong_iff, around]

theorem writtenPlace_eq_ok {m : Message} {place : Text} :
    m.writtenPlace = .ok place ↔ m.isPlaceable = true ∧ m.place = place := by
  rw [writtenPlace]
  cases m.isPlaceable <;> simp

section Rows
variable {p : Painter} (readable : p.color = true → p.styles.ReadableBy p.palette) (m : Message)
include readable

theorem header_cases :
    (m.isPlaceable = true ∧ ∃ header, m.header p = .ok header) ∨
    (m.isPlaceable = false ∧ m.header p = .error .unwritable) := by
  rw [header, writtenPlace]
  cases m.isPlaceable with
  | true =>
    obtain ⟨place, placed⟩ := p.paint_ok readable m.place .location
    obtain ⟨level, levelled⟩ := p.paint_ok readable (m.level.name ++ ": ".toList) .level
    obtain ⟨text, told⟩ := p.paint_ok readable m.text .message
    refine .inl ⟨rfl, place ++ level ++ text, ?_⟩
    simp only [if_pos, bind, Except.bind, placed, levelled, told]
    rfl
  | false => exact .inr ⟨rfl, rfl⟩

theorem hintRows_ok (width : Nat) : ∃ rows, m.hintRows p width = .ok rows := by
  obtain ⟨row, painted⟩ := p.runsAfter_ok readable [] none m.markers
  rw [hintRows, Painter.runs, painted]
  by_cases bare : m.suggestions = []
  · exact ⟨_, if_pos bare⟩
  · obtain ⟨suggested, shown⟩ := p.paint_ok readable m.suggestions .suggestion
    refine ⟨[gutterRow width row, gutterRow width suggested], ?_⟩
    simp only [bind, Except.bind, if_neg bare, shown]
    rfl

theorem lineRows_ok (width number : Nat) (lines : List Text) :
    ∃ rows, m.lineRows p width number lines = .ok rows := by
  induction lines generalizing number with
  | nil => exact ⟨[], rfl⟩
  | cons line rest ih =>
    obtain ⟨below, later⟩ := ih (number + 1)
    obtain ⟨under, hinted⟩ := hintRows_ok readable m width
    rw [lineRows]
    split
    · obtain ⟨row, painted⟩ := p.paint_ok readable _ .focusLine
      exact ⟨row :: under ++ below, by rw [painted, hinted, later]; rfl⟩
    · obtain ⟨row, painted⟩ := p.paint_ok readable _ .contextLine
      exact ⟨row :: below, by rw [painted, later]; rfl⟩

theorem contextRows_cases :
    ((∀ c ∈ m.context, Number.isWritable c.last = true) ∧ ∃ rows, m.contextRows p = .ok rows) ∨
    ((∃ c ∈ m.context, Number.isWritable c.last = false) ∧
      m.contextRows p = .error .unwritable) := by
  rw [contextRows]
  cases m.context with
  | none => exact .inl ⟨nofun, [], rfl⟩
  | some c =>
    dsimp only
    cases writable : Number.isWritable c.last with
    | true =>
      obtain ⟨rows, made⟩ := lineRows_ok readable m (Number.numeral c.last).length c.start c.lines
      refine .inl ⟨?_, [] :: rows, by rw [if_pos rfl, made]; rfl⟩
      rintro _ ⟨⟩
      exact writable
    | false => exact .inr ⟨⟨c, rfl, writable⟩, rfl⟩

end Rows

/-- A message that lacks nothing is rendered, or one of its numbers is too long. -/
theorem renderWith_of_whole {m : Message} (whole : m.unrenderable? = none) {palette : Palette}
    {styles : Styles} {color : Bool} (readable : color = true → styles.ReadableBy palette) :
    (m.Overlong ∧ m.renderWith palette styles color = .error .unwritable) ∨
    (¬ m.Overlong ∧
      ∃ header rows, m.header ⟨m.level, styles, palette, color⟩ = .ok header ∧
        m.contextRows ⟨m.level, styles, palette, color⟩ = .ok rows ∧
        m.renderWith palette styles color = .ok (Text.joinLines (header :: rows))) := by
  rw [renderWith, whole]
  dsimp only
  rcases header_cases (p := ⟨m.level, styles, palette, color⟩) readable m with
    ⟨placed, header, headed⟩ | ⟨long, broken⟩
  · rw [headed]
    rcases contextRows_cases (p := ⟨m.level, styles, palette, color⟩) readable m with
      ⟨short, rows, made⟩ | ⟨long, broken⟩
    · exact .inr ⟨not_overlong_iff.mpr ⟨placed, short⟩, header, rows, rfl, made, by rw [made]; rfl⟩
    · exact .inl ⟨overlong_iff.mpr (.inr long), by rw [broken]; rfl⟩
  · exact .inl ⟨overlong_iff.mpr (.inl long), by rw [broken]; rfl⟩

/-- A message has a file and a text, and a context for its hints. -/
def Whole (m : Message) : Prop := m.file ≠ [] ∧ m.text ≠ [] ∧ (m.context = none → m.hints = [])

instance (m : Message) : Decidable m.Whole := inferInstanceAs (Decidable (_ ∧ _ ∧ _))

theorem unrenderable?_eq_none_iff {m : Message} : m.unrenderable? = none ↔ m.Whole := by
  rw [unrenderable?, Whole]
  split
  next unnamed => simp [unnamed]
  next named =>
    split
    next untold => simp [untold]
    next told =>
      split
      next lone => simp [lone]
      next hinted =>
        exact iff_of_true rfl
          ⟨named, told, fun bare => Decidable.of_not_not fun some => hinted ⟨some, bare⟩⟩

/-- A message is refused for what it lacks, ends the rendering if one of its numbers is too long, and
is rendered otherwise. -/
theorem renderWith_cases (m : Message) {palette : Palette} {styles : Styles} {color : Bool}
    (readable : color = true → styles.ReadableBy palette) :
    (¬ m.Whole ∧ ∃ e, m.renderWith palette styles color = .error (.render e)) ∨
    (m.Whole ∧ m.Overlong ∧ m.renderWith palette styles color = .error .unwritable) ∨
    (m.Whole ∧ ¬ m.Overlong ∧ ∃ text, m.renderWith palette styles color = .ok text) := by
  rw [← unrenderable?_eq_none_iff]
  cases lacks : m.unrenderable? with
  | some e => exact .inl ⟨nofun, e, by rw [renderWith, lacks]⟩
  | none =>
    rcases renderWith_of_whole lacks readable with
      ⟨long, broken⟩ | ⟨short, header, rows, _, _, rendered⟩
    · exact .inr (.inl ⟨rfl, long, broken⟩)
    · exact .inr (.inr ⟨rfl, short, _, rendered⟩)

theorem unrenderable?_eq_none {m : Message} (valid : m.Valid) (named : m.file ≠ [])
    (told : m.text ≠ []) : m.unrenderable? = none :=
  unrenderable?_eq_none_iff.mpr ⟨named, told, valid.hints_in_context⟩

end Message
end Diagnostics
