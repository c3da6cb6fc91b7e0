import Diagnostics.Proofs.Message.Acceptance
import Diagnostics.Proofs.Paint.Stripping
import Diagnostics.Proofs.Render.Plain
import Mathlib.Data.List.Forall2

/-!
Colours change nothing but the looks. If every style puts codes around a text, then the painted
layout of a message and the bare one are the same text without escape sequences, even if the message
itself has such sequences in it; where it has no escape character, they are the bare layout.
-/
namespace Diagnostics
open Sequences (look)

/-! ## Painting -/

def Styles.WrappedBy (styles : Styles) (palette : Palette) : Prop :=
  ∀ level role style, styles level role = some style →
    ∃ apply, palette style = .ok apply ∧ ∀ text, Painted text (apply text)

namespace Styles

theorem WrappedBy.readable {styles : Styles} {palette : Palette}
    (wrapped : styles.WrappedBy palette) : styles.ReadableBy palette := by
  intro level role style found
  obtain ⟨apply, read, _⟩ := wrapped level role style found
  exact ⟨apply, read⟩

theorem Readable.wrapped {styles : Styles} (readable : styles.Readable) :
    styles.WrappedBy Style.palette := by
  intro level role style found
  obtain ⟨parsed, read⟩ := readable level role style found
  exact ⟨parsed.render, by rw [Style.palette, read]; rfl, parsed.painted_render⟩

end Styles

namespace Painter
variable {p bare : Painter}

theorem painted_of_paint (wrapped : p.styles.WrappedBy p.palette) {text painted : Text}
    {role : Role} (done : p.paint text role = .ok painted) : Painted text painted := by
  unfold paint at done
  split at done
  · cases done
    exact .bare
  · split at done
    · cases done
      exact .bare
    · cases done
      exact .bare
    · rename_i style _ found
      obtain ⟨apply, read, wraps⟩ := wrapped _ _ _ found
      rw [read] at done
      cases done
      exact wraps text

theorem painted_of_paintCell (wrapped : p.styles.WrappedBy p.palette) {text painted : Text}
    {role : Option Role} (done : p.paintCell text role = .ok painted) : Painted text painted := by
  cases role with
  | none =>
    cases done
    exact .bare
  | some role => exact painted_of_paint wrapped done

theorem strip_collected (wrapped : p.styles.WrappedBy p.palette) {collected painted : Text}
    {role : Option Role} (nonempty : collected ≠ []) (outside : ∀ c ∈ collected, look.Outside c)
    (done : p.paintCell collected.reverse role = .ok painted) :
    painted ≠ [] ∧ ∀ rest, look.strip (painted ++ rest) = collected.reverse ++ look.strip rest := by
  have shown := painted_of_paintCell wrapped done
  have turnedNonempty : collected.reverse ≠ [] := mt List.reverse_eq_nil_iff.mp nonempty
  have turnedOutside : ∀ c ∈ collected.reverse, look.Outside c :=
    fun c member => outside c (List.mem_reverse.mp member)
  refine ⟨shown.ne_nil turnedNonempty, fun rest => ?_⟩
  rw [shown.strip_append (.inr (Sequences.closes_of_outside turnedNonempty turnedOutside)),
    Sequences.strip_of_free (Sequences.free_of_outside turnedOutside)]

/-- Cells of characters outside of all sequences keep these characters, whatever comes next. -/
theorem strip_runsAfter (wrapped : p.styles.WrappedBy p.palette)
    {cells : List (Char × Option Role)} {collected painted : Text} {current : Option Role}
    (gathered : ∀ c ∈ collected, look.Outside c) (outside : ∀ cell ∈ cells, look.Outside cell.1)
    (done : p.runsAfter collected current cells = .ok painted) :
    (painted = [] → collected = [] ∧ cells = []) ∧
    ∀ rest, look.strip (painted ++ rest) =
      collected.reverse ++ cells.map Prod.fst ++ look.strip rest := by
  induction cells generalizing collected current painted with
  | nil =>
    rw [runsAfter] at done
    split at done
    · rename_i empty
      cases done
      exact ⟨fun _ => ⟨empty, rfl⟩, fun rest => by rw [empty]; rfl⟩
    · rename_i nonempty
      obtain ⟨shown, stripped⟩ := strip_collected wrapped nonempty gathered done
      refine ⟨fun nothing => absurd nothing shown, fun rest => ?_⟩
      rw [stripped, List.map_nil, List.append_nil]
  | cons cell cells ih =>
    obtain ⟨c, role⟩ := cell
    rw [List.forall_mem_cons] at outside
    rw [runsAfter] at done
    split at done
    · -- The cells before this one are a run of their own.
      rename_i change
      obtain ⟨first, begun, done⟩ := bind_eq_ok.mp done
      obtain ⟨later, ended, rfl⟩ := map_eq_ok.mp done
      obtain ⟨shown, stripped⟩ := strip_collected wrapped change.2 gathered begun
      obtain ⟨_, strippedLater⟩ := ih (List.forall_mem_singleton.mpr outside.1) outside.2 ended
      refine ⟨fun nothing => absurd (List.append_eq_nil_iff.mp nothing).1 shown, fun rest => ?_⟩
      rw [List.append_assoc, stripped, strippedLater]
      simp
    · obtain ⟨shown, stripped⟩ :=
        ih (List.forall_mem_cons.mpr ⟨outside.1, gathered⟩) outside.2 done
      refine ⟨fun nothing => absurd (shown nothing).1 (List.cons_ne_nil _ _), fun rest => ?_⟩
      rw [stripped]
      simp

theorem strip_runs (wrapped : p.styles.WrappedBy p.palette) {cells : List (Char × Option Role)}
    {painted : Text} (outside : ∀ cell ∈ cells, look.Outside cell.1)
    (done : p.runs cells = .ok painted) :
    (painted = [] ↔ cells = []) ∧
    ∀ rest, look.strip (painted ++ rest) = cells.map Prod.fst ++ look.strip rest := by
  obtain ⟨nothing, stripped⟩ := strip_runsAfter wrapped (by simp) outside done
  refine ⟨⟨fun none => (nothing none).2, ?_⟩, stripped⟩
  rintro rfl
  cases done
  rfl

end Painter

/-! ## Rows -/

/-- What is painted strips like the bare text, whatever comes next; the bare text has no escape
character if the parts that it is made of are clean. -/
structure Shows (clean : Prop) (painted plain : Text) : Prop where
  alike : ∀ rest, look.Ends rest →
    look.strip (painted ++ rest) = look.strip plain ++ look.strip rest
  free : clean → escapeChar ∉ plain

theorem Painted.shows {clean : Prop} {text painted : Text} (shown : Painted text painted)
    (free : clean → escapeChar ∉ text) : Shows clean painted text :=
  ⟨fun _ ends => shown.strip_append (.inl ends), free⟩

namespace Message
variable {m : Message} {p bare : Painter}

theorem control_escape : escapeChar.toNat < 0x20 := by decide

theorem shows_gutterRow {clean : Prop} {painted plain : Text} (width : Nat)
    (shows : Shows clean painted plain) (empty : painted = [] ↔ plain = []) :
    Shows clean (gutterRow width painted) (gutterRow width plain) := by
  have gutter : escapeChar ∉ List.replicate width ' ' ++ separator := not_mem_gutter control_escape
  unfold gutterRow
  dsimp only
  generalize List.replicate width ' ' ++ separator = bar at gutter
  by_cases none : plain = []
  · rw [if_pos (empty.mpr none), if_pos none]
    have trimmed : escapeChar ∉ Text.trimEnd Text.isBlank bar :=
      fun member => gutter (Text.mem_of_mem_trimEnd member)
    refine ⟨fun rest _ => ?_, fun _ => trimmed⟩
    rw [Sequences.strip_append_of_free trimmed, Sequences.strip_of_free trimmed]
  · rw [if_neg (mt empty.mp none), if_neg none]
    refine ⟨fun rest ends => ?_, fun isClean => ?_⟩
    · rw [List.append_assoc, Sequences.strip_append_of_free gutter, shows.alike rest ends,
        Sequences.strip_append_of_free gutter, List.append_assoc]
    · rw [List.mem_append, not_or]
      exact ⟨gutter, shows.free isClean⟩

theorem outside_markers : ∀ cell ∈ m.markers, look.Outside cell.1 := by
  intro cell member
  obtain ⟨column, rfl⟩ := mem_markers member
  rcases m.marker_cases column with shown | shown | shown <;> rw [shown] <;> decide

section Layout
variable (wrapped : p.styles.WrappedBy p.palette) (plain : bare.color = false) {clean : Prop}
include wrapped plain

theorem hintRows_shows (free : clean → ∀ h ∈ m.hints, escapeChar ∉ h.newText) {width : Nat}
    {rows : List Text} (done : m.hintRows p width = .ok rows) :
    ∃ bareRows, m.hintRows bare width = .ok bareRows ∧
      List.Forall₂ (Shows clean) rows bareRows := by
  rw [hintRows] at done
  obtain ⟨row, ran, done⟩ := bind_eq_ok.mp done
  obtain ⟨empty, stripped⟩ := Painter.strip_runs wrapped outside_markers ran
  have cellsFree : escapeChar ∉ m.markers.map Prod.fst := not_mem_markers control_escape
  have cellsShow : Shows clean row (m.markers.map Prod.fst) :=
    ⟨fun rest _ => by rw [stripped, Sequences.strip_of_free cellsFree], fun _ => cellsFree⟩
  have markersShow := shows_gutterRow width cellsShow (by rw [empty, List.map_eq_nil_iff])
  rw [hintRows, Painter.runs_bare plain]
  split at done
  · rename_i none
    cases done
    exact ⟨_, if_pos none, .cons markersShow .nil⟩
  · rename_i some
    obtain ⟨suggested, painted, done⟩ := bind_eq_ok.mp done
    cases done
    have shown := Painter.painted_of_paint wrapped painted
    refine ⟨[gutterRow width (m.markers.map Prod.fst), gutterRow width m.suggestions], ?_,
      .cons markersShow (.cons ?_ .nil)⟩
    · simp only [bind, Except.bind, if_neg some, Painter.paint_bare plain]
      rfl
    · exact shows_gutterRow width (shown.shows fun isClean => not_mem_suggestions control_escape (free isClean))
        (iff_of_false (shown.ne_nil some) some)

theorem lineRows_shows (free : clean → ∀ h ∈ m.hints, escapeChar ∉ h.newText) {width : Nat}
    {lines rows : List Text} {number : Nat}
    (freeLines : clean → ∀ line ∈ lines, escapeChar ∉ line)
    (done : m.lineRows p width number lines = .ok rows) :
    ∃ bareRows, m.lineRows bare width number lines = .ok bareRows ∧
      List.Forall₂ (Shows clean) rows bareRows := by
  induction lines generalizing number rows with
  | nil =>
    cases done
    exact ⟨[], rfl, .nil⟩
  | cons line rest ih =>
    have freeRow : clean → escapeChar ∉ numberedRow width number line := fun isClean =>
      not_mem_numberedRow control_escape (freeLines isClean line List.mem_cons_self)
    have freeRest : clean → ∀ line ∈ rest, escapeChar ∉ line :=
      fun isClean line member => freeLines isClean line (List.mem_cons_of_mem _ member)
    rw [lineRows] at done
    rw [lineRows]
    split at done
    · rename_i focused
      obtain ⟨row, painted, done⟩ := bind_eq_ok.mp done
      obtain ⟨under, hinted, done⟩ := bind_eq_ok.mp done
      obtain ⟨below, followed, done⟩ := bind_eq_ok.mp done
      cases done
      have shown := (Painter.painted_of_paint wrapped painted).shows freeRow
      obtain ⟨bareUnder, bareHinted, showsUnder⟩ := hintRows_shows wrapped plain free hinted
      obtain ⟨bareBelow, bareFollowed, showsBelow⟩ := ih freeRest followed
      rw [if_pos focused, Painter.paint_bare plain, bareHinted, bareFollowed]
      exact ⟨_, rfl, .cons shown (List.rel_append showsUnder showsBelow)⟩
    · rename_i other
      obtain ⟨row, painted, done⟩ := bind_eq_ok.mp done
      obtain ⟨below, followed, done⟩ := bind_eq_ok.mp done
      cases done
      have shown := (Painter.painted_of_paint wrapped painted).shows freeRow
      obtain ⟨bareBelow, bareFollowed, showsBelow⟩ := ih freeRest followed
      rw [if_neg other, Painter.paint_bare plain, bareFollowed]
      exact ⟨_, rfl, .cons shown showsBelow⟩

theorem header_shows (freeFile : clean → escapeChar ∉ m.file)
    (freeText : clean → escapeChar ∉ m.text) {header : Text} (done : m.header p = .ok header) :
    ∃ bareHeader, m.header bare = .ok bareHeader ∧ Shows clean header bareHeader := by
  rw [Message.header] at done
  obtain ⟨_, found, done⟩ := bind_eq_ok.mp done
  obtain ⟨placeable, rfl⟩ := writtenPlace_eq_ok.mp found
  obtain ⟨place, placed, done⟩ := bind_eq_ok.mp done
  obtain ⟨level, levelled, done⟩ := bind_eq_ok.mp done
  obtain ⟨text, told, done⟩ := bind_eq_ok.mp done
  cases done
  have blank : look.Closes ": ".toList := ⟨[':'], ' ', rfl, by decide⟩
  have placeCloses : look.Closes m.place := Sequences.closes_append blank
  have levelCloses : look.Closes (m.level.name ++ ": ".toList) := Sequences.closes_append blank
  refine ⟨m.headerText, header_bare plain placeable, ?_, ?_⟩
  · intro rest ends
    simp only [headerText, List.append_assoc]
    rw [(Painter.painted_of_paint wrapped placed).strip_append (.inr placeCloses),
      (Painter.painted_of_paint wrapped levelled).strip_append (.inr levelCloses),
      (Painter.painted_of_paint wrapped told).strip_append (.inl ends),
      Sequences.strip_append_of_closes placeCloses, ← List.append_assoc m.level.name,
      Sequences.strip_append_of_closes levelCloses]
    simp only [List.append_assoc]
  · exact fun isClean => not_mem_headerText control_escape (freeFile isClean) (freeText isClean)

theorem contextRows_shows (free : clean → ∀ h ∈ m.hints, escapeChar ∉ h.newText)
    (freeLines : clean → ∀ c ∈ m.context, ∀ line ∈ c.lines, escapeChar ∉ line) {rows : List Text}
    (done : m.contextRows p = .ok rows) :
    ∃ bareRows, m.contextRows bare = .ok bareRows ∧ List.Forall₂ (Shows clean) rows bareRows := by
  rw [contextRows] at done
  rw [contextRows]
  cases around : m.context with
  | none =>
    rw [around] at done
    cases done
    exact ⟨[], rfl, .nil⟩
  | some c =>
    rw [around] at done freeLines
    dsimp only at done
    split at done
    · rename_i writable
      obtain ⟨under, made, rfl⟩ := map_eq_ok.mp done
      obtain ⟨bareUnder, bareMade, shows⟩ :=
        lineRows_shows wrapped plain free (fun isClean => freeLines isClean c rfl) made
      dsimp only
      rw [if_pos writable, bareMade]
      exact ⟨[] :: bareUnder, rfl, .cons (Painted.bare.shows fun _ => List.not_mem_nil) shows⟩
    · cases done

end Layout

/-! ## Messages -/

structure EscapeFree (m : Message) : Prop where
  file : escapeChar ∉ m.file
  text : escapeChar ∉ m.text
  lines : ∀ c ∈ m.context, ∀ line ∈ c.lines, escapeChar ∉ line
  hints : ∀ h ∈ m.hints, escapeChar ∉ h.newText

theorem strip_joinLines {clean : Prop} {rows bareRows : List Text}
    (shows : List.Forall₂ (Shows clean) rows bareRows) :
    look.strip (Text.joinLines rows) = look.strip (Text.joinLines bareRows) ∧
      (clean → escapeChar ∉ Text.joinLines bareRows) := by
  induction shows with
  | nil => exact ⟨rfl, fun _ => List.not_mem_nil⟩
  | @cons row bareRow rows bareRows first others ih =>
    cases others with
    | nil =>
      have alone := first.alike [] nofun
      rw [List.append_nil] at alone
      exact ⟨alone.trans (List.append_nil _), first.free⟩
    | cons second others =>
      have ends (rest : Text) : look.Ends ('\n' :: rest) := by
        rintro _ ⟨⟩
        decide
      have feed : '\n' ≠ escapeChar := by decide
      obtain ⟨alike, free⟩ := ih
      refine ⟨?_, fun isClean => ?_⟩
      · rw [Text.joinLines, Text.joinLines, first.alike _ (ends _),
          Sequences.strip_append_of_ends (ends _), Sequences.strip_cons feed,
          Sequences.strip_cons feed, alike]
      · rw [Text.joinLines, List.mem_append, List.mem_cons, not_or, not_or]
        exact ⟨first.free isClean, Ne.symm feed, free isClean⟩

/-- A valid message with a file and a text is laid out in colours and without them as one text, up
to escape sequences, unless a number in the layout is too long to be written: that is the same error
in both. -/
theorem strip_renderWith {m : Message} {palette : Palette} {styles : Styles} (valid : m.Valid)
    (named : m.file ≠ []) (told : m.text ≠ []) (wrapped : styles.WrappedBy palette) :
    (m.Overlong ∧ m.renderWith palette styles true = .error .unwritable ∧
      m.renderWith palette .standard false = .error .unwritable) ∨
    (¬ m.Overlong ∧ ∃ painted bare, m.renderWith palette styles true = .ok painted ∧
      m.renderWith palette .standard false = .ok bare ∧ look.strip painted = look.strip bare ∧
      (m.EscapeFree → look.strip painted = bare)) := by
  have whole := unrenderable?_eq_none valid named told
  have uncoloured := @renderWith_of_whole m whole palette .standard false nofun
  rcases renderWith_of_whole whole fun _ => wrapped.readable with
    ⟨long, failed⟩ | ⟨short, header, rows, headed, made, rendered⟩
  · exact .inl ⟨long, failed, (uncoloured.resolve_right fun fits => fits.1 long).2⟩
  · obtain ⟨-, bareHeader, bareRows, bareHeaded, bareMade, bareRendered⟩ :=
      uncoloured.resolve_left fun fails => short fails.1
    have wraps : (⟨m.level, styles, palette, true⟩ : Painter).styles.WrappedBy palette := wrapped
    have plain : (⟨m.level, .standard, palette, false⟩ : Painter).color = false := rfl
    obtain ⟨_, sameHeader, showsHeader⟩ :=
      header_shows wraps plain (fun free : m.EscapeFree => free.file) (fun free => free.text) headed
    cases bareHeaded.symm.trans sameHeader
    obtain ⟨_, sameRows, showsRows⟩ :=
      contextRows_shows wraps plain (fun free : m.EscapeFree => free.hints) (fun free => free.lines) made
    cases bareMade.symm.trans sameRows
    obtain ⟨alike, free⟩ := strip_joinLines (.cons showsHeader showsRows)
    refine .inr ⟨short, _, _, rendered, bareRendered, alike, fun isFree => ?_⟩
    rw [alike, Sequences.strip_of_free (free isFree)]

/-- A message with a whole sequence in its line, and one without an end in its text. -/
def escaped : Message where
  file := "a.c".toList
  level := .error
  location := ⟨"t\x1b[3".toList, some 2, none⟩
  context := some ⟨2, ["\x1b[1mab".toList]⟩
  hints := [.replace ⟨1, 2⟩ ['m']]

def slanted : Styles := .override [(.message, "italic red on blue".toList), (.caret, [])]

theorem slanted_readable : slanted.Readable := by
  refine Styles.override_readable (List.forall_mem_cons.mpr ⟨?_, List.forall_mem_singleton.mpr ?_⟩)
  · exact ⟨⟨[3], some (.standard 1), some (.standard 4)⟩, by decide +kernel⟩
  · exact ⟨.plain, by decide +kernel⟩

def unescaped : Message :=
  { escaped with location := ⟨['t'], some 2, none⟩, context := some ⟨2, ["ab".toList]⟩ }

theorem unescaped_escapeFree : unescaped.EscapeFree where
  file := by decide
  text := by decide
  lines := by
    rintro _ ⟨⟩
    exact List.forall_mem_singleton.mpr (by decide)
  hints := List.forall_mem_singleton.mpr (by decide)

/-- A message on a line whose number is too long to be written. -/
def beyond : Message := .plain "a.c".toList "t".toList .note (Nat.pow 10 Number.digitLimit) 1

theorem valid_beyond : beyond.Valid :=
  valid_bare (by decide) (location_valid_iff.mpr ⟨by decide, by decide +kernel, Nat.le_refl 1⟩)

theorem strip_renderWith_escaped :
    slanted.WrappedBy Style.palette ∧
    (escaped.Valid ∧ ∃ painted bare, escaped.renderWith Style.palette slanted true = .ok painted ∧
      escaped.renderWith Style.palette .standard false = .ok bare ∧
      look.strip painted = look.strip bare) ∧
    (unescaped.Valid ∧ ∃ painted bare, unescaped.renderWith Style.palette slanted true = .ok painted ∧
      unescaped.renderWith Style.palette .standard false = .ok bare ∧ look.strip painted = bare) ∧
    beyond.Valid ∧ beyond.renderWith Style.palette slanted true = .error .unwritable ∧
      beyond.renderWith Style.palette .standard false = .error .unwritable := by
  have valid : escaped.Valid := by decide
  have unescapedValid : unescaped.Valid := by decide
  have wrapped := slanted_readable.wrapped
  refine ⟨wrapped, ⟨valid, ?_⟩, ⟨unescapedValid, ?_⟩, valid_beyond, ?_⟩
  · rcases strip_renderWith valid (by decide) (by decide) wrapped with
      ⟨long, _⟩ | ⟨_, painted, bare, rendered, shown, alike, _⟩
    · exact absurd long (by decide +kernel)
    · exact ⟨painted, bare, rendered, shown, alike⟩
  · rcases strip_renderWith unescapedValid (by decide) (by decide) wrapped with
      ⟨long, _⟩ | ⟨_, painted, bare, rendered, shown, _, same⟩
    · exact absurd long (by decide +kernel)
    · exact ⟨painted, bare, rendered, shown, same unescaped_escapeFree⟩
  · have long : beyond.Overlong := by decide +kernel
    rcases strip_renderWith valid_beyond (List.cons_ne_nil _ _) (List.cons_ne_nil _ _) wrapped with
      ⟨_, failed, bareFailed⟩ | ⟨short, _⟩
    · exact ⟨failed, bareFailed⟩
    · exact absurd long short

end Message
end Diagnostics
