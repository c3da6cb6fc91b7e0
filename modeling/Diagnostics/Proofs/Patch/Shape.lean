import Diagnostics.Proofs.Patch.RoundTrip
import Diagnostics.Proofs.Text.Pieces
import Mathlib.Algebra.GroupWithZero.Nat

/-!
The rows of a patch as a reader finds them who cuts it at its line feeds. They are those of one hunk
exactly if no line of the context and no text of a hint holds a line feed: nothing in a message keeps
line feeds out of these, and each of them makes a row that the header has not counted.
-/
namespace Diagnostics.Patch

/-! ## Rows of one hunk -/

def onOldSide (row : Text) : Bool := row.head? == some ' ' || row.head? == some '-'

def onNewSide (row : Text) : Bool := row.head? == some ' ' || row.head? == some '+'

/-- All rows keep their lines, but for two neighbours that may exchange one line for another. -/
def ExchangesOne (rows : List Text) : Prop :=
  (∀ row ∈ rows, row.head? = some ' ') ∨
    ∃ front dropped added back, rows = front ++ ('-' :: dropped) :: ('+' :: added) :: back ∧
      ∀ row ∈ front ++ back, row.head? = some ' '

def announcement (oldStart oldCount newStart newCount : Nat) : Text :=
  "@@ -".toList ++ (Number.numeral oldStart ++ ',' :: (Number.numeral oldCount ++ ' ' :: '+' ::
    (Number.numeral newStart ++ ',' :: (Number.numeral newCount ++ ' ' :: ['@', '@']))))

structure IsHunk (header : Text) (body : List Text) : Prop where
  marked : ∀ row ∈ body, row.head? = some ' ' ∨ row.head? = some '-' ∨ row.head? = some '+'
  exchanges : ExchangesOne body
  announced : ∃ oldStart newStart, header =
    announcement oldStart (body.countP onOldSide) newStart (body.countP onNewSide)

/-- A text that is a patch of one hunk, cut at its line feeds. -/
def WellFormed (patch : Text) : Prop :=
  ∃ old new header body, Text.splitOnChar '\n' patch = old :: new :: header :: body ∧
    "--- ".toList <+: old ∧ "+++ ".toList <+: new ∧ IsHunk header body

/-! ## What a header announces -/

theorem numeral_cancel {a b : Nat} {c d : Char} {rest others : Text}
    (ends : Text.isDecimalDigit c = false) (endsToo : Text.isDecimalDigit d = false)
    (same : Number.numeral a ++ c :: rest = Number.numeral b ++ d :: others) :
    a = b ∧ c :: rest = d :: others := by
  have read := congrArg digits? same
  rw [digits?_append (isNumber_numeral a) ends, digits?_append (isNumber_numeral b) endsToo,
    Option.some.injEq, Prod.mk.injEq] at read
  have value := congrArg Number.ofDigitText read.1
  rw [Number.ofDigitText_numeral, Number.ofDigitText_numeral] at value
  exact ⟨value, read.2⟩

theorem announcement_counts {oldStart oldCount newStart newCount oldStart' oldCount' newStart'
    newCount' : Nat} (same : announcement oldStart oldCount newStart newCount =
      announcement oldStart' oldCount' newStart' newCount') :
    oldCount = oldCount' ∧ newCount = newCount' := by
  have comma : Text.isDecimalDigit ',' = false := by decide
  have blank : Text.isDecimalDigit ' ' = false := by decide
  unfold announcement at same
  obtain ⟨-, same⟩ := numeral_cancel comma comma (List.append_cancel_left same)
  obtain ⟨olds, same⟩ := numeral_cancel blank blank (List.cons.inj same).2
  obtain ⟨-, same⟩ := numeral_cancel comma comma (List.cons.inj (List.cons.inj same).2).2
  obtain ⟨news, -⟩ := numeral_cancel blank blank (List.cons.inj same).2
  exact ⟨olds, news⟩

theorem header_eq_announcement (c : Context) :
    "@@ -".toList ++ extent c ++ " +".toList ++ extent c ++ " @@".toList =
      announcement c.start c.lines.length c.start c.lines.length := by
  simp [extent, announcement]

/-! ## The rows that are written -/

/-- The rows for the lines of a context, told by the focus and the lines around it. -/
theorem bodyRows_append (expected line : Text) (front back : List Text) :
    bodyRows expected front.length (front ++ line :: back) =
      front.map (' ' :: ·) ++
        (if line = expected then [' ' :: line] else ['-' :: line, '+' :: expected]) ++
        back.map (' ' :: ·) := by
  induction front with
  | nil => rfl
  | cons first front ih => rw [List.cons_append, List.length_cons, bodyRows, ih]; rfl

theorem countP_keep (side : Text → Bool) (keeps : ∀ line, side (' ' :: line) = true)
    (lines : List Text) : (lines.map (' ' :: ·)).countP side = lines.length := by
  rw [List.countP_map, List.countP_eq_length]
  exact fun line _ => keeps line

theorem keep_head {lines : List Text} {row : Text} (member : row ∈ lines.map (' ' :: ·)) :
    row.head? = some ' ' := by
  obtain ⟨line, _, rfl⟩ := List.mem_map.mp member
  rfl

section Rows
variable {expected line : Text} {front back : List Text}

theorem countP_bodyRows :
    (bodyRows expected front.length (front ++ line :: back)).countP onOldSide =
        (front ++ line :: back).length ∧
      (bodyRows expected front.length (front ++ line :: back)).countP onNewSide =
        (front ++ line :: back).length := by
  have olds := countP_keep onOldSide (fun _ => rfl)
  have news := countP_keep onNewSide (fun _ => rfl)
  simp only [bodyRows_append, List.countP_append, olds, news, List.length_append, List.length_cons]
  split <;> simp [onOldSide, onNewSide] <;> omega

theorem exchangesOne_bodyRows :
    ExchangesOne (bodyRows expected front.length (front ++ line :: back)) := by
  rw [bodyRows_append]
  by_cases same : line = expected
  · left
    intro row member
    rw [if_pos same, List.mem_append, List.mem_append, List.mem_singleton] at member
    rcases member with (before | rfl) | after
    · exact keep_head before
    · rfl
    · exact keep_head after
  · right
    refine ⟨front.map (' ' :: ·), line, expected, back.map (' ' :: ·), ?_, fun row member => ?_⟩
    · rw [if_neg same, List.append_assoc]
      rfl
    · rcases List.mem_append.mp member with before | after
      · exact keep_head before
      · exact keep_head after

/-- No row holds a line feed exactly if none of the lines and not the fixed one does. -/
theorem feed_free_bodyRows_iff :
    (∀ row ∈ bodyRows expected front.length (front ++ line :: back), '\n' ∉ row) ↔
      (∀ l ∈ front ++ line :: back, '\n' ∉ l) ∧ '\n' ∉ expected := by
  have marked (marker : Char) (other : marker ≠ '\n') (l : Text) : '\n' ∉ marker :: l ↔ '\n' ∉ l := by
    rw [List.mem_cons, not_or]
    exact ⟨And.right, fun absent => ⟨Ne.symm other, absent⟩⟩
  have kept (lines : List Text) : (∀ row ∈ lines.map (' ' :: ·), '\n' ∉ row) ↔
      ∀ l ∈ lines, '\n' ∉ l := by
    rw [List.forall_mem_map]
    exact forall₂_congr fun l _ => marked ' ' (by decide) l
  rw [bodyRows_append, List.forall_mem_append, List.forall_mem_append, List.forall_mem_append,
    List.forall_mem_cons, kept, kept]
  by_cases same : line = expected
  · rw [if_pos same, List.forall_mem_singleton, marked ' ' (by decide), ← same]
    constructor
    · rintro ⟨⟨before, here⟩, after⟩
      exact ⟨⟨before, here, after⟩, here⟩
    · rintro ⟨⟨before, here, after⟩, _⟩
      exact ⟨⟨before, here⟩, after⟩
  · rw [if_neg same, List.forall_mem_cons, List.forall_mem_singleton, marked '-' (by decide),
      marked '+' (by decide)]
    constructor
    · rintro ⟨⟨before, here, other⟩, after⟩
      exact ⟨⟨before, here, after⟩, other⟩
    · rintro ⟨⟨before, here, after⟩, other⟩
      exact ⟨⟨before, here, other⟩, after⟩

end Rows

/-! ## Rows cut at line feeds -/

def sides (row : Text) : Nat := (if onOldSide row then 1 else 0) + if onNewSide row then 1 else 0

theorem countP_add_countP (rows : List Text) :
    rows.countP onOldSide + rows.countP onNewSide = (rows.map sides).sum := by
  induction rows with
  | nil => rfl
  | cons row rest ih =>
    rw [List.countP_cons, List.countP_cons, List.map_cons, List.sum_cons, ← ih, sides]
    omega

theorem one_le_sides {row : Text}
    (marked : row.head? = some ' ' ∨ row.head? = some '-' ∨ row.head? = some '+') :
    1 ≤ sides row := by
  rcases marked with h | h | h <;> simp [sides, onOldSide, onNewSide, h]

theorem length_le_sum_sides {rows : List Text} (marked : ∀ row ∈ rows, 1 ≤ sides row) :
    rows.length ≤ (rows.map sides).sum := by
  induction rows with
  | nil => exact Nat.le_refl 0
  | cons row rest ih =>
    have first := marked row List.mem_cons_self
    have others := ih fun r member => marked r (List.mem_cons_of_mem _ member)
    rw [List.map_cons, List.sum_cons, List.length_cons]
    omega

/-- The first piece of a row has the marker of the row, and every further piece a side of its own. -/
theorem sides_add_count_le {marker : Char} {line : Text} (other : marker ≠ '\n')
    (marked : ∀ piece ∈ Text.splitOnChar '\n' (marker :: line), 1 ≤ sides piece) :
    sides (marker :: line) + line.count '\n' ≤
      ((Text.splitOnChar '\n' (marker :: line)).map sides).sum := by
  obtain ⟨first, rest, pieces, longer⟩ := Text.splitOnChar_cons other line
  have count := Text.length_splitOnChar '\n' line
  rw [pieces, List.length_cons, Nat.add_right_cancel_iff] at count
  rw [longer] at marked ⊢
  have further := length_le_sum_sides fun piece member => marked piece (List.mem_cons_of_mem _ member)
  have same : sides (marker :: first) = sides (marker :: line) := rfl
  rw [List.map_cons, List.sum_cons, same]
  omega

theorem sum_sides_add_feeds_le {rows : List Text}
    (written : ∀ row ∈ rows, ∃ marker line, row = marker :: line ∧ marker ≠ '\n')
    (marked : ∀ piece ∈ rows.flatMap (Text.splitOnChar '\n'), 1 ≤ sides piece) :
    (rows.map sides).sum + (rows.map (List.count '\n')).sum ≤
      ((rows.flatMap (Text.splitOnChar '\n')).map sides).sum := by
  induction rows with
  | nil => exact Nat.le_refl 0
  | cons row rest ih =>
    obtain ⟨marker, line, rfl, other⟩ := written row List.mem_cons_self
    rw [List.flatMap_cons, List.forall_mem_append] at marked
    have here := sides_add_count_le other marked.1
    have later := ih (fun r member => written r (List.mem_cons_of_mem _ member)) marked.2
    rw [List.flatMap_cons, List.map_append, List.sum_append, List.map_cons, List.map_cons,
      List.sum_cons, List.sum_cons, List.count_cons_of_ne other]
    omega

/-- Rows with markers that stand on as many sides as their pieces do are their own pieces. -/
theorem feed_free_of_sum_sides_eq {rows : List Text}
    (written : ∀ row ∈ rows, ∃ marker line, row = marker :: line ∧ marker ≠ '\n')
    (marked : ∀ piece ∈ rows.flatMap (Text.splitOnChar '\n'), 1 ≤ sides piece)
    (same : ((rows.flatMap (Text.splitOnChar '\n')).map sides).sum = (rows.map sides).sum) :
    ∀ row ∈ rows, '\n' ∉ row := by
  have bound := sum_sides_add_feeds_le written marked
  have none : (rows.map (List.count '\n')).sum = 0 := by omega
  intro row member
  have here := List.sum_eq_zero_iff_forall_eq_nat.mp none _ (List.mem_map_of_mem member)
  exact List.count_eq_zero.mp here

/-! ## Whole patches -/

section Written
variable {file fixed line : Text} {c : Context} {front back : List Text} (modified now : Timestamp)

/-- The rows of the head stay as they are; those of the hunk fall apart at their line feeds. -/
theorem splitOnChar_written (filePlain : Text.Plain file) (index : Nat) :
    Text.splitOnChar '\n' (written file c modified now fixed index) =
      headRows file c modified now ++
        (bodyRows fixed index c.lines).flatMap (Text.splitOnChar '\n') := by
  have free : ∀ row ∈ headRows file c modified now, '\n' ∉ row := fun row member =>
    Text.feed_not_mem_of_plain (plain_headRows c modified now filePlain row member)
  rw [written, Text.splitOnChar_joinLines (by simp [headRows]), List.flatMap_append,
    Text.flatMap_splitOnChar_of_not_mem free]

theorem wellFormed_written_iff (filePlain : Text.Plain file) (cut : c.lines = front ++ line :: back) :
    WellFormed (written file c modified now fixed front.length) ↔
      (∀ l ∈ c.lines, '\n' ∉ l) ∧ '\n' ∉ fixed := by
  have rows : Text.splitOnChar '\n' (written file c modified now fixed front.length) = _ :=
    splitOnChar_written modified now filePlain front.length
  have olds : (bodyRows fixed front.length (front ++ line :: back)).countP onOldSide = _ :=
    countP_bodyRows.1
  have news : (bodyRows fixed front.length (front ++ line :: back)).countP onNewSide = _ :=
    countP_bodyRows.2
  rw [← cut] at olds news
  rw [cut, ← feed_free_bodyRows_iff, ← cut]
  constructor
  · rintro ⟨old, new, header, body, pieces, -, -, hunk⟩
    rw [rows] at pieces
    simp only [headRows, List.cons_append, List.nil_append, List.cons.injEq] at pieces
    obtain ⟨-, -, head, rfl⟩ := pieces
    -- The header announces the lines of the context, so the pieces stand on as many sides as rows.
    obtain ⟨oldStart, newStart, announced⟩ := hunk.announced
    rw [← head, header_eq_announcement] at announced
    obtain ⟨oldCount, newCount⟩ := announcement_counts announced
    refine feed_free_of_sum_sides_eq (fun row member => ?_)
      (fun piece member => one_le_sides (hunk.marked piece member)) ?_
    · obtain ⟨marker, line, rfl, isMarker, -⟩ := exists_marker_of_mem_bodyRows member
      exact ⟨marker, line, rfl, by rcases isMarker with rfl | rfl | rfl <;> decide⟩
    · rw [← countP_add_countP, ← countP_add_countP, ← oldCount, ← newCount, olds, news]
  · intro free
    rw [Text.flatMap_splitOnChar_of_not_mem free] at rows
    refine ⟨_, _, _, bodyRows fixed front.length c.lines, rows, ?_, ?_, ?_, ?_, ?_⟩
    · exact ⟨file ++ ' ' :: modified.text, by rw [List.append_assoc]⟩
    · exact ⟨file ++ fixSuffix ++ ' ' :: now.text, by simp only [List.append_assoc]⟩
    · intro row member
      obtain ⟨marker, line, rfl, isMarker, -⟩ := exists_marker_of_mem_bodyRows member
      exact isMarker.imp (congrArg some) (Or.imp (congrArg some) (congrArg some))
    · rw [cut]
      exact exchangesOne_bodyRows
    · refine ⟨c.start, c.start, ?_⟩
      rw [olds, news, header_eq_announcement]

end Written

theorem exists_written_of_createIn {files : Files} {clock : Clock} {m : Message} {c : Context}
    {patch : Text} (valid : m.Valid) (around : m.context = some c)
    (made : createIn files m clock = .ok patch) :
    ∃ modified line, c.lines[m.line - c.start]? = some line ∧
      patch = written m.file c modified clock.now (Hint.rewrite line 0 m.hints) (m.line - c.start) := by
  obtain ⟨line, place, focus⟩ := Message.exists_focusLine valid around
  have carriedOut := Message.fixedLine_of_focusLine focus
  rw [Hint.applyForwards_eq line m.hints valid.hints_valid valid.hints_spaced] at carriedOut
  simp only [createIn, create, around, carriedOut, bind_eq_ok, Except.ok.injEq] at made
  obtain ⟨modified, -, _, rfl, made⟩ := made
  by_cases writable : (Number.isWritable c.start && Number.isWritable c.lines.length) = true
  · rw [if_pos writable] at made
    exact ⟨modified, line, place, (Except.ok.inj made).symm⟩
  · rw [if_neg writable] at made
    cases made

theorem exists_createIn {files : Files} {clock : Clock} {modified : Timestamp} {m : Message} {c : Context}
    (valid : m.Valid) (around : m.context = some c)
    (found : modifiedTime files m.file clock = .ok modified)
    (startWritable : Number.isWritable c.start = true)
    (countWritable : Number.isWritable c.lines.length = true) :
    ∃ patch, createIn files m clock = .ok patch := by
  obtain ⟨line, -, focus⟩ := Message.exists_focusLine valid around
  have carriedOut := Message.fixedLine_of_focusLine focus
  have made := create_eq_written modified clock.now around carriedOut startWritable countWritable
  have opened : createIn files m clock = create m modified clock.now := by
    rw [createIn, around]
    dsimp only
    rw [found]
    rfl
  exact ⟨_, opened.trans made⟩

/-- The patch of a message is one hunk as its header announces it exactly if no line of the context
and no text of a hint holds a line feed. There is a patch as long as the time of the file can be had
and the numbers of the header can be written. -/
theorem createIn_wellFormed_iff (files : Files) (clock : Clock) {m : Message} {c : Context}
    (valid : m.Valid) (around : m.context = some c) :
    (∀ patch, createIn files m clock = .ok patch →
      (WellFormed patch ↔
        (∀ line ∈ c.lines, '\n' ∉ line) ∧ ∀ h ∈ m.hints, '\n' ∉ h.newText)) ∧
    (∀ modified, modifiedTime files m.file clock = .ok modified →
      Number.isWritable c.start = true → Number.isWritable c.lines.length = true →
        ∃ patch, createIn files m clock = .ok patch) := by
  refine ⟨fun patch made => ?_, fun modified found => exists_createIn valid around found⟩
  obtain ⟨modified, line, place, rfl⟩ := exists_written_of_createIn valid around made
  obtain ⟨inside, isLine⟩ := List.getElem?_eq_some_iff.mp place
  have cut : c.lines =
      c.lines.take (m.line - c.start) ++ line :: c.lines.drop (m.line - c.start + 1) := by
    rw [← isLine, List.getElem_cons_drop, List.take_append_drop]
  have front : (c.lines.take (m.line - c.start)).length = m.line - c.start :=
    List.length_take_of_le (Nat.le_of_lt inside)
  have shape : WellFormed (written m.file c modified clock.now (Hint.rewrite line 0 m.hints) _) ↔ _ :=
    wellFormed_written_iff modified clock.now (plain_of_solid valid.file_solid) cut
  rw [front] at shape
  rw [shape]
  constructor
  · rintro ⟨lines, fixed⟩
    exact ⟨lines, fun h among feed => fixed (Hint.mem_rewrite_of_mem_newText among feed)⟩
  · rintro ⟨lines, texts⟩
    refine ⟨lines, fun feed => ?_⟩
    rcases Hint.mem_of_mem_rewrite feed with old | ⟨h, among, new⟩
    · exact lines line (List.mem_of_getElem? place) old
    · exact texts h among new

/-- A message about some lines, with a text to be inserted in front of the first one. -/
def inserting (text : Text) (lines : List Text) : Message where
  file := "a.c".toList
  level := .error
  location := ⟨"t".toList, none, none⟩
  context := some ⟨1, lines⟩
  hints := [.insert 1 text]

/-- A text of two lines leaves a row without marker, and so does a line of the context that is two. -/
theorem createIn_inserting_wellFormed_iff :
    (∃ patch, createIn .empty (inserting "x".toList ["a".toList, "b".toList]) noon = .ok patch ∧
      WellFormed patch) ∧
    (∃ patch, createIn .empty (inserting "x\n".toList ["a".toList]) noon = .ok patch ∧
      ¬ WellFormed patch) ∧
    ∃ patch, createIn .empty (inserting [] ["a\nb".toList]) noon = .ok patch ∧
      ¬ WellFormed patch := by
  have found : modifiedTime .empty "a.c".toList noon = .ok noon.now := by rfl
  have one : Number.isWritable 1 = true := by decide +kernel
  have two : Number.isWritable 2 = true := by decide +kernel
  obtain ⟨shape, some⟩ := createIn_wellFormed_iff .empty noon
    (m := inserting "x".toList ["a".toList, "b".toList]) (by decide) rfl
  obtain ⟨shapeText, someText⟩ := createIn_wellFormed_iff .empty noon
    (m := inserting "x\n".toList ["a".toList]) (by decide) rfl
  obtain ⟨shapeLine, someLine⟩ := createIn_wellFormed_iff .empty noon
    (m := inserting [] ["a\nb".toList]) (by decide) rfl
  obtain ⟨patch, made⟩ := some noon.now found one two
  obtain ⟨patchText, madeText⟩ := someText noon.now found one one
  obtain ⟨patchLine, madeLine⟩ := someLine noon.now found one one
  exact ⟨⟨patch, made, (shape patch made).mpr (by decide)⟩,
    ⟨patchText, madeText, mt (shapeText patchText madeText).mp (by decide)⟩,
    ⟨patchLine, madeLine, mt (shapeLine patchLine madeLine).mp (by decide)⟩⟩

end Diagnostics.Patch
