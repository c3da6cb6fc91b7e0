import Diagnostics.Proofs.Message.Fix

/-!
Hints carried out column by column. A line with its hints carried out from the first to the last is
what a walk over the columns of the original line gives: before a column comes the text that goes
there, then the character of the column unless it is cut, and behind the last column the texts that
go behind it. Main statement: `fixedLine_eq_columnEdit`.
-/
namespace Diagnostics

namespace Hint

/-- A hint that takes a column of the line away. -/
def cuts (h : Hint) (column : Nat) : Bool :=
  (h.kind == .remove || h.kind == .replace) && h.span.covers column

/-- The text of the hint that puts one before a column, if there is one. -/
def textAt (hints : List Hint) (column : Nat) : Text :=
  ((hints.find? fun h => h.kind.hasText && h.index == column).map newText).getD []

/-- The character of a column, unless some hint takes it away. -/
def keptAt (hints : List Hint) (column : Nat) (c : Char) : Text :=
  if hints.any fun h => h.cuts column then [] else [c]

/-- The columns of a line from some column on, with hints carried out, and behind them the texts
that go there. -/
def columnEdit (hints : List Hint) : Nat → Text → Text
  | column, [] => (hints.filter fun h => h.kind.hasText && column ≤ h.index).flatMap newText
  | column, c :: rest =>
    textAt hints column ++ keptAt hints column c ++ columnEdit hints (column + 1) rest

theorem covers_iff {s : Span} {column : Nat} :
    s.covers column = true ↔ s.index ≤ column ∧ column < s.index + s.length := by
  rw [Span.covers, decide_eq_true_iff, Span.stop]

theorem cuts_iff {h : Hint} (valid : h.Valid) (column : Nat) :
    h.cuts column = true ↔ h.start < column ∧ column ≤ h.resume := by
  have counts : 1 ≤ h.span.index := valid
  cases h with
  | mark span =>
    have never : (Hint.mark span).cuts column = false := rfl
    simp only [never, Bool.false_eq_true, false_iff, start, index, Hint.span, resume]
    omega
  | insert first text =>
    have never : (Hint.insert first text).cuts column = false := rfl
    simp only [never, Bool.false_eq_true, false_iff, start, index, span, resume]
    omega
  | remove span =>
    have covers : (Hint.remove span).cuts column = span.covers column := rfl
    simp only [covers, covers_iff, start, index, Hint.span, resume] at counts ⊢
    omega
  | replace span text =>
    have covers : (Hint.replace span text).cuts column = span.covers column := rfl
    simp only [covers, covers_iff, start, index, Hint.span, resume] at counts ⊢
    omega

theorem index_eq {h : Hint} (valid : h.Valid) : h.index = h.start + 1 := by
  have counts : 1 ≤ h.index := valid
  rw [start]
  omega

/-! ## Hints ahead, at and behind a column -/

theorem textAt_cons_of_ne {h : Hint} {column : Nat} (rest : List Hint) (other : h.index ≠ column) :
    textAt (h :: rest) column = textAt rest column := by
  rw [textAt, List.find?_cons_of_neg (by simp [other]), textAt]

theorem textAt_of_ahead {hints : List Hint} {column : Nat} (ahead : ∀ h ∈ hints, column < h.index) :
    textAt hints column = [] := by
  have none : hints.find? (fun h => h.kind.hasText && h.index == column) = none := by
    rw [List.find?_eq_none]
    intro h member
    have := ahead h member
    simp only [Bool.and_eq_true, beq_iff_eq, not_and]
    omega
  rw [textAt, none]
  rfl

/-- A hint puts its text before its first column; where it has none, nothing is put there. -/
theorem textAt_cons_self {h : Hint} {rest : List Hint} (ahead : ∀ later ∈ rest, h.index < later.index) :
    textAt (h :: rest) h.index = h.newText := by
  cases carries : h.kind.hasText with
  | true =>
    rw [textAt, List.find?_cons_of_pos (by simp [carries])]
    rfl
  | false =>
    rw [textAt, List.find?_cons_of_neg (by simp [carries]), ← textAt, textAt_of_ahead ahead,
      newText_eq_nil carries]

theorem keptAt_of_ahead {hints : List Hint} {column : Nat} (valid : ∀ h ∈ hints, h.Valid)
    (ahead : ∀ h ∈ hints, column ≤ h.start) (c : Char) : keptAt hints column c = [c] := by
  have none : (hints.any fun h => h.cuts column) = false := by
    rw [List.any_eq_false]
    intro h member
    rw [cuts_iff (valid h member)]
    have := ahead h member
    omega
  rw [keptAt, none]
  rfl

theorem keptAt_cons_of_cuts {h : Hint} {column : Nat} (rest : List Hint) (c : Char)
    (cut : h.cuts column = true) : keptAt (h :: rest) column c = [] := by
  rw [keptAt, List.any_cons, cut, Bool.true_or, if_pos rfl]

theorem keptAt_cons_of_not_cuts {h : Hint} {column : Nat} (rest : List Hint) (c : Char)
    (kept : h.cuts column = false) : keptAt (h :: rest) column c = keptAt rest column c := by
  rw [keptAt, List.any_cons, kept, Bool.false_or, keptAt]

theorem columnEdit_nil_of_ahead {hints : List Hint} {column : Nat}
    (ahead : ∀ h ∈ hints, column ≤ h.index) : columnEdit hints column [] = hints.flatMap newText := by
  rw [columnEdit]
  induction hints with
  | nil => rfl
  | cons h rest ih =>
    rw [List.forall_mem_cons] at ahead
    rw [List.filter_cons, List.flatMap_cons, ← ih ahead.2]
    cases carries : h.kind.hasText with
    | true => simp [ahead.1]
    | false => simp [newText_eq_nil carries]

theorem columnEdit_of_no_hints (column : Nat) (text : Text) : columnEdit [] column text = text := by
  induction text generalizing column with
  | nil => rfl
  | cons c rest ih =>
    rw [columnEdit, ih]
    rfl

/-! ## The walk and the loop -/

/-- Up to the first hint, the line stays as it is. -/
theorem columnEdit_of_ahead {hints : List Hint} (valid : ∀ h ∈ hints, h.Valid) (text : Text)
    {done k : Nat} (ahead : ∀ h ∈ hints, done + k ≤ h.start) :
    columnEdit hints (done + 1) text =
      text.take k ++ columnEdit hints (done + k + 1) (text.drop k) := by
  have bound (h : Hint) (member : h ∈ hints) : done + k + 1 ≤ h.index := by
    rw [index_eq (valid h member)]
    exact Nat.succ_le_succ (ahead h member)
  induction text generalizing done k with
  | nil =>
    rw [List.take_nil, List.drop_nil, List.nil_append, columnEdit_nil_of_ahead bound,
      columnEdit_nil_of_ahead fun h member => Nat.le_trans (by omega) (bound h member)]
  | cons c rest ih =>
    cases k with
    | zero => rfl
    | succ k =>
      have next : done + (k + 1) = (done + 1) + k := by omega
      rw [columnEdit, textAt_of_ahead fun h member => Nat.lt_of_lt_of_le (by omega) (bound h member),
        keptAt_of_ahead valid fun h member => Nat.le_trans (by omega) (ahead h member), next,
        ih (fun h member => next ▸ ahead h member) (fun h member => next ▸ bound h member),
        List.take_succ_cons, List.drop_succ_cons]
      rfl

/-- Behind its columns, a hint does nothing more. -/
theorem columnEdit_cons_of_past {h : Hint} (valid : h.Valid) (rest : List Hint) (text : Text)
    {column : Nat} (behind : h.index < column) (past : h.resume < column) :
    columnEdit (h :: rest) column text = columnEdit rest column text := by
  induction text generalizing column with
  | nil =>
    rw [columnEdit, List.filter_cons_of_neg, columnEdit]
    simp only [Bool.and_eq_true, decide_eq_true_eq, not_and]
    omega
  | cons c text ih =>
    have kept : h.cuts column = false := by
      rw [← Bool.not_eq_true, cuts_iff valid]
      omega
    rw [columnEdit, textAt_cons_of_ne rest (Nat.ne_of_lt behind),
      keptAt_cons_of_not_cuts rest c kept, ih (by omega) (by omega), columnEdit]

/-- Inside the columns that a hint takes away, nothing is left but what comes behind them. -/
theorem columnEdit_cons_of_inside {h : Hint} (valid : h.Valid) {rest : List Hint} (text : Text)
    {done : Nat} (ahead : ∀ later ∈ rest, h.resume < later.index) (behind : h.start < done)
    (inside : done ≤ h.resume) :
    columnEdit (h :: rest) (done + 1) text =
      columnEdit rest (h.resume + 1) (text.drop (h.resume - done)) := by
  have index := index_eq valid
  induction text generalizing done with
  | nil =>
    have beyond : columnEdit (h :: rest) (done + 1) [] = columnEdit rest (done + 1) [] := by
      rw [columnEdit, List.filter_cons_of_neg, columnEdit]
      simp only [Bool.and_eq_true, decide_eq_true_eq, not_and]
      omega
    rw [beyond, List.drop_nil, columnEdit_nil_of_ahead ahead,
      columnEdit_nil_of_ahead fun later member => Nat.le_trans (by omega) (ahead later member)]
  | cons c text ih =>
    rcases Nat.eq_or_lt_of_le inside with ended | more
    · rw [ended, Nat.sub_self, List.drop_zero]
      exact columnEdit_cons_of_past valid rest _ (by omega) (by omega)
    · have cut : h.cuts (done + 1) = true := (cuts_iff valid _).mpr (by omega)
      have next : h.resume - done = h.resume - (done + 1) + 1 := by omega
      rw [columnEdit, textAt_cons_of_ne rest (by omega), keptAt_cons_of_cuts rest c cut,
        textAt_of_ahead fun later member => Nat.lt_of_le_of_lt (by omega) (ahead later member),
        ih (by omega) more, next, List.drop_succ_cons]
      rfl

/-- At its first column, a hint puts its text; the walk goes on behind what it takes away. -/
theorem columnEdit_cons_at_start {h : Hint} (valid : h.Valid) {rest : List Hint}
    (validRest : ∀ later ∈ rest, later.Valid) (text : Text)
    (ahead : ∀ later ∈ rest, h.span.stop < later.index) :
    columnEdit (h :: rest) (h.start + 1) text =
      h.newText ++ columnEdit rest (h.resume + 1) (text.drop (h.resume - h.start)) := by
  have order := start_le_resume h
  have index := index_eq valid
  have resumes (later : Hint) (member : later ∈ rest) : h.resume < later.index := by
    rw [index_eq (validRest later member)]
    exact Nat.lt_succ_of_le (resume_le_start (ahead later member))
  have starts (later : Hint) (member : later ∈ rest) : h.index < later.index :=
    Nat.lt_of_le_of_lt (Nat.le_add_right _ _) (ahead later member)
  cases text with
  | nil =>
    rw [List.drop_nil, columnEdit_nil_of_ahead resumes, columnEdit_nil_of_ahead, List.flatMap_cons]
    rw [List.forall_mem_cons, ← index]
    exact ⟨Nat.le_refl _, fun later member => Nat.le_of_lt (starts later member)⟩
  | cons c text =>
    have put : textAt (h :: rest) (h.start + 1) = h.newText := by
      rw [← index]
      exact textAt_cons_self starts
    rw [columnEdit, put]
    rcases Nat.eq_or_lt_of_le order with keeps | takes
    · have kept : h.cuts (h.start + 1) = false := by
        rw [← Bool.not_eq_true, cuts_iff valid]
        omega
      rw [keptAt_cons_of_not_cuts rest c kept,
        columnEdit_cons_of_past valid rest text (by omega) (by omega), ← keeps, Nat.sub_self,
        List.drop_zero, columnEdit, textAt_of_ahead fun later member => index ▸ starts later member,
        List.nil_append, List.append_assoc]
    · have cut : h.cuts (h.start + 1) = true := (cuts_iff valid _).mpr (by omega)
      have next : h.resume - h.start = h.resume - (h.start + 1) + 1 := by omega
      rw [keptAt_cons_of_cuts rest c cut, List.append_nil,
        columnEdit_cons_of_inside valid text resumes (Nat.lt_succ_self _) takes, next,
        List.drop_succ_cons]

theorem rewrite_eq_columnEdit (line : Text) {hints : List Hint} (valid : ∀ h ∈ hints, h.Valid)
    (spaced : Message.Spaced hints) {done : Nat} (behind : ∀ h ∈ hints, done ≤ h.start) :
    rewrite line done hints = columnEdit hints (done + 1) (line.drop done) := by
  induction hints generalizing done with
  | nil => rw [rewrite, columnEdit_of_no_hints]
  | cons h rest ih =>
    rw [Message.Spaced, List.pairwise_cons] at spaced
    have order := start_le_resume h
    have ordered := behind h List.mem_cons_self
    have later (other : Hint) (member : other ∈ rest) : h.resume ≤ other.start :=
      resume_le_start (spaced.1 other member)
    have starts : ∀ other ∈ h :: rest, h.start ≤ other.start := by
      rw [List.forall_mem_cons]
      exact ⟨Nat.le_refl _, fun other member => Nat.le_trans order (later other member)⟩
    have upTo : done + (h.start - done) = h.start := by omega
    have beyond : done + (h.start - done + (h.resume - h.start)) = h.resume := by omega
    have validRest := (List.forall_mem_cons.mp valid).2
    rw [rewrite, columnEdit_of_ahead valid _ (upTo ▸ starts), upTo,
      columnEdit_cons_at_start (valid h List.mem_cons_self) validRest _ spaced.1, List.drop_drop,
      List.drop_drop, ih validRest spaced.2 later, List.append_assoc, beyond]

theorem applyForwards_eq_columnEdit (line : Text) {hints : List Hint}
    (valid : ∀ h ∈ hints, h.Valid) (spaced : Message.Spaced hints) :
    applyForwards hints 0 line = columnEdit hints 1 line := by
  rw [applyForwards_eq line hints valid spaced,
    rewrite_eq_columnEdit line valid spaced fun _ _ => Nat.zero_le _]
  rfl

def withoutMarks (hints : List Hint) : List Hint := hints.filter fun h => h.kind != .mark

theorem columnEdit_withoutMarks (hints : List Hint) (column : Nat) (text : Text) :
    columnEdit (withoutMarks hints) column text = columnEdit hints column text := by
  have carries (h : Hint) (place : Bool) :
      (h.kind != .mark && (h.kind.hasText && place)) = (h.kind.hasText && place) := by
    cases h <;> rfl
  have takes (h : Hint) (column : Nat) : (h.kind != .mark && h.cuts column) = h.cuts column := by
    cases h <;> rfl
  induction text generalizing column with
  | nil => simp only [columnEdit, withoutMarks, List.filter_filter, Bool.and_comm _ (_ != _), carries]
  | cons c rest ih =>
    rw [columnEdit, ih, columnEdit]
    simp only [textAt, keptAt, withoutMarks, List.find?_filter, List.any_filter, Bool.decide_and,
      Bool.decide_eq_true, carries, takes]

/-! ## Where the loop cuts -/

theorem applyForwards_append (front back : List Hint) (grown : Int) (line : Text) :
    applyForwards (front ++ back) grown line =
      applyForwards back (grown + ((applyForwards front grown line).length - line.length))
        (applyForwards front grown line) := by
  induction front generalizing grown line with
  | nil => simp [applyForwards]
  | cons h rest ih =>
    rw [List.cons_append, applyForwards, ih, applyForwards]
    congr 1
    omega

/-- The line loses no more than the columns up to where the last hint goes on. -/
theorem length_le_length_rewrite (line : Text) {hints : List Hint} {done n : Nat} (begun : done ≤ n)
    (ends : ∀ h ∈ hints, h.resume ≤ n) : line.length ≤ (rewrite line done hints).length + n := by
  induction hints generalizing done with
  | nil =>
    rw [rewrite, List.length_drop]
    omega
  | cons h rest ih =>
    rw [List.forall_mem_cons] at ends
    have later := ih ends.1 ends.2
    rw [rewrite, List.length_append]
    omega

end Hint

namespace Message

/-- Carrying out hints from the first to the last edits the line column by column. Marks change
nothing, and each hint cuts the line that the hints before it leave at two places in it or behind
it, never at one before its start. -/
theorem fixedLine_eq_columnEdit {m : Message} {c : Context} (valid : m.Valid)
    (around : m.context = some c) :
    ∃ line, m.focusLine = .ok line ∧ m.fixedLine = .ok (Hint.columnEdit m.hints 1 line) ∧
      { m with hints := Hint.withoutMarks m.hints }.fixedLine = m.fixedLine ∧
      ∀ front h back, m.hints = front ++ h :: back →
        let edited := Hint.applyForwards front 0 line
        let start : Int := h.span.index - 1 + (edited.length - line.length)
        m.fixedLine = .ok (Hint.applyForwards (h :: back) (edited.length - line.length) edited) ∧
          0 ≤ start ∧ 0 ≤ start + h.span.length := by
  obtain ⟨line, _, focus⟩ := exists_focusLine valid around
  have fixed := fixedLine_of_focusLine focus
  refine ⟨line, focus, ?_, ?_, ?_⟩
  · rw [fixed, Hint.applyForwards_eq_columnEdit line valid.hints_valid valid.hints_spaced]
  · have focusOthers : { m with hints := Hint.withoutMarks m.hints }.focusLine =
        .ok line := focus
    have validOthers : ∀ h ∈ Hint.withoutMarks m.hints, h.Valid :=
      fun h member => valid.hints_valid h (List.mem_filter.mp member).1
    have spacedOthers : Spaced (Hint.withoutMarks m.hints) := valid.hints_spaced.filter _
    rw [fixed, fixedLine_of_focusLine focusOthers,
      Hint.applyForwards_eq_columnEdit line validOthers spacedOthers,
      Hint.applyForwards_eq_columnEdit line valid.hints_valid valid.hints_spaced,
      Hint.columnEdit_withoutMarks]
  · intro front h back split
    have hintsValid := valid.hints_valid
    have spaced : Spaced (front ++ h :: back) := split ▸ valid.hints_spaced
    rw [split] at hintsValid
    rw [Spaced, List.pairwise_append] at spaced
    have counts : 1 ≤ h.span.index := hintsValid h (by simp)
    have before := Hint.applyForwards_eq line front
      (fun other member => hintsValid other (List.mem_append_left _ member)) spaced.1
    have size := Hint.length_le_length_rewrite line (Nat.zero_le h.start) fun other member =>
      Hint.resume_le_start (spaced.2.2 other member h List.mem_cons_self)
    rw [← before] at size
    have starts : h.start = h.span.index - 1 := rfl
    dsimp only
    refine ⟨?_, ?_, ?_⟩
    · rw [fixed, split, Hint.applyForwards_append, Int.zero_add]
    · omega
    · omega

/-- A message with a hint of each kind: a replacement of nothing, a removal that goes on behind the
end of the line, and two texts behind the end. -/
def edited : Message where
  file := "a.c".toList
  level := .error
  location := ⟨"t".toList, some 2, none⟩
  context := some ⟨1, [[], "abcdef".toList]⟩
  hints := [.mark ⟨1, 1⟩, .replace ⟨3, 0⟩ "XX".toList, .remove ⟨5, 4⟩, .insert 11 "Y".toList,
    .replace ⟨14, 2⟩ "Z".toList]

theorem fixedLine_edited :
    edited.Valid ∧ edited.context = some ⟨1, [[], "abcdef".toList]⟩ ∧
      edited.fixedLine = .ok "abXXcdYZ".toList ∧
      { edited with hints := Hint.withoutMarks edited.hints }.fixedLine = edited.fixedLine := by
  have valid : edited.Valid := by decide
  obtain ⟨line, focus, fixed, unmarked, _⟩ := fixedLine_eq_columnEdit valid rfl
  cases focus
  exact ⟨valid, rfl, fixed.trans rfl, unmarked⟩

end Message
end Diagnostics
