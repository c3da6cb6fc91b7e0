import Diagnostics.Proofs.Message.Columns

/-!
Hints inside the line. Where no hint edits behind the end of the line, carrying them out from the
last to the first gives what becomes of each column of the original line, one column after the
other: the texts that go before it, and its character unless a hint takes it away.
-/
namespace Diagnostics

namespace Hint

/-- A hint edits nothing behind a line of some length. A mark does so wherever it is. -/
def Within (length : Nat) : Hint → Prop
  | .mark _ => True
  | .insert column _ => column ≤ length + 1
  | .remove span => span.stop ≤ length + 1
  | .replace span _ => span.stop ≤ length + 1

instance (length : Nat) : (h : Hint) → Decidable (h.Within length)
  | .mark _ => isTrue trivial
  | .insert column _ => inferInstanceAs (Decidable (column ≤ length + 1))
  | .remove span => inferInstanceAs (Decidable (span.stop ≤ length + 1))
  | .replace span _ => inferInstanceAs (Decidable (span.stop ≤ length + 1))

/-- The hints that put a text before a column. -/
def textsAt (hints : List Hint) (column : Nat) : List Hint :=
  hints.filter fun h => h.kind.hasText && h.index == column

/-- What becomes of a column of a line. The column behind the last one has no character. -/
def editedColumn (hints : List Hint) (text : Text) (column : Nat) : Text :=
  (textsAt hints column).flatMap newText ++
    if hints.any fun h => h.cuts column then [] else text[column - 1]?.toList

theorem spares_of_within {h : Hint} {length : Nat} (valid : h.Valid) (within : h.Within length) :
    h.Spares length := by
  have counts : 1 ≤ h.span.index := valid
  cases h with
  | mark span => exact .inr ⟨rfl, rfl⟩
  | insert column text => exact .inl (Nat.sub_le_of_le_add within)
  | remove span =>
    left
    simp only [Within, Span.stop, resume, Hint.span] at within counts ⊢
    omega
  | replace span text =>
    left
    simp only [Within, Span.stop, resume, Hint.span] at within counts ⊢
    omega

theorem index_le_of_within {h : Hint} {length : Nat} (within : h.Within length)
    (carries : h.kind.hasText = true) : h.index ≤ length + 1 := by
  cases h with
  | mark span => cases carries
  | insert column text => exact within
  | remove span => cases carries
  | replace span text => exact Nat.le_trans (Nat.le_add_right _ _) within

/-- Inside the line, both directions do the same. -/
theorem applyBackwards_eq_columnEdit (line : Text) {hints : List Hint}
    (valid : ∀ h ∈ hints, h.Valid) (spaced : Message.Spaced hints)
    (within : ∀ h ∈ hints, h.Within line.length) :
    applyBackwards hints line = columnEdit hints 1 line := by
  have settled : Settled line.length hints := by
    refine spaced.imp_of_mem ?_
    intro h later member _ _
    exact .inl (spares_of_within (valid h member) (within h member))
  have same := (applyForwards_eq_iff line hints valid spaced).mpr
    (tails_eq_of_settled line.length hints settled)
  rw [← same, applyForwards_eq_columnEdit line valid spaced]

/-! ## One column after the other -/

section Columns
variable {hints : List Hint} (spaced : Message.Spaced hints)
include spaced

theorem textsAt_eq_toList (column : Nat) :
    textsAt hints column =
      (hints.find? fun h => h.kind.hasText && h.index == column).toList := by
  induction hints with
  | nil => rfl
  | cons h rest ih =>
    rw [Message.Spaced, List.pairwise_cons] at spaced
    by_cases here : (h.kind.hasText && h.index == column) = true
    · have alone : rest.filter (fun h => h.kind.hasText && h.index == column) = [] := by
        rw [List.filter_eq_nil_iff]
        intro later member
        have gap := spaced.1 later member
        simp only [Bool.and_eq_true, beq_iff_eq, Span.stop, index] at here gap ⊢
        omega
      simp [textsAt, here, alone]
    · simpa [textsAt, here] using ih spaced.2

theorem textAt_eq_flatMap (column : Nat) :
    textAt hints column = (textsAt hints column).flatMap newText := by
  rw [textAt, textsAt_eq_toList spaced]
  cases hints.find? fun h => h.kind.hasText && h.index == column with
  | none => rfl
  | some h => simp

/-- The walk over the columns that are left visits them one after the other, and the place behind
the last one. -/
theorem columnEdit_eq_flatMap {text : Text} (within : ∀ h ∈ hints, h.Within text.length)
    {done : Nat} (inside : done ≤ text.length) :
    columnEdit hints (done + 1) (text.drop done) =
      (List.range' (done + 1) (text.length - done + 1)).flatMap (editedColumn hints text) := by
  obtain ⟨left, size⟩ : ∃ left, text.length - done = left := ⟨_, rfl⟩
  rw [size]
  induction left generalizing done with
  | zero =>
    obtain rfl : done = text.length := by omega
    have last : hints.filter (fun h => h.kind.hasText && decide (text.length + 1 ≤ h.index)) =
        textsAt hints (text.length + 1) := by
      apply List.filter_congr
      intro h member
      cases carries : h.kind.hasText with
      | false => rfl
      | true =>
        have bound := index_le_of_within (within h member) carries
        rw [Bool.true_and, Bool.true_and, Bool.eq_iff_iff, decide_eq_true_iff, beq_iff_eq]
        omega
    rw [List.drop_length, columnEdit, last, Nat.zero_add, List.range'_one, List.flatMap_singleton,
      editedColumn, Nat.add_sub_cancel, List.getElem?_eq_none (Nat.le_refl _)]
    split <;> simp
  | succ left ih =>
    have more : done < text.length := by omega
    have here : editedColumn hints text (done + 1) =
        textAt hints (done + 1) ++ keptAt hints (done + 1) text[done] := by
      rw [editedColumn, textAt_eq_flatMap spaced, Nat.add_sub_cancel, List.getElem?_eq_getElem more]
      rfl
    rw [List.drop_eq_getElem_cons more, columnEdit, ih (by omega) (by omega), ← here]
    rfl

theorem filter_append_textsAt (last : Nat) :
    (hints.filter fun h => h.kind.hasText && decide (h.index ≤ last)) ++ textsAt hints (last + 1) =
      hints.filter fun h => h.kind.hasText && decide (h.index ≤ last + 1) := by
  induction hints with
  | nil => rfl
  | cons h rest ih =>
    rw [Message.Spaced, List.pairwise_cons] at spaced
    by_cases earlier : h.index ≤ last
    · have other : (h.index == last + 1) = false := by simpa using by omega
      have within : h.index ≤ last + 1 := by omega
      have others := ih spaced.2
      cases carries : h.kind.hasText <;>
        simpa [textsAt, List.filter_cons, carries, earlier, other, within] using others
    · have behind : ∀ other ∈ h :: rest, last < other.index := by
        rw [List.forall_mem_cons]
        refine ⟨by omega, fun later member => ?_⟩
        have gap := spaced.1 later member
        simp only [Span.stop, index] at gap earlier ⊢
        omega
      have none : ((h :: rest).filter fun h => h.kind.hasText && decide (h.index ≤ last)) = [] := by
        rw [List.filter_eq_nil_iff]
        intro other member
        have := behind other member
        simp only [Bool.and_eq_true, decide_eq_true_eq]
        omega
      rw [none, List.nil_append, textsAt]
      apply List.filter_congr
      intro other member
      have := behind other member
      rw [Bool.eq_iff_iff, Bool.and_eq_true, Bool.and_eq_true, decide_eq_true_iff, beq_iff_eq]
      exact and_congr_right fun _ => by omega

/-- Up to a column come the texts of the hints that start there or before, in their order. -/
theorem flatMap_textsAt (valid : ∀ h ∈ hints, h.Valid) (last : Nat) :
    (List.range' 1 last).flatMap (textsAt hints) =
      hints.filter fun h => h.kind.hasText && decide (h.index ≤ last) := by
  induction last with
  | zero =>
    symm
    rw [List.range'_zero, List.flatMap_nil, List.filter_eq_nil_iff]
    intro h member
    have counts : 1 ≤ h.index := valid h member
    simp only [Bool.and_eq_true, decide_eq_true_eq]
    omega
  | succ last ih =>
    rw [List.range'_1_concat, List.flatMap_append, List.flatMap_singleton, ih, Nat.add_comm 1 last,
      filter_append_textsAt spaced]

end Columns

end Hint

namespace Message

/-- If the hints of a message lie in its line, carrying them out from the last to the first edits
the line column by column, and each text that a hint carries comes in once. -/
theorem applyHints_eq_flatMap {m : Message} {c : Context} (valid : m.Valid)
    (around : m.context = some c) :
    ∃ line, m.focusLine = .ok line ∧
      ((∀ h ∈ m.hints, h.Within line.length) →
        m.applyHints =
          .ok ((List.range' 1 (line.length + 1)).flatMap (Hint.editedColumn m.hints line)) ∧
        (List.range' 1 (line.length + 1)).flatMap (Hint.textsAt m.hints) =
          m.hints.filter fun h => h.kind.hasText) := by
  obtain ⟨line, _, focus⟩ := exists_focusLine valid around
  refine ⟨line, focus, fun within => ⟨?_, ?_⟩⟩
  · rw [applyHints_of_focusLine around focus,
      Hint.applyBackwards_eq_columnEdit line valid.hints_valid valid.hints_spaced within]
    exact congrArg Except.ok
      (Hint.columnEdit_eq_flatMap valid.hints_spaced within (Nat.zero_le line.length))
  · rw [Hint.flatMap_textsAt valid.hints_spaced valid.hints_valid]
    apply List.filter_congr
    intro h member
    cases carries : h.kind.hasText with
    | false => rfl
    | true => exact decide_eq_true (Hint.index_le_of_within (within h member) carries)

/-- A message with hints of all kinds at both ends of its line, and a mark behind it. -/
def bracketed : Message where
  file := "a.c".toList
  level := .error
  location := ⟨"t".toList, some 2, none⟩
  context := some ⟨1, [[], "abcdef".toList]⟩
  hints := [.insert 1 "<".toList, .remove ⟨3, 1⟩, .replace ⟨5, 1⟩ "XY".toList, .insert 7 ">".toList,
    .mark ⟨9, 3⟩]

theorem applyHints_bracketed :
    bracketed.Valid ∧ (∀ h ∈ bracketed.hints, h.Within 6) ∧
      bracketed.applyHints = .ok "<abdXYf>".toList ∧
      (List.range' 1 7).flatMap (Hint.textsAt bracketed.hints) =
        [.insert 1 "<".toList, .replace ⟨5, 1⟩ "XY".toList, .insert 7 ">".toList] := by
  have valid : bracketed.Valid := by decide
  have within : ∀ h ∈ bracketed.hints, h.Within 6 := by decide
  obtain ⟨line, focus, edited⟩ := applyHints_eq_flatMap valid rfl
  cases focus
  obtain ⟨applied, texts⟩ := edited within
  exact ⟨valid, within, applied.trans rfl, texts.trans rfl⟩

end Message
end Diagnostics
