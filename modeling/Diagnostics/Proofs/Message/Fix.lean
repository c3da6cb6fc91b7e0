import Diagnostics.Proofs.Hint.Tail

/-!
The line of a message with its hints carried out. The two directions give the same text exactly if
they leave the same text behind the end of the line; whatever the texts of the hints are, they do so
exactly if no hint that edits behind the end of the line stands before one with a text.
-/
namespace Diagnostics.Message

/-- The line that a message is about is a line of its context. -/
theorem exists_focusLine {m : Message} {c : Context} (valid : m.Valid) (around : m.context = some c) :
    ∃ line, c.lines[m.line - c.start]? = some line ∧ m.focusLine = .ok line := by
  obtain ⟨_, first, last⟩ := valid.context_around c around
  have inside : m.line - c.start < c.lines.length := by omega
  have index : (m.line : Int) - c.start = ((m.line - c.start : Nat) : Int) := by omega
  refine ⟨c.lines[m.line - c.start], List.getElem?_eq_getElem inside, ?_⟩
  simp only [focusLine, around, Context.lineAt, index, Text.itemAt_natCast inside]

theorem fixedLine_of_focusLine {m : Message} {line : Text} (focus : m.focusLine = .ok line) :
    m.fixedLine = .ok (Hint.applyForwards m.hints 0 line) := by
  rw [fixedLine, focus]
  rfl

theorem applyHints_of_focusLine {m : Message} {c : Context} {line : Text}
    (around : m.context = some c) (focus : m.focusLine = .ok line) :
    m.applyHints = .ok (Hint.applyBackwards m.hints line) := by
  rw [applyHints, around, focus]
  rfl

theorem hints_valid_of_sameShapes {hints others : List Hint} (same : Hint.SameShapes hints others)
    (valid : ∀ h ∈ hints, h.Valid) : ∀ h ∈ others, h.Valid := by
  intro other member
  have shape : other.shape ∈ hints.map Hint.shape := same ▸ List.mem_map_of_mem member
  obtain ⟨h, hmember, hshape⟩ := List.mem_map.mp shape
  have spans : h.span = other.span := congrArg Prod.snd hshape
  have := valid h hmember
  rw [Hint.Valid, Hint.index] at this ⊢
  rwa [← spans]

theorem spaced_of_sameShapes {hints others : List Hint} (same : Hint.SameShapes hints others)
    (spaced : Spaced hints) : Spaced others := by
  refine Hint.pairwise_of_sameShapes (@fun h later other another first second => ?_) same spaced
  have spans : h.span = other.span := congrArg Prod.snd first
  have spansLater : later.span = another.span := congrArg Prod.snd second
  rw [Hint.index, Hint.index, spans, spansLater]
  exact id

/-- The condition under which both directions agree, for a message as it is, and for its hints with
any texts. -/
theorem fixedLine_eq_applyHints_iff {m : Message} {c : Context} (valid : m.Valid)
    (around : m.context = some c) :
    ∃ line fixed applied, m.focusLine = .ok line ∧ m.fixedLine = .ok fixed ∧
      m.applyHints = .ok applied ∧
      (fixed = applied ↔
        Hint.tailForwards line.length m.hints = Hint.tailBackwards line.length m.hints) ∧
      ((∀ others, Hint.SameShapes m.hints others →
          { m with hints := others }.fixedLine = { m with hints := others }.applyHints) ↔
        Hint.Settled line.length m.hints) := by
  obtain ⟨line, _, focus⟩ := exists_focusLine valid around
  refine ⟨line, _, _, focus, fixedLine_of_focusLine focus, applyHints_of_focusLine around focus,
    Hint.applyForwards_eq_iff line m.hints valid.hints_valid valid.hints_spaced, ?_⟩
  rw [← Hint.settled_iff line.length m.hints valid.hints_spaced]
  refine forall_congr' fun others => forall_congr' fun same => ?_
  -- The line of a message does not depend on its hints.
  have focusOthers : { m with hints := others }.focusLine = .ok line := focus
  rw [fixedLine_of_focusLine focusOthers,
    applyHints_of_focusLine (m := { m with hints := others }) around focusOthers, Except.ok.injEq]
  exact Hint.applyForwards_eq_iff line others (hints_valid_of_sameShapes same valid.hints_valid)
    (spaced_of_sameShapes same valid.hints_spaced)

/-- A message with two texts to insert behind the end of its line. -/
def twoBeyondEnd : Message where
  file := "a.c".toList
  level := .error
  location := ⟨"t".toList, none, none⟩
  context := some ⟨1, ["ab".toList]⟩
  hints := [.insert 4 "X".toList, .insert 6 "Y".toList]

/-- Carried out from the last to the first, the first text goes behind the second one. -/
theorem twoBeyondEnd_directions :
    twoBeyondEnd.Valid ∧ twoBeyondEnd.context = some ⟨1, ["ab".toList]⟩ ∧
      twoBeyondEnd.fixedLine = .ok "abXY".toList ∧ twoBeyondEnd.applyHints = .ok "abYX".toList ∧
      ∃ line fixed applied, twoBeyondEnd.focusLine = .ok line ∧
        twoBeyondEnd.fixedLine = .ok fixed ∧ twoBeyondEnd.applyHints = .ok applied ∧
        (fixed = applied ↔ Hint.tailForwards line.length twoBeyondEnd.hints =
          Hint.tailBackwards line.length twoBeyondEnd.hints) ∧
        ((∀ others, Hint.SameShapes twoBeyondEnd.hints others →
            { twoBeyondEnd with hints := others }.fixedLine =
              { twoBeyondEnd with hints := others }.applyHints) ↔
          Hint.Settled line.length twoBeyondEnd.hints) :=
  ⟨by decide, rfl, rfl, rfl, fixedLine_eq_applyHints_iff (by decide) rfl⟩

end Diagnostics.Message
