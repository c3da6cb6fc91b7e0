import Diagnostics.Proofs.Check.Success
import Diagnostics.Proofs.Patch.Header

/-!
The hunks of a patch. Lines are cut at the headers among them, so they are those of hunks exactly if
the first one is a header, and then in one way. Of a header only the numbers of its old side matter.
-/
namespace Diagnostics.Patch

/-! ## Numbers of a hunk -/

namespace HunkHeader

structure Readable (h : HunkHeader) : Prop where
  start : h.start.length ≤ Number.digitLimit
  count : ∀ count ∈ h.count, count.length ≤ Number.digitLimit

/-- The number of old lines. One is meant where no count is given. -/
def lineCount (h : HunkHeader) : Nat :=
  match h.count with
  | none => 1
  | some count => Number.ofDigitText count

def toHunk (h : HunkHeader) (rows : List Text) : Hunk :=
  ⟨Number.ofDigitText h.start, h.lineCount, rows⟩

end HunkHeader

theorem number_eq_ok {digits : Text} (short : digits.length ≤ Number.digitLimit) :
    number digits = .ok (Number.ofDigitText digits) := by
  rw [number, Number.readDigits, if_pos short]

theorem hunk_eq_ok {h : HunkHeader} (readable : h.Readable) (rows : List Text) :
    hunk h rows = .ok (h.toHunk rows) := by
  obtain ⟨start, count⟩ := h
  cases count with
  | none => simp only [hunk, number_eq_ok readable.start]; rfl
  | some count => simp only [hunk, number_eq_ok readable.start, number_eq_ok (readable.count _ rfl)]; rfl

theorem hunksOf_eq_ok {entries : List (HunkHeader × List Text)}
    (readable : ∀ entry ∈ entries, entry.1.Readable) :
    hunksOf entries = .ok (entries.map fun entry => entry.1.toHunk entry.2) := by
  induction entries with
  | nil => rfl
  | cons entry rest ih =>
    rw [List.forall_mem_cons] at readable
    simp only [hunksOf, hunk_eq_ok readable.1, ih readable.2]
    rfl

/-! ## Lines as hunks -/

def IsHeader (line : Text) : Prop := ∃ old, Announces line old

theorem header?_eq_none_iff {line : Text} : header? line = none ↔ ¬ IsHeader line := by
  simp only [IsHeader, ← header?_eq_some_iff, not_exists, Option.eq_none_iff_forall_ne_some, ne_eq]

theorem Announces.readable {line : Text} {old : HunkHeader} (announces : Announces line old)
    (short : line.length ≤ Number.digitLimit) : old.Readable := by
  obtain ⟨new, rest, _, _, rfl⟩ := announces
  simp only [List.length_append] at short
  obtain ⟨start, count⟩ := old
  cases count with
  | none =>
    rw [HunkHeader.text] at short
    refine ⟨by dsimp only; omega, ?_⟩
    intro count member
    cases member
  | some count =>
    rw [HunkHeader.text, List.length_append, List.length_cons] at short
    refine ⟨by dsimp only; omega, ?_⟩
    intro other member
    cases member
    omega

/-- Lines are those of some hunks: a header each, and behind it rows that are no headers. -/
inductive Consists : List Text → List Hunk → Prop where
  | nil : Consists [] []
  | cons {line : Text} {old : HunkHeader} {rows rest : List Text} {others : List Hunk} :
      Announces line old → (∀ row ∈ rows, ¬ IsHeader row) → Consists rest others →
      Consists (line :: (rows ++ rest)) (old.toHunk rows :: others)

theorem group_append {rows : List Text} (bare : ∀ row ∈ rows, header? row = none)
    (rest : List Text) : group (rows ++ rest) = (rows ++ (group rest).1, (group rest).2) := by
  induction rows with
  | nil => rfl
  | cons row rows ih =>
    rw [List.forall_mem_cons] at bare
    simp only [List.cons_append, group, bare.1, ih bare.2]

theorem group_of_consists {lines : List Text} {found : List Hunk} (consists : Consists lines found) :
    ∃ entries, group lines = ([], entries) ∧ found = entries.map fun entry => entry.1.toHunk entry.2 := by
  induction consists with
  | nil => exact ⟨[], rfl, rfl⟩
  | @cons line old rows rest others announces bare _ ih =>
    obtain ⟨entries, grouped, rfl⟩ := ih
    have bare := fun row member => header?_eq_none_iff.mpr (bare row member)
    refine ⟨(old, rows) :: entries, ?_, rfl⟩
    simp only [group, header?_eq_some_iff.mpr announces, group_append bare, grouped, List.append_nil]

theorem Consists.unique {lines : List Text} {found others : List Hunk} (consists : Consists lines found)
    (also : Consists lines others) : found = others := by
  obtain ⟨entries, grouped, rfl⟩ := group_of_consists consists
  obtain ⟨entries, again, rfl⟩ := group_of_consists also
  rw [grouped] at again
  cases again
  rfl

/-- The rows in front of the first header are not part of any hunk. -/
theorem consists_of_group (lines : List Text) :
    (∀ row ∈ (group lines).1, ¬ IsHeader row) ∧
      (∀ entry ∈ (group lines).2, ∃ line ∈ lines, Announces line entry.1) ∧
      ∃ rest, lines = (group lines).1 ++ rest ∧
        Consists rest ((group lines).2.map fun entry => entry.1.toHunk entry.2) := by
  induction lines with
  | nil => exact ⟨nofun, nofun, [], rfl, .nil⟩
  | cons line lines ih =>
    obtain ⟨bare, announced, rest, cut, consists⟩ := ih
    have further : ∀ entry ∈ (group lines).2, ∃ other ∈ line :: lines, Announces other entry.1 := by
      intro entry member
      obtain ⟨other, among, announces⟩ := announced entry member
      exact ⟨other, List.mem_cons_of_mem _ among, announces⟩
    cases read : header? line with
    | none =>
      have grouped : group (line :: lines) = (line :: (group lines).1, (group lines).2) := by
        rw [group, read]
      rw [grouped]
      refine ⟨?_, further, rest, congrArg (line :: ·) cut, consists⟩
      exact List.forall_mem_cons.mpr ⟨header?_eq_none_iff.mp read, bare⟩
    | some old =>
      have grouped : group (line :: lines) = ([], (old, (group lines).1) :: (group lines).2) := by
        rw [group, read]
      have announces := header?_eq_some_iff.mp read
      have whole := Consists.cons announces bare consists
      rw [← cut] at whole
      rw [grouped]
      refine ⟨nofun, ?_, line :: lines, rfl, whole⟩
      exact List.forall_mem_cons.mpr ⟨⟨line, List.mem_cons_self, announces⟩, further⟩

theorem exists_consists_iff {lines : List Text} :
    (∃ found, found ≠ [] ∧ Consists lines found) ↔ ∃ line, lines.head? = some line ∧ IsHeader line := by
  constructor
  · rintro ⟨_, some, consists⟩
    cases consists with
    | nil => exact absurd rfl some
    | cons announces _ _ => exact ⟨_, rfl, _, announces⟩
  · rintro ⟨line, first, old, announces⟩
    cases lines with
    | nil => cases first
    | cons head lines =>
      cases first
      obtain ⟨bare, _, rest, cut, consists⟩ := consists_of_group lines
      have whole := Consists.cons announces bare consists
      rw [← cut] at whole
      exact ⟨_, List.cons_ne_nil _ _, whole⟩

/-! ## The hunks of a patch -/

/-- Two lines are the same, or headers with the same numbers on their old sides. -/
def SameOld (a b : Text) : Prop := a = b ∨ ∃ old, Announces a old ∧ Announces b old

theorem SameOld.header? {a b : Text} (same : SameOld a b) :
    Patch.header? a = Patch.header? b ∧ (Patch.header? a = none → a = b) := by
  rcases same with rfl | ⟨old, first, second⟩
  · exact ⟨rfl, fun _ => rfl⟩
  · rw [header?_eq_some_iff.mpr first, header?_eq_some_iff.mpr second]
    exact ⟨rfl, nofun⟩

theorem group_eq_of_sameOld {lines others : List Text} (same : List.Forall₂ SameOld lines others) :
    group lines = group others := by
  induction same with
  | nil => rfl
  | cons first _ ih =>
    obtain ⟨read, equal⟩ := first.header?
    rw [group, group, ih, ← read]
    cases found : Patch.header? _ with
    | none => rw [equal found]
    | some old => rfl

section Patches
variable {patch : Text}

theorem hunks_of_consists {found : List Hunk} (some : found ≠ [])
    (readable : ∀ line ∈ (Text.fileLines patch).drop 2, ∀ old, Announces line old → old.Readable)
    (consists : Consists ((Text.fileLines patch).drop 2) found) : hunks patch = .ok found := by
  obtain ⟨entries, grouped, rfl⟩ := group_of_consists consists
  obtain ⟨_, announced, _⟩ := consists_of_group ((Text.fileLines patch).drop 2)
  rw [grouped] at announced
  have ready : ∀ entry ∈ entries, entry.1.Readable := fun entry member => by
    obtain ⟨line, among, announces⟩ := announced entry member
    exact readable line among entry.1 announces
  rw [hunks, grouped]
  cases entries with
  | nil => exact absurd rfl some
  | cons entry entries => exact hunksOf_eq_ok ready

theorem hunks_refused (none : ¬ ∃ found, found ≠ [] ∧ Consists ((Text.fileLines patch).drop 2) found) :
    ∃ e, hunks patch = .error (.patch e) := by
  rw [hunks]
  split
  · exact ⟨_, rfl⟩
  · exact ⟨_, rfl⟩
  · rename_i entries some grouped
    obtain ⟨_, _, rest, cut, consists⟩ := consists_of_group ((Text.fileLines patch).drop 2)
    rw [grouped, List.nil_append] at cut
    rw [grouped, ← cut] at consists
    refine absurd ⟨_, ?_, consists⟩ none
    exact fun empty => some (List.map_eq_nil_iff.mp empty)

end Patches
end Diagnostics.Patch
