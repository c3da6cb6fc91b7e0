import Diagnostics.Message.Basic
import Mathlib.Data.List.Pairwise
import Mathlib.Data.List.Sort

/-!
Hints in order. Sorting keeps the hints and puts them in ascending order, and there hints that do
not touch each other are spaced: each starts behind the column after the one before it.
-/
namespace Diagnostics.Hint

/-- One hint starts no later than another one. -/
def Precedes (h later : Hint) : Prop := h.index ≤ later.index

instance : DecidableRel Precedes := fun h later => Nat.decLe h.index later.index

instance : IsTrans Hint Precedes := ⟨fun _ _ _ => Nat.le_trans⟩

instance : Std.Total Precedes := ⟨fun h later => Nat.le_total h.index later.index⟩

theorem insertSorted_eq (h : Hint) (hints : List Hint) :
    insertSorted h hints = hints.orderedInsert Precedes h := by
  induction hints with
  | nil => rfl
  | cons other rest ih =>
    rw [insertSorted, List.orderedInsert_cons, ih]
    rfl

theorem sort_eq_insertionSort (hints : List Hint) : sort hints = hints.insertionSort Precedes := by
  induction hints with
  | nil => rfl
  | cons h rest ih => rw [sort, ih, insertSorted_eq, List.insertionSort_cons]

theorem sort_perm (hints : List Hint) : (sort hints).Perm hints := by
  rw [sort_eq_insertionSort]
  exact List.perm_insertionSort Precedes hints

theorem mem_sort {h : Hint} {hints : List Hint} : h ∈ sort hints ↔ h ∈ hints :=
  (sort_perm hints).mem_iff

theorem sort_ascending (hints : List Hint) : (sort hints).Pairwise Precedes := by
  rw [sort_eq_insertionSort]
  exact List.pairwise_insertionSort Precedes hints

theorem sort_of_ascending {hints : List Hint} (ascending : hints.Pairwise Precedes) :
    sort hints = hints := by
  rw [sort_eq_insertionSort]
  exact ascending.insertionSort_eq

/-- Behind a hint that starts no later, not to touch it is to leave a gap. -/
theorem touches_eq_false_iff {h later : Hint} (order : h.Precedes later) :
    h.span.touches later.span = false ↔ h.span.stop < later.index := by
  rw [← Bool.not_eq_true, Span.touches_iff]
  simp only [Precedes, index, Span.stop] at order ⊢
  omega

theorem spaced_iff_apart {hints : List Hint} (ascending : hints.Pairwise Precedes) :
    Message.Spaced hints ↔ Apart hints := by
  constructor
  · intro spaced
    exact (ascending.and spaced).imp fun ⟨order, gap⟩ => (touches_eq_false_iff order).mpr gap
  · intro apart
    exact (ascending.and apart).imp fun ⟨order, free⟩ => (touches_eq_false_iff order).mp free

theorem ascending_of_spaced {hints : List Hint} (spaced : Message.Spaced hints) :
    hints.Pairwise Precedes :=
  spaced.imp fun gap => Nat.le_trans (Nat.le_add_right _ _) (Nat.le_of_lt gap)

/-! ## Hints listed in another order -/

instance : Std.Symm fun h other : Hint => h.span.touches other.span = false where
  symm h other free := by rwa [Span.touches_comm]

theorem apart_of_perm {hints others : List Hint} (same : hints.Perm others) :
    Apart hints ↔ Apart others := by
  apply same.pairwise_iff
  intro h other free
  rwa [Span.touches_comm]

theorem apart_sort {hints : List Hint} : Apart (sort hints) ↔ Apart hints :=
  apart_of_perm (sort_perm hints)

/-- A hint that is apart from others is alone in its first column. -/
theorem eq_of_apart {hints : List Hint} (apart : Apart hints) {h other : Hint} (hmem : h ∈ hints)
    (omem : other ∈ hints) (same : h.index = other.index) : h = other := by
  by_contra different
  have free := List.Pairwise.forall apart hmem omem different
  have gap := (touches_eq_false_iff (Nat.le_of_eq same)).mp free
  simp only [index, Span.stop] at same gap
  omega

theorem eq_of_covers {hints : List Hint} (apart : Apart hints) {h other : Hint} (hmem : h ∈ hints)
    (omem : other ∈ hints) {column : Nat} (covered : h.span.covers column = true)
    (also : other.span.covers column = true) : h = other := by
  by_contra different
  have free := List.Pairwise.forall apart hmem omem different
  rw [Span.covers, decide_eq_true_iff] at covered also
  rw [← Bool.not_eq_true, Span.touches_iff] at free
  exact free ⟨by omega, by omega⟩

/-- So the order in which hints are listed does not matter once they are sorted. -/
theorem sort_eq_of_perm {hints others : List Hint} (apart : Apart hints)
    (same : hints.Perm others) : sort hints = sort others := by
  have sorted : (sort hints).Perm (sort others) :=
    (sort_perm hints).trans (same.trans (sort_perm others).symm)
  apply List.Perm.eq_of_pairwise _ (sort_ascending hints) (sort_ascending others) sorted
  intro h other hmem omem first second
  apply eq_of_apart apart (mem_sort.mp hmem)
  · exact same.mem_iff.mpr (mem_sort.mp omem)
  · exact Nat.le_antisymm first second

end Diagnostics.Hint
