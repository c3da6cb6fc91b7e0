import Diagnostics.Proofs.Text.Exchange
import Diagnostics.Text.Encoding

/-!
Texts with a line feed at the end of each line. A text that is cut at its breaks and put together
again has line feeds for all pairs of carriage return and line feed. Carriage returns that stand alone
are no breaks, so they are left by this and are lost only where they are taken for line ends too.
-/
namespace Diagnostics.Text
variable {text rest : Text} {c : Char}

/-- A carriage return stands alone: no line feed follows it. -/
def LoneReturn (text : Text) : Prop :=
  ∃ front rest, text = front ++ '\r' :: rest ∧ rest.head? ≠ some '\n'

theorem loneReturn_cons :
    LoneReturn (c :: rest) ↔ (c = '\r' ∧ rest.head? ≠ some '\n') ∨ LoneReturn rest := by
  constructor
  · rintro ⟨front, behind, whole, alone⟩
    cases front with
    | nil =>
      obtain ⟨rfl, rfl⟩ := List.cons.inj whole
      exact .inl ⟨rfl, alone⟩
    | cons d front => exact .inr ⟨front, behind, (List.cons.inj whole).2, alone⟩
  · rintro (⟨rfl, alone⟩ | ⟨front, behind, rfl, alone⟩)
    · exact ⟨[], rest, rfl, alone⟩
    · exact ⟨c :: front, behind, rfl, alone⟩

theorem not_loneReturn_of_not_mem (absent : '\r' ∉ text) : ¬ LoneReturn text := by
  rintro ⟨front, behind, rfl, _⟩
  exact absent (by simp)

/-! ## Pairs become line feeds -/

theorem feedsOnly_cons (noPair : c = '\r' → rest.head? ≠ some '\n') :
    feedsOnly (c :: rest) = c :: feedsOnly rest := by
  rw [feedsOnly]
  rintro tail rfl rfl
  exact noPair rfl rfl

theorem feedsOnly_of_not_mem (absent : '\r' ∉ text) : feedsOnly text = text := by
  induction text with
  | nil => rfl
  | cons c rest ih =>
    rw [List.mem_cons, not_or] at absent
    rw [feedsOnly_cons fun same => absurd same.symm absent.1, ih absent.2]

theorem feedsOnly_sublist (text : Text) : (feedsOnly text).Sublist text := by
  fun_induction feedsOnly text with
  | case1 => exact .slnil
  | case2 rest ih => exact (ih.cons_cons '\n').cons '\r'
  | case3 c rest _ ih => exact ih.cons_cons c

/-- A stretch without line feeds was there before the line ends were made plain. -/
theorem prefix_of_prefix_feedsOnly {run : Text} (noFeed : '\n' ∉ run)
    (front : run <+: feedsOnly text) : run <+: text := by
  fun_induction feedsOnly text generalizing run with
  | case1 => exact front
  | case2 rest ih =>
    rcases List.prefix_cons_iff.mp front with rfl | ⟨run, rfl, -⟩
    · exact List.nil_prefix
    · exact absurd List.mem_cons_self noFeed
  | case3 c rest _ ih =>
    rcases List.prefix_cons_iff.mp front with rfl | ⟨run, rfl, later⟩
    · exact List.nil_prefix
    · rw [List.mem_cons, not_or] at noFeed
      exact List.cons_prefix_cons.mpr ⟨rfl, ih noFeed.2 later⟩

theorem infix_of_infix_feedsOnly {run : Text} (noFeed : '\n' ∉ run)
    (within : run <:+: feedsOnly text) : run <:+: text := by
  fun_induction feedsOnly text with
  | case1 => exact within
  | case2 rest ih =>
    rcases List.infix_cons_iff.mp within with front | later
    · rcases List.prefix_cons_iff.mp front with rfl | ⟨run, rfl, -⟩
      · exact List.nil_infix
      · exact absurd List.mem_cons_self noFeed
    · exact ((ih later).trans (List.suffix_cons '\n' rest).isInfix).trans (List.suffix_cons '\r' _).isInfix
  | case3 c rest noPair ih =>
    rcases List.infix_cons_iff.mp within with front | later
    · refine (prefix_of_prefix_feedsOnly noFeed ?_).isInfix
      rwa [feedsOnly]
      exact noPair
    · exact (ih later).trans (List.suffix_cons c rest).isInfix

theorem joinLines_onFirst (c : Char) (pieces : List Text) :
    joinLines (onFirst c pieces) = c :: joinLines pieces := by
  cases pieces with
  | nil => rfl
  | cons piece rest => cases rest <;> rfl

/-- A text that is cut at its breaks is put together again with line feeds. -/
theorem joinLines_splitBreaks (text : Text) : joinLines (splitBreaks text) = feedsOnly text := by
  fun_induction splitBreaks text with
  | case1 => rfl
  | case2 rest ih => rw [joinLines_cons (splitBreaks_ne_nil rest), ih, feedsOnly, List.nil_append]
  | case3 rest ih =>
    have other : '\n' ≠ '\r' := by decide
    rw [joinLines_cons (splitBreaks_ne_nil rest), ih, feedsOnly_cons fun same => absurd same other,
      List.nil_append]
  | case4 c rest noPair _ ih =>
    rw [joinLines_onFirst, ih, feedsOnly_cons]
    intro same head
    obtain ⟨tail, rfl⟩ := List.head?_eq_some_iff.mp head
    exact noPair tail same rfl

theorem fileLines_eq_nil (none : fileLines text = []) : text = [] := by
  obtain ⟨front, last, rfl, noFeed⟩ := exists_lines text
  rw [fileLines, splitBreaks_joinLines_concat noFeed] at none
  by_cases empty : last = []
  · obtain rfl : front = [] := by simpa [empty] using none
    exact empty
  · simp [empty] at none

/-- The lines of a file make up the file, with a line feed behind the last one if it had one. -/
theorem joinLines_fileLines (text : Text) :
    joinLines (fileLines text) ++ (if endsIn text ['\n'] then ['\n'] else []) = feedsOnly text := by
  rw [← joinLines_splitBreaks]
  by_cases none : fileLines text = []
  · obtain rfl := fileLines_eq_nil none
    rfl
  · rw [splitBreaks_eq_fileLines none]
    split
    · rw [joinLines_concat none]
    · rw [List.append_nil, List.append_nil]

theorem endsIn_feedsOnly (text : Text) : endsIn (feedsOnly text) ['\n'] = endsIn text ['\n'] := by
  obtain ⟨front, last, rfl, noFeed⟩ := exists_lines text
  rw [← joinLines_splitBreaks, Bool.eq_iff_iff, endsIn_feed_iff, endsIn_feed_iff,
    getLast?_joinLines_iff noFeed, getLast?_joinLines_iff fun _ => feed_not_mem_of_mem_splitBreaks,
    splitBreaks_joinLines_concat noFeed]
  simp [EndEmpty]

/-! ## Cutting and putting together -/

/-- Cutting a text into its lines and putting lines together undo each other, up to the pairs of
carriage return and line feed. -/
theorem joinLines_splitBreaks_inverse (text : Text) (lines : List Text) :
    joinLines (fileLines text) ++ (if endsIn text ['\n'] then ['\n'] else []) = feedsOnly text ∧
      (splitBreaks (joinLines lines) = lines ↔
        lines ≠ [] ∧ (∀ line ∈ lines, '\n' ∉ line) ∧
          ∀ line ∈ lines.dropLast, line.getLast? ≠ some '\r') :=
  ⟨joinLines_fileLines text, splitBreaks_joinLines_iff⟩

/-! ## Carriage returns -/

theorem mem_joinLines {lines : List Text} {line : Text} (among : line ∈ lines) (member : c ∈ line) :
    c ∈ joinLines lines := by
  induction lines with
  | nil => cases among
  | cons first lines ih =>
    cases lines with
    | nil => exact List.mem_singleton.mp among ▸ member
    | cons next lines =>
      rw [joinLines, List.mem_append, List.mem_cons]
      rcases List.mem_cons.mp among with rfl | later
      · exact .inl member
      · exact .inr (.inr (ih later))

theorem return_mem_feedsOnly_iff : '\r' ∈ feedsOnly text ↔ LoneReturn text := by
  fun_induction feedsOnly text with
  | case1 => simp [LoneReturn]
  | case2 rest ih => simp [loneReturn_cons, ih]
  | case3 c rest noPair ih =>
    have alone : c = '\r' → rest.head? ≠ some '\n' := by
      intro same head
      obtain ⟨tail, rfl⟩ := List.head?_eq_some_iff.mp head
      exact noPair tail same rfl
    rw [List.mem_cons, loneReturn_cons, ih, eq_comm, and_iff_left_of_imp alone]

instance (text : Text) : Decidable (LoneReturn text) :=
  decidable_of_iff _ return_mem_feedsOnly_iff

theorem return_not_mem_plainLineEnds (text : Text) : '\r' ∉ plainLineEnds text := by
  fun_induction plainLineEnds text with
  | case1 => exact List.not_mem_nil
  | case2 rest ih => simp [ih]
  | case3 rest _ ih => simp [ih]
  | case4 c rest _ other ih => simp [ih, Ne.symm other]

/-- The two ways to make line ends plain differ exactly where carriage returns stand alone. -/
theorem plainLineEnds_eq_feedsOnly_iff : plainLineEnds text = feedsOnly text ↔ ¬ LoneReturn text := by
  constructor
  · intro same
    rw [← return_mem_feedsOnly_iff, ← same]
    exact return_not_mem_plainLineEnds text
  · intro paired
    fun_induction plainLineEnds text with
    | case1 => rfl
    | case2 rest ih =>
      simp only [loneReturn_cons, not_or] at paired
      rw [ih paired.2.2, feedsOnly]
    | case3 rest noPair ih =>
      rw [loneReturn_cons, not_or] at paired
      obtain ⟨tail, rfl⟩ := List.head?_eq_some_iff.mp (not_not.mp fun alone => paired.1 ⟨rfl, alone⟩)
      exact absurd rfl (noPair tail)
    | case4 c rest _ other ih =>
      rw [loneReturn_cons, not_or] at paired
      rw [ih paired.2, feedsOnly_cons fun same => absurd same other]

theorem plainLineEnds_of_no_return (absent : '\r' ∉ text) : plainLineEnds text = text := by
  rw [plainLineEnds_eq_feedsOnly_iff.mpr (not_loneReturn_of_not_mem absent), feedsOnly_of_not_mem absent]

/-! ## Texts whose carriage returns belong to breaks -/

section Paired
variable (paired : ¬ LoneReturn text)
include paired

theorem plain_of_mem_splitBreaks : ∀ piece ∈ splitBreaks text, Plain piece := by
  intro piece member
  refine plain_iff.mpr ⟨feed_not_mem_of_mem_splitBreaks member, fun inside => paired ?_⟩
  rw [← return_mem_feedsOnly_iff, ← joinLines_splitBreaks]
  exact mem_joinLines member inside

theorem splitBreaks_feedsOnly : splitBreaks (feedsOnly text) = splitBreaks text := by
  rw [← joinLines_splitBreaks]
  exact splitBreaks_joinLines (splitBreaks_ne_nil text) (fun _ => feed_not_mem_of_mem_splitBreaks)
    fun piece member =>
      getLast?_ne_return_of_plain (plain_of_mem_splitBreaks paired piece (List.dropLast_subset _ member))

theorem fileLines_feedsOnly : fileLines (feedsOnly text) = fileLines text := by
  rw [fileLines, splitBreaks_feedsOnly paired, fileLines]

end Paired
end Diagnostics.Text
