import Diagnostics.Proofs.Text.Lines

/-!
Texts with one line exchanged, and what their lines are afterwards. A text is split anew after the
exchange, which may take carriage returns from the ends of its other lines and may end the file one
line earlier, but a line without breaks stays in its place.
-/
namespace Diagnostics.Text
variable {text fixed line : Text} {lines : List Text} {i k : Nat}

theorem exists_lines (text : Text) : ∃ front last, text = joinLines (front ++ [last]) ∧
    ∀ line ∈ front ++ [last], '\n' ∉ line := by
  induction text with
  | nil => exact ⟨[], [], rfl, by simp⟩
  | cons c rest ih =>
    obtain ⟨front, last, rfl, noFeed⟩ := ih
    by_cases feed : c = '\n'
    · subst feed
      refine ⟨[] :: front, last, ?_, List.forall_mem_cons.mpr ⟨List.not_mem_nil, noFeed⟩⟩
      rw [List.cons_append, joinLines_cons (by simp), List.nil_append]
    · cases front with
      | nil => exact ⟨[], c :: last, rfl, by simpa [Ne.symm feed] using noFeed⟩
      | cons line front =>
        rw [List.cons_append, List.forall_mem_cons] at noFeed
        refine ⟨(c :: line) :: front, last, ?_, ?_⟩
        · rw [List.cons_append, List.cons_append, joinLines_cons (by simp), joinLines_cons (by simp),
            List.cons_append]
        · exact List.forall_mem_cons.mpr ⟨by simpa [Ne.symm feed] using noFeed.1, noFeed.2⟩

/-! ## Lines of a file and pieces of a text -/

theorem splitBreaks_eq_fileLines (some : fileLines text ≠ []) :
    splitBreaks text = fileLines text ++ (if endsIn text ['\n'] then [[]] else []) := by
  obtain ⟨front, last, rfl, noFeed⟩ := exists_lines text
  have ends := endsIn_feed_iff.trans (getLast?_joinLines_iff noFeed)
  have split := splitBreaks_joinLines_concat noFeed
  rw [fileLines, split] at some ⊢
  by_cases empty : last = []
  · subst empty
    have several : front ≠ [] := by
      rintro rfl
      simp at some
    have ended : EndEmpty (front ++ [[]]) := by
      simpa [EndEmpty, Nat.one_le_iff_ne_zero] using several
    simp [ends.mpr ended]
  · have open_ended : ¬ EndEmpty (front ++ [last]) := by simp [EndEmpty, empty]
    simp [mt ends.mp open_ended, empty]

theorem length_fileLines_le (text : Text) : (fileLines text).length ≤ (splitBreaks text).length := by
  unfold fileLines
  dsimp only
  split <;> simp

theorem getElem?_fileLines :
    (fileLines text)[k]? = some line ↔
      (splitBreaks text)[k]? = some line ∧ (line = [] → k + 1 < (splitBreaks text).length) := by
  unfold fileLines
  dsimp only
  generalize splitBreaks text = pieces
  rw [List.getLast?_eq_getElem?]
  split
  · rename_i lastEmpty
    rw [List.getElem?_dropLast]
    split
    · rename_i before
      exact ⟨fun here => ⟨here, fun _ => by omega⟩, And.left⟩
    · rename_i past
      refine ⟨nofun, fun ⟨here, behind⟩ => ?_⟩
      have inside := (List.getElem?_eq_some_iff.mp here).1
      have last : k = pieces.length - 1 := by omega
      rw [← last, here] at lastEmpty
      have := behind (Option.some.inj lastEmpty)
      omega
  · rename_i lastSolid
    refine ⟨fun here => ⟨here, fun empty => ?_⟩, And.left⟩
    have inside := (List.getElem?_eq_some_iff.mp here).1
    by_contra past
    have last : k = pieces.length - 1 := by omega
    rw [← last, here, empty] at lastSolid
    exact lastSolid rfl

/-! ## One line exchanged -/

theorem beforeFeed_of_plain (plain : Plain line) : beforeFeed line = line :=
  beforeFeed_of_no_return (getLast?_ne_return_of_plain plain)

theorem feed_not_mem_set (noFeed : ∀ line ∈ lines, '\n' ∉ line) (plain : Plain fixed) :
    ∀ line ∈ lines.set i fixed, '\n' ∉ line := by
  intro line member
  rcases List.mem_or_eq_of_mem_set member with old | rfl
  · exact noFeed line old
  · exact feed_not_mem_of_plain plain

/-- A plain line can be put in the place of another one before a text is split anew or after it. -/
theorem splitBreaks_joinLines_set (some : lines ≠ []) (noFeed : ∀ line ∈ lines, '\n' ∉ line)
    (plain : Plain fixed) :
    splitBreaks (joinLines (lines.set i fixed)) = (splitBreaks (joinLines lines)).set i fixed := by
  have noFeedSet := feed_not_mem_set (i := i) noFeed plain
  obtain ⟨front, last, rfl⟩ := (List.eq_nil_or_concat' lines).resolve_left some
  rw [splitBreaks_joinLines_concat noFeed]
  rw [List.set_append] at noFeedSet ⊢
  rw [List.set_append, List.length_map]
  split
  · rename_i inFront
    rw [if_pos inFront] at noFeedSet
    rw [splitBreaks_joinLines_concat noFeedSet, List.map_set, beforeFeed_of_plain plain]
  · rename_i past
    rw [if_neg past] at noFeedSet
    generalize i - front.length = place at noFeedSet ⊢
    cases place with
    | zero => exact splitBreaks_joinLines_concat noFeedSet
    | succ _ => exact splitBreaks_joinLines_concat noFeed

theorem length_splitBreaks_joinLines (some : lines ≠ []) (noFeed : ∀ line ∈ lines, '\n' ∉ line) :
    (splitBreaks (joinLines lines)).length = lines.length := by
  obtain ⟨front, last, rfl⟩ := (List.eq_nil_or_concat' lines).resolve_left some
  simp [splitBreaks_joinLines_concat noFeed]

theorem getElem?_splitBreaks_joinLines (noFeed : ∀ line ∈ lines, '\n' ∉ line) (plain : Plain line)
    (here : lines[i]? = some line) : (splitBreaks (joinLines lines))[i]? = some line := by
  obtain ⟨inside, same⟩ := List.getElem?_eq_some_iff.mp here
  have some : lines ≠ [] := List.ne_nil_of_length_pos (by omega)
  have set := splitBreaks_joinLines_set (i := i) some noFeed plain
  rw [← same, List.set_getElem_self, same] at set
  rw [set, List.getElem?_set_self]
  rwa [length_splitBreaks_joinLines some noFeed]

/-! ## Lines split twice -/

/-- The lines of a text that is split, put together and split again. -/
def resplit (text : Text) : List Text := splitBreaks (joinLines (splitBreaks text))

theorem resplit_ne_nil (text : Text) : resplit text ≠ [] := splitBreaks_ne_nil _

theorem feed_not_mem_of_mem_resplit : ∀ line ∈ resplit text, '\n' ∉ line :=
  fun _ => feed_not_mem_of_mem_splitBreaks

theorem length_resplit (text : Text) : (resplit text).length = (splitBreaks text).length :=
  length_splitBreaks_joinLines (splitBreaks_ne_nil text) fun _ => feed_not_mem_of_mem_splitBreaks

theorem getElem?_resplit (plain : Plain line) (here : (splitBreaks text)[i]? = some line) :
    (resplit text)[i]? = some line :=
  getElem?_splitBreaks_joinLines (fun _ => feed_not_mem_of_mem_splitBreaks) plain here

end Diagnostics.Text
