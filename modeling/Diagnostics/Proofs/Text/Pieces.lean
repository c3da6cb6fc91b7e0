import Diagnostics.Text.Basic

/-!
Texts cut at every occurrence of one character. Lines that are put together and cut at their line
feeds fall apart into the pieces of each of them, and a text falls into one more piece than it has
occurrences of the character.
-/
namespace Diagnostics.Text

theorem splitOnChar_mark (mark : Char) (rest : Text) :
    splitOnChar mark (mark :: rest) = [] :: splitOnChar mark rest := by
  rw [splitOnChar, if_pos rfl]

theorem splitOnChar_ne_nil (mark : Char) (text : Text) : splitOnChar mark text ≠ [] := by
  cases text with
  | nil => simp [splitOnChar]
  | cons c rest =>
    unfold splitOnChar
    split
    · simp
    · cases splitOnChar mark rest <;> simp [onFirst]

/-- A character that is no mark belongs to the first piece. -/
theorem splitOnChar_cons {mark c : Char} (other : c ≠ mark) (text : Text) :
    ∃ first rest, splitOnChar mark text = first :: rest ∧
      splitOnChar mark (c :: text) = (c :: first) :: rest := by
  obtain ⟨first, rest, pieces⟩ := List.exists_cons_of_ne_nil (splitOnChar_ne_nil mark text)
  refine ⟨first, rest, pieces, ?_⟩
  rw [splitOnChar, if_neg other, pieces]
  rfl

theorem splitOnChar_append (mark : Char) (text rest : Text) :
    splitOnChar mark (text ++ mark :: rest) = splitOnChar mark text ++ splitOnChar mark rest := by
  induction text with
  | nil => exact splitOnChar_mark mark rest
  | cons c text ih =>
    by_cases same : c = mark
    · subst same
      rw [List.cons_append, splitOnChar_mark, splitOnChar_mark, ih, List.cons_append]
    · obtain ⟨first, others, pieces, longer⟩ := splitOnChar_cons same text
      rw [pieces] at ih
      rw [List.cons_append, splitOnChar, if_neg same, ih, longer]
      rfl

theorem splitOnChar_of_not_mem {mark : Char} {text : Text} (absent : mark ∉ text) :
    splitOnChar mark text = [text] := by
  induction text with
  | nil => rfl
  | cons c text ih =>
    rw [List.mem_cons, not_or] at absent
    rw [splitOnChar, if_neg (Ne.symm absent.1), ih absent.2]
    rfl

theorem flatMap_splitOnChar_of_not_mem {mark : Char} {lines : List Text}
    (absent : ∀ line ∈ lines, mark ∉ line) : lines.flatMap (splitOnChar mark) = lines := by
  induction lines with
  | nil => rfl
  | cons line rest ih =>
    rw [List.forall_mem_cons] at absent
    rw [List.flatMap_cons, splitOnChar_of_not_mem absent.1, ih absent.2, List.singleton_append]

theorem length_splitOnChar (mark : Char) (text : Text) :
    (splitOnChar mark text).length = text.count mark + 1 := by
  induction text with
  | nil => rfl
  | cons c text ih =>
    by_cases same : c = mark
    · rw [same, splitOnChar_mark, List.length_cons, ih, List.count_cons_self]
    · obtain ⟨first, rest, pieces, longer⟩ := splitOnChar_cons same text
      rw [pieces] at ih
      rw [longer, List.length_cons, List.count_cons_of_ne same, ← ih, List.length_cons]

theorem splitOnChar_joinLines {lines : List Text} (some : lines ≠ []) :
    splitOnChar '\n' (joinLines lines) = lines.flatMap (splitOnChar '\n') := by
  induction lines with
  | nil => exact absurd rfl some
  | cons line rest ih =>
    cases rest with
    | nil => rw [joinLines, List.flatMap_cons, List.flatMap_nil, List.append_nil]
    | cons next rest =>
      rw [joinLines, splitOnChar_append, ih (List.cons_ne_nil _ _), ← List.flatMap_cons]

/-- Lines without line feeds come back. -/
theorem splitOnChar_joinLines_of_not_mem {lines : List Text} (some : lines ≠ [])
    (noFeed : ∀ line ∈ lines, '\n' ∉ line) : splitOnChar '\n' (joinLines lines) = lines := by
  rw [splitOnChar_joinLines some, flatMap_splitOnChar_of_not_mem noFeed]

end Diagnostics.Text
