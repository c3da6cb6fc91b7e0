import Diagnostics.Text.Basic
import Mathlib.Data.List.Basic

/-!
Lines put together and split again. Lines without line feeds come back as they were, as long as none
but the last ends with a carriage return, which would count as a part of the break behind it.
-/
namespace Diagnostics.Text

theorem splitBreaks_feed (rest : Text) : splitBreaks ('\n' :: rest) = [] :: splitBreaks rest := by
  rw [splitBreaks]

/-- A character that starts no break belongs to the first piece. -/
theorem splitBreaks_cons {c : Char} {rest : Text} (noFeed : c ≠ '\n')
    (noPair : c = '\r' → rest.head? ≠ some '\n') :
    splitBreaks (c :: rest) = onFirst c (splitBreaks rest) := by
  rw [splitBreaks]
  · rintro tail rfl rfl
    exact noPair rfl rfl
  · exact noFeed

theorem head?_ne_of_not_mem {c : Char} {text : Text} (absent : c ∉ text) : text.head? ≠ some c :=
  fun head => absent (List.mem_of_mem_head? head)

theorem splitBreaks_of_no_feed {line : Text} (noFeed : '\n' ∉ line) : splitBreaks line = [line] := by
  induction line with
  | nil => rfl
  | cons c rest ih =>
    rw [List.mem_cons, not_or] at noFeed
    rw [splitBreaks_cons (Ne.symm noFeed.1) (fun _ => head?_ne_of_not_mem noFeed.2), ih noFeed.2]
    rfl

/-- A line as it is read in front of a line feed: a carriage return at its end belongs to the break. -/
def beforeFeed (line : Text) : Text := if line.getLast? = some '\r' then line.dropLast else line

theorem beforeFeed_of_no_return {line : Text} (noReturn : line.getLast? ≠ some '\r') :
    beforeFeed line = line := if_neg noReturn

theorem beforeFeed_cons_cons (c d : Char) (line : Text) :
    beforeFeed (c :: d :: line) = c :: beforeFeed (d :: line) := by
  rw [beforeFeed, beforeFeed, List.getLast?_cons_cons, List.dropLast_cons_cons]
  split <;> rfl

theorem splitBreaks_append_feed {line : Text} (rest : Text) (noFeed : '\n' ∉ line) :
    splitBreaks (line ++ '\n' :: rest) = beforeFeed line :: splitBreaks rest := by
  induction line with
  | nil => exact splitBreaks_feed rest
  | cons c line ih =>
    rw [List.mem_cons, not_or] at noFeed
    cases line with
    | nil =>
      by_cases pair : c = '\r'
      · subst pair
        rfl
      · rw [List.cons_append, splitBreaks_cons (Ne.symm noFeed.1) (fun same => absurd same pair),
          List.nil_append, splitBreaks_feed, beforeFeed_of_no_return (by simpa using pair)]
        rfl
    | cons d line =>
      have noPair : (d :: line ++ '\n' :: rest).head? ≠ some '\n' := fun head =>
        noFeed.2 (Option.some.inj head ▸ List.mem_cons_self)
      rw [List.cons_append, splitBreaks_cons (Ne.symm noFeed.1) (fun _ => noPair), ih noFeed.2,
        beforeFeed_cons_cons]
      rfl

theorem joinLines_cons {rest : List Text} (some : rest ≠ []) (line : Text) :
    joinLines (line :: rest) = line ++ '\n' :: joinLines rest := by
  cases rest with
  | nil => contradiction
  | cons next rest => rfl

theorem joinLines_concat {lines : List Text} (some : lines ≠ []) (last : Text) :
    joinLines (lines ++ [last]) = joinLines lines ++ '\n' :: last := by
  induction lines with
  | nil => contradiction
  | cons line rest ih =>
    cases rest with
    | nil => rfl
    | cons next rest =>
      have later := ih (List.cons_ne_nil next rest)
      rw [List.cons_append, joinLines_cons (by simp), later, joinLines]
      simp

/-- Lines without line feeds, put together and split again: all but the last stand in front of a
line feed then. -/
theorem splitBreaks_joinLines_concat {front : List Text} {last : Text}
    (noFeed : ∀ line ∈ front ++ [last], '\n' ∉ line) :
    splitBreaks (joinLines (front ++ [last])) = front.map beforeFeed ++ [last] := by
  induction front with
  | nil => exact splitBreaks_of_no_feed (noFeed last List.mem_cons_self)
  | cons line front ih =>
    rw [List.cons_append, List.forall_mem_cons] at noFeed
    rw [List.cons_append, joinLines_cons (by simp), splitBreaks_append_feed _ noFeed.1, ih noFeed.2]
    rfl

theorem splitBreaks_joinLines {lines : List Text} (some : lines ≠ [])
    (noFeed : ∀ line ∈ lines, '\n' ∉ line)
    (noReturn : ∀ line ∈ lines.dropLast, line.getLast? ≠ .some '\r') :
    splitBreaks (joinLines lines) = lines := by
  have same : lines.dropLast.map beforeFeed = lines.dropLast.map id :=
    List.map_congr_left fun line member => beforeFeed_of_no_return (noReturn line member)
  have whole := List.dropLast_append_getLast some
  rw [← whole] at noFeed
  have split := splitBreaks_joinLines_concat noFeed
  rwa [same, List.map_id, whole] at split

/-! ## Where a text is cut -/

/-- A text and its lines: it is cut at its line feeds, and a carriage return in front of a line feed
belongs to no line. -/
inductive Cut : Text → List Text → Prop
  | last {line : Text} (noFeed : '\n' ∉ line) : Cut line [line]
  | feed {line rest : Text} {lines : List Text} (noFeed : '\n' ∉ line)
      (noReturn : line.getLast? ≠ some '\r') (later : Cut rest lines) :
      Cut (line ++ '\n' :: rest) (line :: lines)
  | pair {line rest : Text} {lines : List Text} (noFeed : '\n' ∉ line) (later : Cut rest lines) :
      Cut (line ++ '\r' :: '\n' :: rest) (line :: lines)

/-- A character that starts no break belongs to the first line. -/
theorem Cut.onFirst {c : Char} {rest : Text} {lines : List Text} (cut : Cut rest lines)
    (noFeed : c ≠ '\n') (noPair : c = '\r' → rest.head? ≠ some '\n') :
    Cut (c :: rest) (onFirst c lines) := by
  have longer {line : Text} (free : '\n' ∉ line) : '\n' ∉ c :: line :=
    List.not_mem_cons_of_ne_of_not_mem (Ne.symm noFeed) free
  cases cut with
  | last free => exact .last (longer free)
  | @feed line rest lines free noReturn later =>
    refine @Cut.feed (c :: line) rest lines (longer free) ?_ later
    cases line with
    | nil => exact fun alone => noPair (Option.some.inj alone) rfl
    | cons d line => rwa [List.getLast?_cons_cons]
  | @pair line rest lines free later => exact @Cut.pair (c :: line) rest lines (longer free) later

theorem cut_splitBreaks (text : Text) : Cut text (splitBreaks text) := by
  fun_induction splitBreaks text with
  | case1 => exact .last List.not_mem_nil
  | case2 rest ih => exact @Cut.pair [] rest _ List.not_mem_nil ih
  | case3 rest ih => exact @Cut.feed [] rest _ List.not_mem_nil (by decide) ih
  | case4 c rest noPair noFeed ih =>
    refine ih.onFirst noFeed fun same head => ?_
    obtain ⟨tail, rfl⟩ := List.head?_eq_some_iff.mp head
    exact noPair tail same rfl

theorem cut_iff {text : Text} {lines : List Text} : Cut text lines ↔ splitBreaks text = lines := by
  constructor
  · intro cut
    induction cut with
    | last noFeed => exact splitBreaks_of_no_feed noFeed
    | feed noFeed noReturn _ ih =>
      rw [splitBreaks_append_feed _ noFeed, beforeFeed_of_no_return noReturn, ih]
    | @pair line rest lines noFeed _ ih =>
      have free : '\n' ∉ line ++ ['\r'] := by simpa using noFeed
      have front : beforeFeed (line ++ ['\r']) = line := by simp [beforeFeed]
      rw [List.append_cons, splitBreaks_append_feed _ free, front, ih]
  · rintro rfl
    exact cut_splitBreaks text

/-! ## Texts of one line -/

/-- A text of one line. -/
def Plain (line : Text) : Prop := line.any isBreak = false

instance (line : Text) : Decidable (Plain line) := inferInstanceAs (Decidable (_ = _))

theorem plain_append {text rest : Text} : Plain (text ++ rest) ↔ Plain text ∧ Plain rest := by
  simp [Plain, List.any_append]

theorem plain_cons {c : Char} {rest : Text} : Plain (c :: rest) ↔ isBreak c = false ∧ Plain rest := by
  simp [Plain, List.any_cons]

theorem not_mem_of_any_eq_false {inClass : Char → Bool} {text : Text} {c : Char}
    (free : text.any inClass = false) (within : inClass c = true) : c ∉ text := fun member =>
  Bool.false_ne_true (free.symm.trans (List.any_eq_true.mpr ⟨c, member, within⟩))

theorem plain_iff {line : Text} : Plain line ↔ '\n' ∉ line ∧ '\r' ∉ line := by
  constructor
  · intro plain
    exact ⟨not_mem_of_any_eq_false plain (by decide), not_mem_of_any_eq_false plain (by decide)⟩
  · rintro ⟨noFeed, noReturn⟩
    rw [Plain, List.any_eq_false]
    intro c member
    simp [isBreak, ne_of_mem_of_not_mem member noFeed, ne_of_mem_of_not_mem member noReturn]

theorem feed_not_mem_of_plain {line : Text} (plain : Plain line) : '\n' ∉ line :=
  (plain_iff.mp plain).1

theorem getLast?_ne_return_of_plain {line : Text} (plain : Plain line) :
    line.getLast? ≠ some '\r' := fun last =>
  (plain_iff.mp plain).2 (List.mem_of_getLast? last)

/-- Plain lines of which the last is not empty are the lines of the file that they make. -/
theorem fileLines_joinLines {lines : List Text} (some : lines ≠ []) (plain : ∀ line ∈ lines, Plain line)
    (last : lines.getLast? ≠ .some []) : fileLines (joinLines lines) = lines := by
  have split : splitBreaks (joinLines lines) = lines :=
    splitBreaks_joinLines some (fun line member => feed_not_mem_of_plain (plain line member))
      fun line member => getLast?_ne_return_of_plain (plain line (lines.dropLast_subset member))
  rw [fileLines, split]
  exact if_neg last

/-! ## Line feeds in pieces and in lines put together -/

theorem feed_not_mem_of_mem_splitBreaks {text piece : Text} (member : piece ∈ splitBreaks text) :
    '\n' ∉ piece := by
  fun_induction splitBreaks text generalizing piece with
  | case1 =>
    rw [List.mem_singleton.mp member]
    exact List.not_mem_nil
  | case2 rest ih =>
    rcases List.mem_cons.mp member with rfl | later
    · exact List.not_mem_nil
    · exact ih later
  | case3 rest ih =>
    rcases List.mem_cons.mp member with rfl | later
    · exact List.not_mem_nil
    · exact ih later
  | case4 c rest _ noFeed ih =>
    obtain ⟨first, others, pieces⟩ := List.exists_cons_of_ne_nil (splitBreaks_ne_nil rest)
    rw [pieces] at member ih
    rcases List.mem_cons.mp member with rfl | later
    · rw [List.mem_cons, not_or]
      exact ⟨fun same => noFeed same.symm, ih List.mem_cons_self⟩
    · exact ih (List.mem_cons_of_mem _ later)

theorem feed_not_mem_of_mem_fileLines {text line : Text} (member : line ∈ fileLines text) :
    '\n' ∉ line := by
  unfold fileLines at member
  dsimp only at member
  split at member
  · exact feed_not_mem_of_mem_splitBreaks (List.dropLast_subset _ member)
  · exact feed_not_mem_of_mem_splitBreaks member

theorem beforeFeed_eq_self_iff {line : Text} :
    beforeFeed line = line ↔ line.getLast? ≠ some '\r' := by
  refine ⟨fun same last => ?_, beforeFeed_of_no_return⟩
  rw [beforeFeed, if_pos last] at same
  have shorter := congrArg List.length same
  have solid : 0 < line.length := List.length_pos_of_mem (List.mem_of_getLast? last)
  rw [List.length_dropLast] at shorter
  omega

/-- Lines come back from the text that they make exactly if there is one at least, none holds a line
feed, and none but the last ends with a carriage return. -/
theorem splitBreaks_joinLines_iff {lines : List Text} :
    splitBreaks (joinLines lines) = lines ↔
      lines ≠ [] ∧ (∀ line ∈ lines, '\n' ∉ line) ∧
        ∀ line ∈ lines.dropLast, line.getLast? ≠ some '\r' := by
  constructor
  · intro back
    have noFeed : ∀ line ∈ lines, '\n' ∉ line := by
      rw [← back]
      exact fun _ => feed_not_mem_of_mem_splitBreaks
    obtain rfl | ⟨front, last, rfl⟩ := List.eq_nil_or_concat' lines
    · exact absurd back (by decide)
    · rw [splitBreaks_joinLines_concat noFeed] at back
      have same : front.map beforeFeed = front.map id :=
        (List.append_cancel_right back).trans (List.map_id front).symm
      refine ⟨by simp, noFeed, fun line member => ?_⟩
      rw [List.dropLast_concat] at member
      exact beforeFeed_eq_self_iff.mp (List.map_inj_left.mp same line member)
  · rintro ⟨some, noFeed, noReturn⟩
    exact splitBreaks_joinLines some noFeed noReturn

/-- Lines that end with a line feed once they are put together: the last of several is empty. -/
def EndEmpty (lines : List Text) : Prop := 2 ≤ lines.length ∧ lines.getLast? = some []

instance (lines : List Text) : Decidable (EndEmpty lines) := inferInstanceAs (Decidable (_ ∧ _))

theorem endsIn_feed_iff {text : Text} : endsIn text ['\n'] = true ↔ text.getLast? = some '\n' := by
  rw [endsIn, List.isSuffixOf_iff_suffix, List.singleton_suffix_iff_getLast?_eq_some]

theorem getLast?_joinLines_iff {lines : List Text} (noFeed : ∀ line ∈ lines, '\n' ∉ line) :
    (joinLines lines).getLast? = some '\n' ↔ EndEmpty lines := by
  induction lines with
  | nil => simp [joinLines, EndEmpty]
  | cons line rest ih =>
    rw [List.forall_mem_cons] at noFeed
    cases rest with
    | nil =>
      have inner : line.getLast? ≠ some '\n' := fun last => noFeed.1 (List.mem_of_getLast? last)
      simp [joinLines, EndEmpty, inner]
    | cons next rest =>
      have later := ih noFeed.2
      have split : (joinLines (line :: next :: rest)).getLast? =
          ((joinLines (next :: rest)).getLast?).or (some '\n') := by
        rw [joinLines, List.getLast?_append, List.getLast?_cons]
        cases (joinLines (next :: rest)).getLast? <;> rfl
      rw [split]
      cases rest with
      | nil =>
        have inner : next.getLast? ≠ some '\n' :=
          fun last => noFeed.2 next List.mem_cons_self (List.mem_of_getLast? last)
        cases next with
        | nil => simp [joinLines, EndEmpty]
        | cons c next =>
          rw [joinLines, List.getLast?_cons, Option.some_or, ← List.getLast?_cons]
          simp [EndEmpty, inner]
      | cons second rest =>
        have some : joinLines (next :: second :: rest) ≠ [] := by simp [joinLines]
        rw [List.getLast?_eq_some_getLast some, Option.some_or, ← List.getLast?_eq_some_getLast some,
          later]
        simp [EndEmpty]

end Diagnostics.Text
