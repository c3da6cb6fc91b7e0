import Diagnostics.Patch.Create
import Diagnostics.Proofs.Number.Numeral
import Diagnostics.Proofs.Patch.Hunks
import Diagnostics.Proofs.Text.Lines

/-!
What is read in a patch as it is written: its rows come back as lines, the first row names the file,
the third one is the header of a hunk, and no row of the hunk is taken for another header, since each
starts with its marker.
-/
namespace Diagnostics.Patch

/-! ## Numbers and headers -/

theorem isNumber_numeral (n : Nat) : IsNumber (Number.numeral n) :=
  ⟨Number.numeral_ne_nil n, fun c member =>
    Text.isDecimalDigit_of_isPlainDigit (Number.isPlainDigit_of_mem_numeral n c member)⟩

theorem header?_extent (c : Context) :
    header? ("@@ -".toList ++ extent c ++ " +".toList ++ extent c ++ " @@".toList) =
      some ⟨Number.numeral c.start, some (Number.numeral c.lines.length)⟩ := by
  have numeric : HunkHeader.Numeric ⟨Number.numeral c.start, some (Number.numeral c.lines.length)⟩ :=
    ⟨isNumber_numeral _, by rintro _ ⟨⟩; exact isNumber_numeral _⟩
  refine header?_eq_some_iff.mpr ⟨_, [], numeric, numeric, ?_⟩
  simp [extent, HunkHeader.text]

theorem header?_eq_none {c : Char} {line : Text} (other : c ≠ '@') : header? (c :: line) = none := by
  have mismatch : behind? "@@ -".toList (c :: line) = none := if_neg (Ne.symm other)
  rw [header?, mismatch]
  rfl

/-! ## Rows -/

theorem plain_numeral (n : Nat) : Text.Plain (Number.numeral n) := by
  rw [Text.Plain, List.any_eq_false]
  intro c member
  rw [Text.isBreak_of_isPlainDigit (Number.isPlainDigit_of_mem_numeral n c member)]
  exact Bool.false_ne_true

theorem plain_twoDigits (n : Nat) : Text.Plain (Timestamp.twoDigits n) := by
  unfold Timestamp.twoDigits
  split
  · exact Text.plain_cons.mpr ⟨by decide, plain_numeral n⟩
  · exact plain_numeral n

theorem plain_time (t : Timestamp) : Text.Plain t.text := by
  simp only [Timestamp.text, Text.plain_append, Text.plain_cons, plain_twoDigits, plain_numeral]
  decide

theorem plain_extent (c : Context) : Text.Plain (extent c) := by
  simp only [extent, Text.plain_append, Text.plain_cons, plain_numeral]
  decide

theorem plain_headRows {file : Text} (context : Context) (modified now : Timestamp)
    (plain : Text.Plain file) : ∀ row ∈ headRows file context modified now, Text.Plain row := by
  intro row member
  simp only [headRows, List.mem_cons, List.not_mem_nil, or_false] at member
  rcases member with rfl | rfl | rfl <;>
    simp only [Text.plain_append, Text.plain_cons, plain, plain_time, plain_extent, fixSuffix] <;>
    decide

/-- A marker that a row of a hunk is written with. -/
def IsMarker (c : Char) : Prop := c = ' ' ∨ c = '-' ∨ c = '+'

/-- Rows that keep lines, or drop or add one: a marker and a line behind it. -/
theorem exists_marker_of_mem_bodyRows {expected : Text} {index : Nat} {lines : List Text}
    {row : Text} (member : row ∈ bodyRows expected index lines) :
    ∃ marker line, row = marker :: line ∧ IsMarker marker ∧ (line ∈ lines ∨ line = expected) := by
  induction lines generalizing index with
  | nil =>
    unfold bodyRows at member
    cases member
  | cons line rest ih =>
    cases index with
    | zero =>
      rcases List.mem_append.mp member with focus | others
      · split at focus
        · rw [List.mem_singleton.mp focus]
          exact ⟨' ', line, rfl, .inl rfl, .inl List.mem_cons_self⟩
        · simp only [List.mem_cons, List.not_mem_nil, or_false] at focus
          rcases focus with rfl | rfl
          · exact ⟨'-', line, rfl, .inr (.inl rfl), .inl List.mem_cons_self⟩
          · exact ⟨'+', expected, rfl, .inr (.inr rfl), .inr rfl⟩
      · obtain ⟨other, hother, rfl⟩ := List.mem_map.mp others
        exact ⟨' ', other, rfl, .inl rfl, .inl (List.mem_cons_of_mem _ hother)⟩
    | succ index =>
      rcases List.mem_cons.mp member with rfl | later
      · exact ⟨' ', line, rfl, .inl rfl, .inl List.mem_cons_self⟩
      · obtain ⟨marker, other, rfl, hmarker, hother⟩ := ih later
        exact ⟨marker, other, rfl, hmarker, hother.imp_left (List.mem_cons_of_mem _)⟩

theorem plain_bodyRows {expected : Text} {lines : List Text} (index : Nat)
    (plain : ∀ line ∈ lines, Text.Plain line) (expectedPlain : Text.Plain expected) :
    ∀ row ∈ bodyRows expected index lines, Text.Plain row := by
  intro row member
  obtain ⟨marker, line, rfl, hmarker, source⟩ := exists_marker_of_mem_bodyRows member
  have linePlain : Text.Plain line := by
    rcases source with source | rfl
    · exact plain line source
    · exact expectedPlain
  refine Text.plain_cons.mpr ⟨?_, linePlain⟩
  rcases hmarker with rfl | rfl | rfl <;> decide

theorem header?_of_mem_bodyRows {expected : Text} {index : Nat} {lines : List Text} {row : Text}
    (member : row ∈ bodyRows expected index lines) : header? row = none := by
  obtain ⟨marker, line, rfl, hmarker, _⟩ := exists_marker_of_mem_bodyRows member
  apply header?_eq_none
  rcases hmarker with rfl | rfl | rfl <;> decide

/-! ## The whole patch -/

/-- The rows of a patch as one text. -/
def written (file : Text) (context : Context) (modified now : Timestamp) (expected : Text)
    (index : Nat) : Text :=
  Text.joinLines (headRows file context modified now ++ bodyRows expected index context.lines)

section Written
variable {file expected : Text} {context : Context} (modified now : Timestamp) (index : Nat)

theorem fileLines_written (filePlain : Text.Plain file)
    (plain : ∀ line ∈ context.lines, Text.Plain line) (expectedPlain : Text.Plain expected) :
    Text.fileLines (written file context modified now expected index) =
      headRows file context modified now ++ bodyRows expected index context.lines := by
  have rowsPlain : ∀ row ∈ headRows file context modified now ++
      bodyRows expected index context.lines, Text.Plain row := by
    intro row member
    rcases List.mem_append.mp member with head | body
    · exact plain_headRows context modified now filePlain row head
    · exact plain_bodyRows index plain expectedPlain row body
  refine Text.fileLines_joinLines (by simp [headRows]) rowsPlain fun last => ?_
  rcases List.mem_append.mp (List.mem_of_getLast? last) with head | body
  · simp [headRows] at head
  · obtain ⟨_, _, empty, _⟩ := exists_marker_of_mem_bodyRows body
    cases empty

theorem target_written (filePlain : Text.Plain file)
    (plain : ∀ line ∈ context.lines, Text.Plain line) (expectedPlain : Text.Plain expected)
    (solid : ' ' ∉ file) (named : file ≠ []) :
    target (written file context modified now expected index) = .ok file := by
  have first : behind? "--- ".toList ("--- ".toList ++ file ++ ' ' :: modified.text) =
      some (file ++ ' ' :: modified.text) := by
    rw [List.append_assoc, behind?_append]
  have taken : (file ++ ' ' :: modified.text).takeWhile (· != ' ') = file := by
    refine Text.takeWhile_run (fun c member => ?_) (Text.stops_cons.mpr (by decide))
    simpa using ne_of_mem_of_not_mem member solid
  rw [target, fileLines_written modified now index filePlain plain expectedPlain, headRows,
    List.cons_append, List.head?_cons, Option.bind_some, first]
  dsimp only
  rw [taken]
  cases file with
  | nil => exact absurd rfl named
  | cons c file => rfl

theorem group_of_no_headers {rows : List Text} (bare : ∀ row ∈ rows, header? row = none) :
    group rows = (rows, []) := by
  have grouped := group_append bare []
  rwa [List.append_nil, group, List.append_nil] at grouped

theorem hunks_written (filePlain : Text.Plain file)
    (plain : ∀ line ∈ context.lines, Text.Plain line) (expectedPlain : Text.Plain expected)
    (startWritable : Number.isWritable context.start = true)
    (countWritable : Number.isWritable context.lines.length = true) :
    hunks (written file context modified now expected index) =
      .ok [⟨context.start, context.lines.length, bodyRows expected index context.lines⟩] := by
  have rows : (headRows file context modified now ++ bodyRows expected index context.lines).drop 2 =
      ("@@ -".toList ++ extent context ++ " +".toList ++ extent context ++ " @@".toList) ::
        bodyRows expected index context.lines := rfl
  have body := group_of_no_headers fun row (member : row ∈ bodyRows expected index context.lines) =>
    header?_of_mem_bodyRows member
  -- Behind the names of the files there is one header, and the rows behind it are none.
  rw [hunks, fileLines_written modified now index filePlain plain expectedPlain, rows, group, body,
    header?_extent]
  simp only [hunksOf, hunk, number, Number.readDigits_numeral startWritable,
    Number.readDigits_numeral countWritable]
  rfl

end Written
end Diagnostics.Patch
