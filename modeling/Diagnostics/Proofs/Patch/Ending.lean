import Diagnostics.Proofs.Patch.Application
import Diagnostics.Proofs.Text.Lines

/-!
The end of a patched text. A text that ends with a line feed does so after a patch too. One that does
not gets a line feed at its end exactly if the patch leaves several lines of which the last is empty.
-/
namespace Diagnostics.Patch

/-! ## Lines of patches -/

theorem mem_of_mem_group (lines : List Text) :
    (∀ row ∈ (group lines).1, row ∈ lines) ∧
      ∀ entry ∈ (group lines).2, ∀ row ∈ entry.2, row ∈ lines := by
  induction lines with
  | nil => exact ⟨List.forall_mem_nil _, List.forall_mem_nil _⟩
  | cons line rest ih =>
    obtain ⟨rows, hunks⟩ := ih
    have later : ∀ entry ∈ (group rest).2, ∀ row ∈ entry.2, row ∈ line :: rest :=
      fun entry among row member => List.mem_cons_of_mem _ (hunks entry among row member)
    have inner : ∀ row ∈ (group rest).1, row ∈ line :: rest :=
      fun row member => List.mem_cons_of_mem _ (rows row member)
    rw [group]
    cases header? line with
    | none => exact ⟨List.forall_mem_cons.mpr ⟨List.mem_cons_self, inner⟩, later⟩
    | some header => exact ⟨List.forall_mem_nil _, List.forall_mem_cons.mpr ⟨inner, later⟩⟩

theorem rows_of_hunk {header : HunkHeader} {rows : List Text} {h : Hunk}
    (made : hunk header rows = .ok h) : h.rows = rows := by
  obtain ⟨start, count⟩ := header
  obtain ⟨first, _, made⟩ := bind_eq_ok.mp made
  cases count with
  | none =>
    cases made
    rfl
  | some digits =>
    obtain ⟨lines, _, made⟩ := bind_eq_ok.mp made
    cases made
    rfl

theorem exists_entry_of_hunksOf {entries : List (HunkHeader × List Text)} {found : List Hunk}
    (read : hunksOf entries = .ok found) : ∀ h ∈ found, ∃ entry ∈ entries, h.rows = entry.2 := by
  induction entries generalizing found with
  | nil =>
    cases read
    exact nofun
  | cons entry rest ih =>
    obtain ⟨header, rows⟩ := entry
    obtain ⟨first, made, read⟩ := bind_eq_ok.mp read
    obtain ⟨others, later, read⟩ := bind_eq_ok.mp read
    cases read
    rw [List.forall_mem_cons]
    refine ⟨⟨(header, rows), List.mem_cons_self, rows_of_hunk made⟩, fun h member => ?_⟩
    obtain ⟨other, among, same⟩ := ih later h member
    exact ⟨other, List.mem_cons_of_mem _ among, same⟩

theorem row_mem_of_hunks {patch : Text} {found : List Hunk} (read : hunks patch = .ok found) :
    ∀ h ∈ found, ∀ row ∈ h.rows, row ∈ Text.fileLines patch := by
  intro h member row among
  rw [hunks] at read
  split at read
  · cases read
  · cases read
  · rename_i entries _ grouped
    obtain ⟨entry, listed, same⟩ := exists_entry_of_hunksOf read h member
    have rows := (mem_of_mem_group ((Text.fileLines patch).drop 2)).2
    rw [grouped] at rows
    exact List.mem_of_mem_drop (rows entry listed row (same ▸ among))

theorem mem_of_newLine? {row line : Text} {c : Char} (new : newLine? row = some line)
    (member : c ∈ line) : c ∈ row := by
  cases row with
  | nil =>
    cases new
    exact member
  | cons marker text =>
    rw [newLine?] at new
    split at new
    · cases new
      exact List.mem_cons_of_mem _ member
    · cases new

theorem mem_exchanged {found : List Hunk} {source : List Text} {line : Text}
    (member : line ∈ exchanged found source) :
    line ∈ source ∨ ∃ h ∈ found, line ∈ h.newLines := by
  induction found with
  | nil => exact .inl member
  | cons h rest ih =>
    have step : exchanged (h :: rest) source = h.exchange (exchanged rest source) := rfl
    rw [step, Hunk.exchange, List.mem_append, List.mem_append] at member
    have others (inner : line ∈ exchanged rest source) :
        line ∈ source ∨ ∃ other ∈ h :: rest, line ∈ other.newLines :=
      (ih inner).imp_right fun ⟨other, among, new⟩ => ⟨other, List.mem_cons_of_mem _ among, new⟩
    rcases member with (front | new) | back
    · exact others (List.mem_of_mem_take front)
    · exact .inr ⟨h, List.mem_cons_self, new⟩
    · exact others (List.mem_of_mem_drop back)

/-- No line that a patch leaves holds a line feed. -/
theorem feed_not_mem_of_mem_exchanged {patch source line : Text} {found : List Hunk}
    (read : hunks patch = .ok found) (member : line ∈ exchanged found (Text.fileLines source)) :
    '\n' ∉ line := by
  rcases mem_exchanged member with old | ⟨h, among, new⟩
  · exact Text.feed_not_mem_of_mem_fileLines old
  · obtain ⟨row, listed, shows⟩ := List.mem_filterMap.mp new
    exact fun feed => Text.feed_not_mem_of_mem_fileLines (row_mem_of_hunks read h among row listed)
      (mem_of_newLine? shows feed)

/-! ## Patched texts -/

theorem hunks_of_apply {patch source result : Text} (applied : apply patch source = .ok result) :
    ∃ found, hunks patch = .ok found ∧ result = patched found source := by
  obtain ⟨file, _, applied⟩ := bind_eq_ok.mp applied
  obtain ⟨found, read, applied⟩ := bind_eq_ok.mp applied
  obtain ⟨lines, made, applied⟩ := bind_eq_ok.mp applied
  cases applied
  refine ⟨found, read, ?_⟩
  rcases applyHunks_cases (Text.fileLines source) 0 found with ⟨_, exact⟩ | ⟨_, e, refused⟩
  · rw [exact] at made
    cases made
    rfl
  · rw [refused] at made
    cases made

theorem endsIn_patched {patch source : Text} {found : List Hunk} (read : hunks patch = .ok found) :
    Text.endsIn (patched found source) ['\n'] = true ↔
      Text.endsIn source ['\n'] = true ∨ Text.EndEmpty (exchanged found (Text.fileLines source)) := by
  have noFeed : ∀ line ∈ exchanged found (Text.fileLines source), '\n' ∉ line :=
    fun line member => feed_not_mem_of_mem_exchanged read member
  have lines := Text.getLast?_joinLines_iff noFeed
  rw [patched, Text.endsIn_feed_iff]
  by_cases ended : Text.endsIn source ['\n'] = true
  · simp [ended]
  · rw [if_neg ended, List.append_nil, lines]
    simp [ended]

/-- A patch that is applied leaves the end of a text as it was, with a line feed or without, exactly
if the text ends with one or the lines that it becomes do not end with an empty one behind others. -/
theorem endsIn_feed_apply_iff {patch source result : Text}
    (applied : apply patch source = .ok result) :
    ∃ found, hunks patch = .ok found ∧ result = patched found source ∧
      ((Text.endsIn result ['\n'] = true ↔ Text.endsIn source ['\n'] = true) ↔
        (Text.endsIn source ['\n'] = true ∨
          ¬ Text.EndEmpty (exchanged found (Text.fileLines source)))) := by
  obtain ⟨found, read, rfl⟩ := hunks_of_apply applied
  refine ⟨found, read, rfl, ?_⟩
  rw [endsIn_patched read]
  by_cases ended : Text.endsIn source ['\n'] = true
  · simp [ended]
  · simp [ended]

/-- A patch that empties the second of two lines. -/
def emptying : Text := "--- a.c\n+++ b\n@@ -1,2 +1,2 @@\n a\n-b\n+".toList

/-- Emptying the last line ends a text with a line feed that had none, and keeps one that it had. -/
theorem endsIn_feed_apply_emptying :
    (∃ result, apply emptying "a\nb".toList = .ok result ∧
      ¬ (Text.endsIn result ['\n'] = true ↔ Text.endsIn "a\nb".toList ['\n'] = true)) ∧
    ∃ result, apply emptying "a\nb\n".toList = .ok result ∧
      (Text.endsIn result ['\n'] = true ↔ Text.endsIn "a\nb\n".toList ['\n'] = true) := by
  have opened : apply emptying "a\nb".toList = .ok "a\n".toList := by decide +kernel
  have closed : apply emptying "a\nb\n".toList = .ok "a\n\n".toList := by decide +kernel
  refine ⟨⟨_, opened, ?_⟩, _, closed, ?_⟩
  · obtain ⟨found, read, _, ending⟩ := endsIn_feed_apply_iff opened
    have same : hunks emptying = .ok [⟨1, 2, [" a".toList, "-b".toList, "+".toList]⟩] := by
      decide +kernel
    cases same.symm.trans read
    exact mt ending.mp (by decide)
  · obtain ⟨found, read, _, ending⟩ := endsIn_feed_apply_iff closed
    exact ending.mpr (.inl (by decide))

end Diagnostics.Patch
