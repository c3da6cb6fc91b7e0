import Diagnostics.Proofs.Text.LineEnds
import Diagnostics.Settings.Basic
import Diagnostics.Text.Lowercase

/-!
Files that are written and read again. A text without carriage returns comes back from the file that
it was written to, and a name that ends like a report's is a report's name in any case.
-/
namespace Diagnostics

namespace Text

/-- What stands behind some text changes its small letters, but not what they stand before. -/
theorem exists_lowerAfter_append (letterBefore : Bool) (front rest : Text) :
    ∃ small letterAfter,
      lowerAfter letterBefore (front ++ rest) = small ++ lowerAfter letterAfter rest := by
  induction front generalizing letterBefore with
  | nil => exact ⟨[], letterBefore, rfl⟩
  | cons c front ih =>
    obtain ⟨small, letterAfter, same⟩ := ih (if isCaseIgnorable c then letterBefore else isCased c)
    rw [List.cons_append, lowerAfter, same, ← List.append_assoc]
    exact ⟨_, letterAfter, rfl⟩

theorem lowerAfter_sarif (letterBefore : Bool) :
    lowerAfter letterBefore ".sarif".toList = ".sarif".toList := by
  cases letterBefore <;> decide

end Text

theorem Settings.isReport_standard {path : Text}
    (named : Text.endsIn (Path.ofText path).lastName ".sarif".toList = true) :
    standard.isReport path = true := by
  obtain ⟨front, same⟩ := List.isSuffixOf_iff_suffix.mp named
  obtain ⟨small, letterAfter, lowered⟩ := Text.exists_lowerAfter_append false front ".sarif".toList
  have ends : Text.endsIn (Text.lower (Path.ofText path).lastName) ".sarif".toList = true := by
    rw [← same, Text.lower, lowered, Text.lowerAfter_sarif]
    exact List.isSuffixOf_iff_suffix.mpr (List.suffix_append ..)
  rw [isReport, standard, List.any_cons, ends, Bool.true_or]

/-- Where a file stands, or can be made. -/
def Target.place? : Target → Option Path
  | .file path _ | .free path => some path
  | _ => none

namespace Files

/-- Another file in place of one with a path leaves all paths as they are. -/
theorem fst_replaced (path : Path) (file : File) (entry : Path × File) :
    (if entry.1 = path then (path, file) else entry).1 = entry.1 := by
  split
  next same => exact same.symm
  next => rfl

theorem fileAt?_put (files : Files) (path : Path) (file : File) (other : Path) :
    (files.put path file).fileAt? other =
      if other = path then some file else files.fileAt? other := by
  unfold put
  split
  next there =>
    simp only [fileAt?, List.find?_map, Function.comp_def, fst_replaced]
    cases found : files.entries.find? fun entry => entry.1 = other with
    | none =>
      have different : other ≠ path := by
        rintro rfl
        obtain ⟨entry, member, same⟩ := List.any_eq_true.mp there
        exact List.find?_eq_none.mp found entry member same
      rw [if_neg different]
      rfl
    | some entry =>
      have same : entry.1 = other := by simpa using List.find?_some found
      rw [Option.map_some, Option.map_some, Option.map_some, same]
      by_cases this : other = path
      · rw [if_pos this, if_pos this]
      · rw [if_neg this, if_neg this]
  next absent =>
    have others : files.fileAt? path = none := by
      rw [fileAt?, Option.map_eq_none_iff, List.find?_eq_none]
      exact fun entry member same => absent (List.any_eq_true.mpr ⟨entry, member, same⟩)
    rw [fileAt?, List.find?_append]
    by_cases this : other = path
    · subst this
      rw [fileAt?, Option.map_eq_none_iff] at others
      rw [others, if_pos rfl, Option.none_or, List.find?_cons_of_pos (by simp)]
      rfl
    · rw [if_neg this, List.find?_cons_of_neg (by simp [Ne.symm this]), List.find?_nil,
        Option.or_none]
      rfl

theorem isDirectory_put (files : Files) (path : Path) (file : File) (other : Path) :
    (files.put path file).isDirectory other = files.isDirectory other := by
  unfold put
  split <;> rfl

/-- A name leads to a place that is no directory, or into a directory. -/
theorem follow_cons {files : Files} {current : Path} {name : Text} {rest : List Text} {path : Path}
    (place : (files.follow current (name :: rest)).place? = some path) :
    ¬nameLimit < (Text.toBytes name).size ∧
      (rest = [] ∧ current.enter name = path ∧
          (files.fileAt? path = none → files.isDirectory path = false) ∨
        files.fileAt? (current.enter name) = none ∧
          files.isDirectory (current.enter name) = true ∧
          (files.follow (current.enter name) rest).place? = some path) := by
  rw [follow] at place
  split at place
  next => cases place
  next short =>
    refine ⟨short, ?_⟩
    dsimp only at place
    split at place
    next file found =>
      split at place
      next last =>
        cases place
        exact .inl ⟨List.isEmpty_iff.mp last, rfl, fun free => nomatch found.symm.trans free⟩
      next => cases place
    next free =>
      split at place
      next directory => exact .inr ⟨free, directory, place⟩
      next other =>
        split at place
        next => split at place <;> cases place
        split at place
        next last =>
          cases place
          exact .inl ⟨List.isEmpty_iff.mp last, rfl, fun _ => Bool.eq_false_iff.mpr other⟩
        next => cases place

/-- No way leads through a place: it holds a file, or nothing. -/
theorem not_isDirectory_of_place {files : Files} {current : Path} {names : List Text} {path : Path}
    (place : (files.follow current names).place? = some path) (free : files.fileAt? path = none) :
    files.isDirectory path = false := by
  induction names generalizing current with
  | nil => cases place
  | cons name rest ih =>
    obtain ⟨-, ⟨-, -, closed⟩ | ⟨-, -, onwards⟩⟩ := follow_cons place
    · exact closed free
    · exact ih onwards

/-- The way to a place leads to what is put there. -/
theorem follow_put {files : Files} {current : Path} {names : List Text} {path : Path} (file : File)
    (place : (files.follow current names).place? = some path) :
    (files.put path file).follow current names = .file path file := by
  induction names generalizing current with
  | nil => cases place
  | cons name rest ih =>
    have closed := not_isDirectory_of_place place
    obtain ⟨short, ⟨rfl, rfl, -⟩ | ⟨free, directory, onwards⟩⟩ := follow_cons place
    · rw [follow, if_neg short]
      simp only [fileAt?_put, if_true, List.isEmpty_nil]
    · have elsewhere : current.enter name ≠ path := by
        rintro rfl
        rw [closed free] at directory
        cases directory
      rw [follow, if_neg short]
      simp only [fileAt?_put, if_neg elsewhere, free, isDirectory_put, directory, if_true]
      exact ih onwards

/-- A text that is written to a place is what the file there holds. -/
theorem readText_writeText {files : Files} {path text : Text} {place : Path}
    (found : (files.locate path).place? = some place) (noReturn : '\r' ∉ text) :
    ∃ after, files.writeText path text = .ok after ∧ after.readText path = .ok text := by
  let file : File := ⟨Text.toBytes text, none⟩
  have written : files.writeText path text = .ok (files.put place file) := by
    rw [writeText]
    cases target : files.locate path with
    | file | free =>
      rw [target] at found
      cases found
      rfl
    | _ =>
      rw [target] at found
      cases found
  have there : (files.put place file).locate path = .file place file := by
    rw [locate] at found ⊢
    split at found
    next => cases found
    split at found
    next => cases found
    next null short =>
      rw [if_neg null, if_neg short]
      exact follow_put file found
  refine ⟨files.put place file, written, ?_⟩
  simp only [readText, open?, there, Except.bind, file, Text.ofBytes?_toBytes,
    Text.plainLineEnds_of_no_return noReturn]

end Files
end Diagnostics
