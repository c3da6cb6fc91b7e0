import Diagnostics.Patch.Apply
import Diagnostics.Proofs.Text.LineEnds

/-!
Patches applied to a text that is given, and to the file that holds it. The file is read with a line
feed for each end of a line, and a carriage return that stands alone is one of these; in a text that
is given it belongs to its line. Both ways agree on all other texts.
-/
namespace Diagnostics.Patch

/-- The file that a patch names holds a text. -/
def Supplies (files : Files) (patch source : Text) : Prop :=
  ∀ file, target patch = .ok file →
    ∃ modified, files.open? file = .ok ⟨Text.toBytes source, modified⟩

section Supplied
variable {files : Files} {patch source : Text}

theorem readText_of_open? {file : Text} {modified : Option Int}
    (holds : files.open? file = .ok ⟨Text.toBytes source, modified⟩) :
    files.readText file = .ok (Text.plainLineEnds source) := by
  rw [Files.readText, holds, Except.bind, Text.ofBytes?_toBytes]

theorem applyIn_of_supplies (supplies : Supplies files patch source) :
    applyIn files patch = apply patch (Text.plainLineEnds source) := by
  rw [applyIn]
  cases named : target patch with
  | error e => rw [apply, named]; rfl
  | ok file =>
    obtain ⟨modified, holds⟩ := supplies file named
    dsimp only [bind, Except.bind]
    rw [readText_of_open? holds]

theorem apply_feedsOnly (paired : ¬ Text.LoneReturn source) :
    apply patch (Text.feedsOnly source) = apply patch source := by
  rw [apply, Text.fileLines_feedsOnly paired, Text.endsIn_feedsOnly, ← apply]

end Supplied

/-! ## A patch that changes nothing -/

/-- A patch of the file `a` that has a hunk without rows. -/
def unchanging : Text := "--- a\n+++ b\n@@ -0,0 +0,0 @@".toList

theorem target_unchanging : target unchanging = .ok ['a'] := by decide

theorem hunks_unchanging : hunks unchanging = .ok [⟨0, 0, []⟩] := by decide +kernel

/-- Even a patch that changes nothing puts a text together anew. -/
theorem apply_unchanging (source : Text) : apply unchanging source = .ok (Text.feedsOnly source) := by
  have lines : applyHunks (Text.fileLines source) 0 [⟨0, 0, []⟩] = .ok (Text.fileLines source) := by
    simp [applyHunks, applyHunk, applyRows, Hunk.start, Except.bind, bind, pure, Except.pure]
  rw [apply, target_unchanging, hunks_unchanging]
  dsimp only [bind, Except.bind]
  rw [lines, ← Text.joinLines_fileLines]
  rfl

/-- One file, with the name that the patch has. -/
def holding (source : Text) : Files := ⟨[([['a']], ⟨Text.toBytes source, none⟩)], [], []⟩

theorem supplies_holding (source : Text) : Supplies (holding source) unchanging source := by
  intro file named
  cases target_unchanging.symm.trans named
  exact ⟨none, rfl⟩

/-! ## Both ways -/

/-- Whatever the patch is, it does the same to a text and to the file that holds the text: exactly if
no carriage return stands alone in the text. -/
theorem applyIn_eq_apply_iff (source : Text) :
    (∀ files patch, Supplies files patch source → applyIn files patch = apply patch source) ↔
      ¬ Text.LoneReturn source := by
  constructor
  · intro agree
    have same := agree _ _ (supplies_holding source)
    rw [applyIn_of_supplies (supplies_holding source), apply_unchanging, apply_unchanging,
      Except.ok.injEq] at same
    rw [← Text.return_mem_feedsOnly_iff, ← same, Text.return_mem_feedsOnly_iff]
    exact Text.not_loneReturn_of_not_mem (Text.return_not_mem_plainLineEnds source)
  · intro paired files patch supplies
    rw [applyIn_of_supplies supplies, Text.plainLineEnds_eq_feedsOnly_iff.mpr paired,
      apply_feedsOnly paired]

end Diagnostics.Patch
