import Diagnostics.Command.Run
import Diagnostics.Proofs.Render.Success
import Mathlib.Data.List.Basic

/-!
The exit code for showing the messages of a file. It tells whether one of the messages shown makes
the run fail: those that lack a file or a text are passed over before they are counted.
-/
namespace Diagnostics

theorem Severity.isBlocking_iff {s : Severity} : s.isBlocking = true ↔ s = .error ∨ s = .fatal := by
  cases s <;> decide

/-- The message makes the run fail, and it has what a message that is shown must have. -/
def Message.isCounted (m : Message) : Bool := m.Whole && m.level.isBlocking

/-- The message ends the run, since one of its numbers cannot be written. -/
def Message.EndsRun (m : Message) : Prop := m.Whole ∧ m.Overlong

namespace Command.Surroundings

/-! ## Showing messages -/

section Showing
variable (s : Surroundings) {settings : Settings}
  (readable : settings.painting.ReadableBy s.palette) (failure : Option Error)
include readable

theorem showAll_of_endsRun {ms : List Message} (ends : ∃ m ∈ ms, m.EndsRun) :
    (s.showAll settings failure ms).failure = some .unwritable := by
  induction ms with
  | nil => obtain ⟨_, member, _⟩ := ends; cases member
  | cons m rest ih =>
    have later (goesOn : ¬ m.EndsRun) : ∃ m ∈ rest, m.EndsRun :=
      (List.or_exists_of_exists_mem_cons ends).resolve_left goesOn
    rw [showAll]
    rcases m.renderWith_cases fun _ => readable with
      ⟨lacks, e, refused⟩ | ⟨_, _, broken⟩ | ⟨_, short, text, rendered⟩
    · rw [refused]
      exact ih (later fun ends => lacks ends.1)
    · rw [broken]
      rfl
    · rw [rendered]
      exact ih (later fun ends => short ends.2)

theorem showAll_of_not_endsRun {ms : List Message} (goesOn : ∀ m ∈ ms, ¬ m.EndsRun) :
    (s.showAll settings failure ms).failure = failure ∧
      (s.showAll settings failure ms).blocking = ms.countP Message.isCounted := by
  induction ms with
  | nil => exact ⟨rfl, rfl⟩
  | cons m rest ih =>
    rw [List.forall_mem_cons] at goesOn
    obtain ⟨sameFailure, counted⟩ := ih goesOn.2
    rw [showAll, List.countP_cons, ← counted, Message.isCounted]
    rcases m.renderWith_cases fun _ => readable with
      ⟨lacks, e, refused⟩ | ⟨whole, long, _⟩ | ⟨whole, _, text, rendered⟩
    · rw [refused, decide_eq_false lacks]
      exact ⟨sameFailure, rfl⟩
    · exact absurd ⟨whole, long⟩ goesOn.1
    · rw [rendered, decide_eq_true whole]
      exact ⟨sameFailure, rfl⟩

end Showing

/-! ## Exit codes -/

section Rendering
variable (s : Surroundings) {settings : Settings} {path : Text} {ms : List Message}
  (read : s.files.messages settings s.room path = .ok (ms, none))
  (readable : settings.painting.ReadableBy s.palette)
include read readable

theorem render_of_endsRun (ends : ∃ m ∈ ms, m.EndsRun) :
    ∃ output, s.render settings path = s.failed output .unwritable := by
  rw [render, read]
  dsimp only
  rw [showAll_of_endsRun s readable none ends]
  exact ⟨_, rfl⟩

theorem render_of_not_endsRun (goesOn : ∀ m ∈ ms, ¬ m.EndsRun) :
    ∃ output, s.render settings path =
      s.finished (if ms.any Message.isCounted then 1 else 0) output := by
  obtain ⟨noFailure, blocking⟩ := showAll_of_not_endsRun s readable none goesOn
  rw [render, read]
  dsimp only
  rw [noFailure, blocking]
  by_cases counted : ms.any Message.isCounted = true
  · have some : ms.countP Message.isCounted ≠ 0 :=
      Nat.ne_of_gt (List.countP_pos_iff.mpr (List.any_eq_true.mp counted))
    simp only [if_neg some, if_pos counted]
    exact ⟨_, rfl⟩
  · have none : ms.countP Message.isCounted = 0 := by
      rw [List.any_eq_true] at counted
      exact List.countP_eq_zero.mpr fun m member counts => counted ⟨m, member, counts⟩
    simp only [if_pos none, if_neg counted]
    exact ⟨_, rfl⟩

end Rendering

/-- The exit code for showing the messages of a file, with styles that can be read, is one exactly if
one of those that lack nothing is an error, or is shown with a number that is too long to be written.
A report with half of a character in it gives no messages here. -/
theorem run_render_exitCode (s : Surroundings) (file : Text) (color : Option Bool)
    (settings? : Option Text) {settings : Settings} {path : Text} {ms : List Message}
    (loaded : Settings.load s.files s.room (settings?.getD Settings.standardFile) = .ok settings)
    (found : s.existing file = .ok (some path))
    (read : s.files.messages settings s.room path = .ok (ms, none))
    (readable : settings.painting.ReadableBy s.palette) :
    ((s.run (.render file color settings?)).exitCode = 1 ↔
      ∃ m ∈ ms, m.Whole ∧ (m.level = .error ∨ m.level = .fatal ∨ m.Overlong)) ∧
    ((s.run (.render file color settings?)).exitCode = 0 ∨
      (s.run (.render file color settings?)).exitCode = 1) ∧
    ((s.run (.render file color settings?)).failure = none ↔
      ∀ m ∈ ms, m.Whole → ¬ m.Overlong) := by
  -- An option for colours changes neither the messages nor the styles.
  obtain ⟨chosen, ran, same, painting⟩ : ∃ chosen,
      s.run (.render file color settings?) = s.render chosen path ∧
      s.files.messages chosen s.room path = .ok (ms, none) ∧
      chosen.painting.ReadableBy s.palette := by
    cases color with
    | none =>
      refine ⟨settings, ?_, read, readable⟩
      simp only [run, prepare, Command.settings?, Command.file, loaded, found]
    | some color =>
      refine ⟨{ settings with color := some color }, ?_, read, readable⟩
      simp only [run, prepare, Command.settings?, Command.file, loaded, found]
  rw [ran]
  by_cases ends : ∃ m ∈ ms, m.EndsRun
  · obtain ⟨output, broken⟩ := render_of_endsRun s same painting ends
    obtain ⟨m, member, whole, long⟩ := ends
    rw [broken]
    refine ⟨⟨fun _ => ⟨m, member, whole, .inr (.inr long)⟩, fun _ => rfl⟩, .inr rfl, nofun, ?_⟩
    exact fun goesOn => absurd long (goesOn m member whole)
  · have goesOn : ∀ m ∈ ms, ¬ m.EndsRun := fun m member endsRun => ends ⟨m, member, endsRun⟩
    obtain ⟨output, finished⟩ := render_of_not_endsRun s same painting goesOn
    have counted : ms.any Message.isCounted = true ↔ ∃ m ∈ ms, m.Whole ∧
        (m.level = .error ∨ m.level = .fatal ∨ m.Overlong) := by
      rw [List.any_eq_true]
      refine exists_congr fun m => and_congr_right fun member => ?_
      rw [Message.isCounted, Bool.and_eq_true, decide_eq_true_iff, Severity.isBlocking_iff]
      refine and_congr_right fun whole => ?_
      have short : ¬ m.Overlong := fun long => goesOn m member ⟨whole, long⟩
      simp only [short, or_false]
    rw [finished, ← counted]
    have shown : ∀ m ∈ ms, m.Whole → ¬ m.Overlong := fun m member whole long =>
      goesOn m member ⟨whole, long⟩
    cases ms.any Message.isCounted with
    | true => exact ⟨⟨fun _ => rfl, fun _ => rfl⟩, .inr rfl, fun _ => shown, fun _ => rfl⟩
    | false => exact ⟨⟨nofun, nofun⟩, .inl rfl, fun _ => shown, fun _ => rfl⟩

def silentLine : Text := "a.c:1:1: error: \n".toList

def silentError : Surroundings where
  files := Files.empty.add "build.log".toList ⟨Text.toBytes silentLine, none⟩
  room := 1000
  clock := ⟨⟨2020, 1, 2, 12, 0, 0⟩, fun _ => 0⟩
  palette := Style.palette
  terminal := false
  home? := fun _ => none

theorem messages_silentError :
    silentError.files.messages .standard silentError.room "build.log".toList =
      .ok ([⟨"a.c".toList, .error, ⟨[], some 1, some 1⟩, none, []⟩], none) := by
  have opened : silentError.files.open? "build.log".toList = .ok ⟨Text.toBytes silentLine, none⟩ := rfl
  have lines : silentError.files.readLines "build.log".toList = .ok ([silentLine], none) := by
    rw [Files.readLines, opened, Except.map, Text.ofBytes?_toBytes]
    rfl
  have read : Log.messagesFrom none .empty [silentLine] =
      ([⟨"a.c".toList, .error, ⟨[], some 1, some 1⟩, none, []⟩], none) := by decide +kernel
  rw [Files.messages, if_neg (by decide), Files.logMessages, lines]
  exact congrArg Except.ok read

/-- An error that is not shown leaves the exit code at zero. -/
theorem run_silentError_exitCode :
    ∃ m, silentError.files.messages .standard silentError.room "build.log".toList = .ok ([m], none) ∧
      m.level = .error ∧ (silentError.run (.render "build.log".toList none none)).exitCode = 0 := by
  have loaded : Settings.load silentError.files silentError.room Settings.standardFile =
      .ok .standard := rfl
  have found : silentError.existing "build.log".toList = .ok (some "build.log".toList) := rfl
  obtain ⟨exits, codes, _⟩ := run_render_exitCode silentError "build.log".toList none none loaded found
    messages_silentError Styles.standard_readable.by_palette
  refine ⟨_, messages_silentError, rfl, codes.resolve_right fun one => ?_⟩
  obtain ⟨m, member, whole, _⟩ := exits.mp one
  cases List.mem_singleton.mp member
  exact whole.2.1 rfl

end Command.Surroundings
end Diagnostics
