import Diagnostics.Text.Basic
import Mathlib.Data.List.TakeDrop
import Mathlib.Data.List.TakeWhile

/-!
Runs of characters of one class at either end of a text. A text is cut behind such a run exactly if
it ends there or goes on with a character outside of the class.
-/
namespace Diagnostics.Text
variable {inClass : Char → Bool} {run rest text : Text}

/-- A text is empty or starts outside of a class. -/
def Stops (inClass : Char → Bool) (rest : Text) : Prop := ∀ c ∈ rest.head?, inClass c = false

theorem stops_cons {c : Char} : Stops inClass (c :: rest) ↔ inClass c = false := by
  simp [Stops]

theorem stops_dropWhile (inClass : Char → Bool) (text : Text) :
    Stops inClass (text.dropWhile inClass) := by
  intro c first
  have outside := List.head?_dropWhile_not inClass text
  rw [first] at outside
  simpa using outside

theorem span_eq_iff :
    text.span inClass = (run, rest) ↔
      text = run ++ rest ∧ (∀ c ∈ run, inClass c = true) ∧ Stops inClass rest := by
  rw [List.span_eq_takeWhile_dropWhile, Prod.mk.injEq]
  constructor
  · rintro ⟨rfl, rfl⟩
    exact ⟨List.takeWhile_append_dropWhile.symm, fun c member => List.mem_takeWhile_imp member,
      stops_dropWhile inClass text⟩
  · rintro ⟨rfl, within, stops⟩
    rw [List.takeWhile_append_of_pos within, List.dropWhile_append_of_pos within]
    cases rest with
    | nil => simp
    | cons c rest => simp [stops_cons.mp stops]

theorem takeWhile_run (within : ∀ c ∈ run, inClass c = true) (stops : Stops inClass rest) :
    (run ++ rest).takeWhile inClass = run := by
  have cut := span_eq_iff.mpr ⟨rfl, within, stops⟩
  rw [List.span_eq_takeWhile_dropWhile] at cut
  exact congrArg Prod.fst cut

theorem dropWhile_run (within : ∀ c ∈ run, inClass c = true) (stops : Stops inClass rest) :
    (run ++ rest).dropWhile inClass = rest := by
  have cut := span_eq_iff.mpr ⟨rfl, within, stops⟩
  rw [List.span_eq_takeWhile_dropWhile] at cut
  exact congrArg Prod.snd cut

/-! ## Runs at the end -/

/-- What is left of a text without the run at its end stands in front of such a run, and does not end
in the class. -/
theorem trimEnd_eq_iff {body : Text} :
    trimEnd inClass text = body ↔ ∃ tail, text = body ++ tail ∧
      (∀ c ∈ tail, inClass c = true) ∧ ∀ c ∈ body.getLast?, inClass c = false := by
  constructor
  · rintro rfl
    refine ⟨(text.reverse.takeWhile inClass).reverse, ?_, fun c member => ?_, fun c last => ?_⟩
    · rw [trimEnd, ← List.reverse_append, List.takeWhile_append_dropWhile, List.reverse_reverse]
    · exact List.mem_takeWhile_imp (List.mem_reverse.mp member)
    · rw [trimEnd, List.getLast?_reverse] at last
      exact stops_dropWhile inClass text.reverse c last
  · rintro ⟨tail, rfl, within, solid⟩
    have stops : Stops inClass body.reverse := by simpa [Stops] using solid
    rw [trimEnd, List.reverse_append, List.reverse_eq_iff]
    exact dropWhile_run (fun c member => within c (List.mem_reverse.mp member)) stops

theorem trimEnd_eq_self (solid : ∀ c ∈ text.getLast?, inClass c = false) :
    trimEnd inClass text = text :=
  trimEnd_eq_iff.mpr ⟨[], (List.append_nil text).symm, List.forall_mem_nil _, solid⟩

theorem not_inClass_of_getLast?_trimEnd {c : Char}
    (last : (trimEnd inClass text).getLast? = some c) : inClass c = false := by
  obtain ⟨_, _, _, solid⟩ := trimEnd_eq_iff.mp (rfl : trimEnd inClass text = _)
  exact solid c last

theorem mem_of_mem_trimEnd {c : Char} (member : c ∈ trimEnd inClass text) : c ∈ text :=
  List.mem_reverse.mp ((List.dropWhile_suffix inClass).subset (List.mem_reverse.mp member))

end Diagnostics.Text
