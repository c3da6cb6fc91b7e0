import Diagnostics.Proofs.Message.Fix
import Diagnostics.Proofs.Message.Validity

/-!
Messages in the course of their changes. However a message was made, and whatever changes have been
tried on it, it is valid: what it says of its line can be read, and its hints are spaced.
-/
namespace Diagnostics.Message

/-! ## One change -/

theorem valid_of_recheck {m changed : Message} (located : m.location.Valid)
    (counted : ∀ c ∈ m.context, 1 ≤ c.start) (hinted : ∀ h ∈ m.hints, h.Valid)
    (made : m.recheck = .ok changed) : changed.Valid :=
  valid_of_build located counted hinted (checked_eq_ok.mp made)

theorem Valid.one_le_start {m : Message} (valid : m.Valid) : ∀ c ∈ m.context, 1 ≤ c.start :=
  fun c member => (valid.context_around c member).1

theorem valid_of_withFile {m changed : Message} {file : Text} (valid : m.Valid)
    (made : m.withFile file = .ok changed) : changed.Valid :=
  valid_of_recheck (m := { m with file }) valid.location_valid valid.one_le_start
    valid.hints_valid made

theorem valid_of_withLevel {m changed : Message} {level : Severity} (valid : m.Valid)
    (made : m.withLevel level = .ok changed) : changed.Valid :=
  valid_of_recheck (m := { m with level }) valid.location_valid valid.one_le_start
    valid.hints_valid made

/-- Hints that are there already stay, so they are checked again with the new context. -/
theorem valid_of_attach {m changed : Message} {c : Context} (valid : m.Valid) (counted : 1 ≤ c.start)
    (made : m.attach c = .ok changed) : changed.Valid := by
  unfold attach at made
  split at made
  · contradiction
  · refine valid_of_recheck (m := { m with context := some c }) valid.location_valid ?_
      valid.hints_valid made
    rintro other ⟨⟩
    exact counted

theorem valid_of_withContext {m changed : Message} {start : Int} {lines : List Text}
    (valid : m.Valid) (made : m.withContext start lines = .ok changed) : changed.Valid := by
  unfold withContext at made
  split at made
  · contradiction
  · rename_i positive
    refine valid_of_attach valid (c := ⟨start.toNat, lines⟩) ?_ made
    change 1 ≤ start.toNat
    omega

theorem valid_of_withHint {m changed : Message} {h : Hint} (valid : m.Valid) (hinted : h.Valid)
    (made : m.withHint h = .ok changed) : changed.Valid := by
  unfold withHint at made
  split at made
  · contradiction
  · split at made
    · contradiction
    · refine valid_of_recheck (m := { m with hints := Hint.sort (m.hints ++ [h]) })
        valid.location_valid valid.one_le_start ?_ made
      intro other member
      rcases List.mem_append.mp (Hint.mem_sort.mp member) with old | new
      · exact valid.hints_valid other old
      · rw [List.mem_singleton.mp new]
        exact hinted

/-! ## Any run of changes -/

/-- How a message is made: out of its parts, or out of values that are checked. -/
inductive Made (m : Message) : Prop
  | created {file text : Text} {level : Severity} {line column : Option Int}
      (made : create file text level line column = .ok m)
  | described {level : Severity} {members : Members} (made : describe level members = .ok m)
  | checked {value : Value} (made : check value = .ok m)

/-- A change, with the values for it. -/
inductive Change where
  | file (name : Value)
  | level (name : Value)
  | context (start lines : Value)
  | hint (added : Hint) (valid : added.Valid)

/-- What a change leads to. -/
def Change.outcome (m : Message) : Change → Outcome Message
  | .file name => m.withFileValue name
  | .level name => m.withLevelValue name
  | .context start lines => m.withContextValues start lines
  | .hint added _ => m.withHint added

/-- The message after a change, the same one if the change is refused. -/
def Change.perform (m : Message) (change : Change) : Message :=
  match change.outcome m with
  | .ok changed => changed
  | .error _ => m

/-- The message after some changes, one after the other. -/
def run (m : Message) (changes : List Change) : Message := changes.foldl Change.perform m

theorem valid_of_made {m : Message} (made : Made m) : m.Valid := by
  cases made with
  | created made => exact valid_of_create made
  | described made => exact valid_of_describe made
  | checked made => exact valid_of_check made

theorem valid_of_outcome {m changed : Message} (valid : m.Valid) (change : Change)
    (made : change.outcome m = .ok changed) : changed.Valid := by
  cases change with
  | file name =>
    simp only [Change.outcome, withFileValue, bind_eq_ok] at made
    obtain ⟨_, _, made⟩ := made
    exact valid_of_withFile valid made
  | level name =>
    simp only [Change.outcome, withLevelValue, bind_eq_ok] at made
    obtain ⟨_, _, made⟩ := made
    exact valid_of_withLevel valid made
  | context start lines =>
    simp only [Change.outcome, withContextValues, bind_eq_ok] at made
    obtain ⟨refused, _, made⟩ := made
    split at made
    · contradiction
    · simp only [bind_eq_ok, checked_eq_ok, Check.member_eq_ok] at made
      obtain ⟨_, _, first, counted, made⟩ := made
      exact valid_of_attach valid (Check.le_of_natural counted) made
  | hint added hinted => exact valid_of_withHint valid hinted made

theorem valid_perform {m : Message} (valid : m.Valid) (change : Change) :
    (change.perform m).Valid := by
  unfold Change.perform
  split
  · rename_i changed made
    exact valid_of_outcome valid change made
  · exact valid

theorem valid_run {m : Message} (valid : m.Valid) (changes : List Change) :
    (run m changes).Valid := by
  induction changes generalizing m with
  | nil => exact valid
  | cons change rest ih => exact ih (valid_perform valid change)

/-- Spaced hints share no column. -/
theorem length_filter_covers_le {hints : List Hint} (spaced : Spaced hints) (column : Nat) :
    (hints.filter fun h => h.span.covers column).length ≤ 1 := by
  have covering : ∀ h ∈ hints.filter (fun h => h.span.covers column),
      h.index ≤ column ∧ column < h.span.stop := by
    intro h member
    have covers : h.span.covers column = true := (List.mem_filter.mp member).2
    exact of_decide_eq_true covers
  have gaps : (hints.filter fun h => h.span.covers column).Pairwise
      fun h later => h.span.stop < later.index := List.Pairwise.filter _ spaced
  cases found : hints.filter fun h => h.span.covers column with
  | nil => exact Nat.zero_le 1
  | cons first rest =>
    cases rest with
    | nil => exact Nat.le_refl 1
    | cons second rest =>
      rw [found] at covering gaps
      have gap := (List.pairwise_cons.mp gaps).1 second List.mem_cons_self
      have one := covering first List.mem_cons_self
      have other := covering second (List.mem_cons_of_mem _ List.mem_cons_self)
      omega

/-- The text and the length of a hint go with its kind. -/
theorem parts_of_kind (h : Hint) :
    h.text?.isSome = h.kind.hasText ∧ (h.kind = .insert → h.span.length = 1) := by
  cases h <;> simp [Hint.text?, Hint.kind, HintKind.hasText, Hint.span]

/-- What holds of every message at every time. -/
theorem run_sound {m : Message} (made : Made m) (changes : List Change) :
    (run m changes).Valid ∧
      (∀ c ∈ (run m changes).context, ∃ line,
        c.lines[(run m changes).line - c.start]? = some line ∧
          (run m changes).focusLine = .ok line) ∧
      (∀ h ∈ (run m changes).hints,
        h.text?.isSome = h.kind.hasText ∧ (h.kind = .insert → h.span.length = 1)) ∧
      ∀ column, ((run m changes).hints.filter fun h => h.span.covers column).length ≤ 1 := by
  have valid := valid_run (valid_of_made made) changes
  exact ⟨valid, fun _ around => exists_focusLine valid around, fun h _ => parts_of_kind h,
    length_filter_covers_le valid.hints_spaced⟩

/-- A message without context on the second line. -/
def onSecondLine : Message where
  file := "a.c".toList
  level := .warning
  location := ⟨"t".toList, some 2, none⟩
  context := none
  hints := []

/-- Changes of which the first and the last two are refused. -/
def someChanges : List Change :=
  [.hint (.insert 1 []) (by decide), .context (.integer 1) (.text "a\nbc".toList),
    .hint (.remove ⟨5, 0⟩) (by decide), .hint (.insert 1 "x".toList) (by decide),
    .hint (.mark ⟨2, 1⟩) (by decide), .context (.integer 3) (.text "d".toList)]

theorem run_onSecondLine_sound : Made onSecondLine ∧
    (run onSecondLine someChanges).context = some ⟨1, ["a".toList, "bc".toList]⟩ ∧
    (run onSecondLine someChanges).hints = [.insert 1 "x".toList, .remove ⟨5, 0⟩] ∧
    (run onSecondLine someChanges).Valid ∧
    (∀ c ∈ (run onSecondLine someChanges).context, ∃ line,
      c.lines[(run onSecondLine someChanges).line - c.start]? = some line ∧
        (run onSecondLine someChanges).focusLine = .ok line) ∧
    (∀ h ∈ (run onSecondLine someChanges).hints,
      h.text?.isSome = h.kind.hasText ∧ (h.kind = .insert → h.span.length = 1)) ∧
    ∀ column,
      ((run onSecondLine someChanges).hints.filter fun h => h.span.covers column).length ≤ 1 := by
  have created : create "a.c".toList "t".toList .warning (some 2) none = .ok onSecondLine := rfl
  have made : Made onSecondLine := .created created
  exact ⟨made, rfl, rfl, run_sound made someChanges⟩

end Diagnostics.Message
