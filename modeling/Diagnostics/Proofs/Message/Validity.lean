import Diagnostics.Message.Update
import Diagnostics.Proofs.Check.Success
import Diagnostics.Proofs.Hint.Order

/-!
Every message that is made out of parts or values is valid, and so is every changed copy of a valid
one. Each step says what it has checked; the gaps between hints come from the order in which they
are put and from the search for touching ones.
-/
namespace Diagnostics

/-! ## Parts -/

theorem Span.one_le_index {value : Value} {s : Span} (read : Span.check value = .ok s) :
    1 ≤ s.index := by
  simp only [Span.check, Check.record_eq_ok, map_eq_ok, Check.both_eq_ok, Check.required_eq_ok] at read
  obtain ⟨members, _, ⟨index, length⟩, ⟨⟨source, _, read⟩, _⟩, rfl⟩ := read
  exact Check.le_of_natural read

theorem Hint.index_of_make {kind : HintKind} {span : Span} {text : Option Text} {h : Hint}
    (made : Hint.make kind span text = .ok h) : h.index = span.index := by
  unfold Hint.make at made
  split at made
  · rename_i hint parts
    cases made
    unfold Hint.ofParts? at parts
    split at parts
    · cases parts
      rfl
    · split at parts
      · cases parts
        rfl
      · contradiction
    · cases parts
      rfl
    · cases parts
      rfl
    · contradiction
  · split at made <;> exact absurd made Check.fail_ne_ok

theorem Hint.valid_of_check {value : Value} {h : Hint} (read : Hint.check value = .ok h) :
    h.Valid := by
  simp only [Hint.check, Check.record_eq_ok, bind_eq_ok, Check.both_eq_ok, Check.required_eq_ok] at read
  obtain ⟨members, _, ⟨kind, span, text⟩, ⟨_, ⟨source, _, read⟩, _⟩, made⟩ := read
  rw [Hint.Valid, Hint.index_of_make made]
  exact Span.one_le_index read

theorem Location.checkText_eq_ok {text checked : Text} :
    Location.checkText text = .ok checked ↔ text.any Text.isBreak = false ∧ text = checked := by
  rw [Location.checkText, Check.rule_eq_ok, Bool.not_eq_true']

theorem Location.one_le_of_member {members : Members} {name : String} {found : Option Nat}
    (read : Check.defaulted members name none (Check.optional (Check.natural 1)) = .ok found) :
    ∀ n ∈ found, 1 ≤ n := by
  intro n member
  rcases Check.defaulted_eq_ok.mp read with ⟨_, rfl⟩ | ⟨value, _, read⟩
  · cases member
  · exact Check.le_of_natural (Check.exists_of_optional read n member)

theorem Location.one_le_of_checkNumber {given : Option Int} {found : Option Nat}
    (read : Location.checkNumber given = .ok found) : ∀ n ∈ found, 1 ≤ n := by
  intro n member
  cases given with
  | none =>
    cases read
    cases member
  | some i =>
    obtain ⟨k, inRange, rfl⟩ := map_eq_ok.mp read
    cases member
    rw [Check.atLeast_eq_ok] at inRange
    omega

theorem Location.valid_of_ofMembers {members : Members} {l : Location}
    (read : Location.ofMembers members = .ok l) : l.Valid := by
  simp only [Location.ofMembers, map_eq_ok, Check.both_eq_ok, Check.required_eq_ok, bind_eq_ok,
    Location.checkText_eq_ok] at read
  obtain ⟨⟨text, line, column⟩, ⟨⟨_, _, t, _, single, rfl⟩, lineRead, columnRead⟩, rfl⟩ := read
  exact ⟨single, one_le_of_member lineRead, one_le_of_member columnRead⟩

theorem Location.valid_of_make {text : Text} {line column : Option Int} {l : Location}
    (made : Location.make text line column = .ok l) : l.Valid := by
  simp only [Location.make, map_eq_ok, Check.both_eq_ok, Check.member_eq_ok,
    Location.checkText_eq_ok] at made
  obtain ⟨⟨text, line, column⟩, ⟨⟨single, rfl⟩, lineRead, columnRead⟩, rfl⟩ := made
  exact ⟨single, one_le_of_checkNumber lineRead, one_le_of_checkNumber columnRead⟩

theorem Context.one_le_start {value : Value} {c : Context} (read : Context.check value = .ok c) :
    1 ≤ c.start := by
  simp only [Context.check, Check.record_eq_ok, map_eq_ok, Check.both_eq_ok, Check.required_eq_ok]
    at read
  obtain ⟨members, _, ⟨start, lines⟩, ⟨⟨source, _, read⟩, _⟩, rfl⟩ := read
  exact Check.le_of_natural read

/-! ## Whole messages -/

namespace Message

theorem isBlank_of_isBreak {c : Char} (h : Text.isBreak c = true) : Text.isBlank c = true := by
  rcases (by simpa [Text.isBreak] using h) with rfl | rfl <;> decide

theorem checkFile_eq_ok {file checked : Text} :
    checkFile file = .ok checked ↔ file.any Text.isBlank = false ∧ file = checked := by
  simp only [checkFile, bind_eq_ok, Check.rule_eq_ok, Bool.not_eq_true']
  constructor
  · rintro ⟨_, ⟨_, rfl⟩, solid, rfl⟩
    exact ⟨solid, rfl⟩
  · rintro ⟨solid, rfl⟩
    refine ⟨file, ⟨?_, rfl⟩, solid, rfl⟩
    rw [List.any_eq_false] at solid ⊢
    exact fun c member isBreak => solid c member (isBlank_of_isBreak isBreak)

theorem contextMisfit?_eq_none_iff {line : Nat} {c : Context} :
    contextMisfit? line c = none ↔ c.start ≤ line ∧ line < c.start + c.lines.length := by
  simp only [contextMisfit?, Context.contains, decide_eq_true_eq]
  split
  · simp only [true_iff]
    omega
  · simp only [reduceCtorEq, false_iff]
    omega

theorem hintMisfit?_eq_none_iff {hints : List Hint} :
    hintMisfit? hints = none ↔ Hint.Apart hints := by
  rw [hintMisfit?, Option.map_eq_none_iff, Hint.firstTouch?_eq_none_iff]

theorem misfit?_eq_none_iff {line : Nat} {context : Option Context} {hints : List Hint} :
    misfit? line context hints = none ↔
      (context = none → hints = []) ∧
      (∀ c ∈ context, c.start ≤ line ∧ line < c.start + c.lines.length) ∧
      Hint.Apart hints := by
  cases context with
  | none =>
    cases hints <;> simp [misfit?, Hint.Apart]
  | some c =>
    simp only [misfit?, Option.or_eq_none_iff, contextMisfit?_eq_none_iff, hintMisfit?_eq_none_iff]
    simp

theorem fitted_eq_ok {file : Text} {level : Severity} {location : Location}
    {context : Option Context} {hints : List Hint} {m : Message} :
    fitted file level location context hints = .ok m ↔
      misfit? location.effectiveLine context (Hint.sort hints) = none ∧
        m = ⟨file, level, location, context, Hint.sort hints⟩ := by
  unfold fitted
  dsimp only
  split
  · rename_i misfit found
    simp [found]
  · rename_i none
    simp [none, eq_comm]

/-- Parts that are valid by themselves and fit together make a valid message. -/
theorem valid_of_fitted {file : Text} {level : Severity} {location : Location}
    {context : Option Context} {hints : List Hint} {m : Message}
    (solid : file.any Text.isBlank = false) (located : location.Valid)
    (counted : ∀ c ∈ context, 1 ≤ c.start) (hinted : ∀ h ∈ hints, h.Valid)
    (made : fitted file level location context hints = .ok m) : m.Valid := by
  obtain ⟨fits, rfl⟩ := fitted_eq_ok.mp made
  obtain ⟨bare, around, apart⟩ := misfit?_eq_none_iff.mp fits
  exact {
    file_solid := solid
    location_valid := located
    context_around := fun c member => ⟨counted c member, around c member⟩
    hints_in_context := bare
    hints_valid := fun h member => hinted h (Hint.mem_sort.mp member)
    hints_spaced := (Hint.spaced_iff_apart (Hint.sort_ascending hints)).mpr apart }

theorem valid_of_build {file : Text} {level : Severity} {location : Location}
    {context : Option Context} {hints : List Hint} {m : Message} (located : location.Valid)
    (counted : ∀ c ∈ context, 1 ≤ c.start) (hinted : ∀ h ∈ hints, h.Valid)
    (made : build file level location context hints = .ok m) : m.Valid := by
  simp only [build, bind_eq_ok, Check.member_eq_ok, checkFile_eq_ok] at made
  obtain ⟨_, ⟨solid, rfl⟩, made⟩ := made
  exact valid_of_fitted solid located counted hinted made

@[simp] theorem checked_eq_ok {α : Type} {subject : Subject} {check : Checked α} {a : α} :
    checked subject check = .ok a ↔ check = .ok a := by
  cases check <;> simp [checked]

/-! ## The ways to make a message -/

theorem valid_of_create {file text : Text} {level : Severity} {line column : Option Int}
    {m : Message} (made : create file text level line column = .ok m) : m.Valid := by
  simp only [create, bind_eq_ok, checked_eq_ok] at made
  obtain ⟨location, located, made⟩ := made
  exact valid_of_build (Location.valid_of_make located) (by simp) (by simp) made

theorem valid_of_describe {level : Severity} {members : Members} {m : Message}
    (made : describe level members = .ok m) : m.Valid := by
  simp only [describe, bind_eq_ok, checked_eq_ok, Check.required_eq_ok, checkFile_eq_ok] at made
  obtain ⟨location, located, _, ⟨_, _, file, _, solid, rfl⟩, made⟩ := made
  exact valid_of_fitted solid (Location.valid_of_ofMembers located) (by simp) (by simp) made

theorem valid_of_check {value : Value} {m : Message} (made : check value = .ok m) : m.Valid := by
  simp only [check, Check.record_eq_ok, bind_eq_ok, Check.both_eq_ok, Check.required_eq_ok,
    checkFile_eq_ok] at made
  obtain ⟨members, _, ⟨file, level, location, context, hints⟩,
    ⟨⟨_, _, _, _, solid, rfl⟩, _, ⟨_, _, located⟩, contextRead, hintsRead⟩, made⟩ := made
  refine valid_of_fitted solid ?_ ?_ ?_ made
  · simp only [Location.check, Check.record_eq_ok] at located
    obtain ⟨_, _, located⟩ := located
    exact Location.valid_of_ofMembers located
  · intro c member
    rcases Check.defaulted_eq_ok.mp contextRead with ⟨_, rfl⟩ | ⟨source, _, read⟩
    · cases member
    · exact Context.one_le_start (Check.exists_of_optional read c member)
  · intro h member
    rcases Check.defaulted_eq_ok.mp hintsRead with ⟨_, rfl⟩ | ⟨source, _, read⟩
    · cases member
    · obtain ⟨item, checked⟩ := Check.exists_of_list read h member
      exact Hint.valid_of_check checked

end Message
end Diagnostics
