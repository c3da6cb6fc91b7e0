import Diagnostics.Message.Update
import Diagnostics.Proofs.Message.Validity

/-!
What the checks of messages accept. A valid message passes them as it is, so it can be given any
line of its own place as context; a message out of its parts passes exactly if they are valid.
-/
namespace Diagnostics.Message

theorem build_of_valid {m : Message} (valid : m.Valid) :
    build m.file m.level m.location m.context m.hints = .ok m := by
  have sorted := Hint.sort_of_ascending (Hint.ascending_of_spaced valid.hints_spaced)
  have apart := (Hint.spaced_iff_apart (Hint.ascending_of_spaced valid.hints_spaced)).mp
    valid.hints_spaced
  have fits : misfit? m.location.effectiveLine m.context (Hint.sort m.hints) = none := by
    rw [sorted]
    exact misfit?_eq_none_iff.mpr
      ⟨valid.hints_in_context, fun c member => (valid.context_around c member).2, apart⟩
  have file : Check.member "file" (checkFile m.file) = .ok m.file :=
    Check.member_eq_ok.mpr (checkFile_eq_ok.mpr ⟨valid.file_solid, rfl⟩)
  exact bind_eq_ok.mpr ⟨m.file, file, fitted_eq_ok.mpr ⟨fits, by rw [sorted]⟩⟩

theorem recheck_of_valid {m : Message} (valid : m.Valid) : m.recheck = .ok m :=
  checked_eq_ok.mpr (build_of_valid valid)

/-- A context that starts with the line of the message fits. -/
theorem valid_with_lines {m : Message} (valid : m.Valid) (counted : 1 ≤ m.line) {lines : List Text}
    (nonempty : lines ≠ []) : Valid { m with context := some ⟨m.line, lines⟩ } where
  file_solid := valid.file_solid
  location_valid := valid.location_valid
  context_around := by
    rintro c ⟨⟩
    have positive := List.length_pos_of_ne_nil nonempty
    exact ⟨counted, Nat.le_refl _, Nat.lt_add_of_pos_right positive⟩
  hints_in_context := nofun
  hints_valid := valid.hints_valid
  hints_spaced := valid.hints_spaced

theorem one_le_line {m : Message} (valid : m.Valid) : 1 ≤ m.line := by
  rw [line, Location.effectiveLine]
  cases set : m.location.line with
  | none => exact Nat.le_refl 1
  | some n => exact valid.location_valid.2.1 n set

theorem one_le_column {m : Message} (valid : m.Valid) : 1 ≤ m.column := by
  rw [column, Location.effectiveColumn]
  cases set : m.location.column with
  | none => exact Nat.le_refl 1
  | some n => exact valid.location_valid.2.2 n set

theorem withContext_lines {m : Message} (valid : m.Valid) {lines : List Text}
    (nonempty : lines ≠ []) :
    m.withContext m.line lines = .ok { m with context := some ⟨m.line, lines⟩ } := by
  have counted := one_le_line valid
  have positive : ¬ (m.line : Int) ≤ 0 := by omega
  have fits : contextMisfit? m.line ⟨m.line, lines⟩ = none := contextMisfit?_eq_none_iff.mpr
    ⟨Nat.le_refl _, Nat.lt_add_of_pos_right (List.length_pos_of_ne_nil nonempty)⟩
  rw [withContext, if_neg positive, Int.toNat_natCast, attach, fits]
  exact recheck_of_valid (valid_with_lines valid counted nonempty)

/-! ## Messages out of their parts -/

theorem checkNumber_natCast_eq_ok {n : Nat} {found : Option Nat} :
    Location.checkNumber (some (n : Int)) = .ok found ↔ 1 ≤ n ∧ found = some n := by
  simp only [Location.checkNumber, map_eq_ok, Check.atLeast_eq_ok, Int.toNat_natCast]
  constructor
  · rintro ⟨k, ⟨above, rfl⟩, rfl⟩
    exact ⟨by omega, rfl⟩
  · rintro ⟨above, rfl⟩
    exact ⟨n, ⟨by omega, rfl⟩, rfl⟩

theorem location_valid_iff {text : Text} {line column : Nat} :
    (⟨text, some line, some column⟩ : Location).Valid ↔
      text.any Text.isBreak = false ∧ 1 ≤ line ∧ 1 ≤ column := by
  constructor
  · rintro ⟨single, lineCounts, columnCounts⟩
    exact ⟨single, lineCounts line rfl, columnCounts column rfl⟩
  · rintro ⟨single, lineCounts, columnCounts⟩
    refine ⟨single, ?_, ?_⟩
    · rintro _ ⟨⟩
      exact lineCounts
    · rintro _ ⟨⟩
      exact columnCounts

/-- Without anything around it, a message is valid by its file and its location. -/
theorem valid_bare {file : Text} {level : Severity} {location : Location}
    (solid : file.any Text.isBlank = false) (located : location.Valid) :
    Valid ⟨file, level, location, none, []⟩ where
  file_solid := solid
  location_valid := located
  context_around := nofun
  hints_in_context := fun _ => rfl
  hints_valid := nofun
  hints_spaced := .nil

theorem make_of_valid {text : Text} {line column : Nat}
    (valid : (⟨text, some line, some column⟩ : Location).Valid) :
    Location.make text (some (line : Int)) (some (column : Int)) =
      .ok ⟨text, some line, some column⟩ := by
  obtain ⟨single, lineCounts, columnCounts⟩ := location_valid_iff.mp valid
  simp only [Location.make, map_eq_ok, Check.both_eq_ok, Check.member_eq_ok,
    Location.checkText_eq_ok, checkNumber_natCast_eq_ok]
  exact ⟨(text, some line, some column),
    ⟨⟨single, rfl⟩, ⟨lineCounts, rfl⟩, columnCounts, rfl⟩, rfl⟩

/-- A message of a line and a column without anything around it. -/
def plain (file text : Text) (level : Severity) (line column : Nat) : Message :=
  ⟨file, level, ⟨text, some line, some column⟩, none, []⟩

theorem create_natCast_eq_ok {file text : Text} {level : Severity} {line column : Nat}
    {m : Message} :
    create file text level (some (line : Int)) (some (column : Int)) = .ok m ↔
      (plain file text level line column).Valid ∧ m = plain file text level line column := by
  constructor
  · intro made
    have valid := valid_of_create made
    simp only [create, bind_eq_ok, checked_eq_ok, Location.make, map_eq_ok, Check.both_eq_ok,
      Check.member_eq_ok, Location.checkText_eq_ok, checkNumber_natCast_eq_ok, build,
      checkFile_eq_ok, fitted_eq_ok] at made
    obtain ⟨_, ⟨⟨_, _, _⟩, ⟨⟨_, rfl⟩, ⟨_, rfl⟩, _, rfl⟩, rfl⟩, _, ⟨_, rfl⟩, _, rfl⟩ := made
    exact ⟨valid, rfl⟩
  · rintro ⟨valid, rfl⟩
    rw [create, plain, make_of_valid valid.location_valid]
    exact checked_eq_ok.mpr (build_of_valid valid)

end Diagnostics.Message
