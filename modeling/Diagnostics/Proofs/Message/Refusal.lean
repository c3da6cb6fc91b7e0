import Diagnostics.Proofs.Message.Acceptance

/-!
Why a message cannot be made. Every rule that a location breaks is named, at the member that breaks
it; the file is looked at only if the location breaks none, and at most one rule is named for it.
-/
namespace Diagnostics

namespace Check
variable {α β : Type}

@[simp] theorem problems_ok (a : α) : problems (.ok a : Checked α) = [] := rfl

@[simp] theorem problems_map (check : Checked α) (f : α → β) :
    problems (check.map f) = problems check := by
  cases check <;> rfl

@[simp] theorem problems_both (first : Checked α) (second : Checked β) :
    problems (both first second) = problems first ++ problems second := by
  cases first <;> cases second <;> simp [both, problems]

theorem problems_member (name : String) (check : Checked α) :
    problems (member name check) =
      (problems check).map fun p => ⟨.member name.toList :: p.path, p.cause⟩ := by
  cases check <;> rfl

theorem rule_of_accepted {accepted : α → Bool} {reason : String} {a : α}
    (accepts : accepted a = true) : rule accepted reason a = .ok a := if_pos accepts

theorem rule_of_refused {accepted : α → Bool} {reason : String} {a : α}
    (refuses : accepted a = false) : rule accepted reason a = fail (.rejected reason.toList) :=
  if_neg (Bool.eq_false_iff.mp refuses)

theorem eq_error_of_problems {check : Checked α} {found : List Problem}
    (some_found : found ≠ []) (problems_eq : problems check = found) : check = .error found := by
  cases check with
  | ok a => exact absurd problems_eq.symm some_found
  | error others => exact congrArg Except.error problems_eq

end Check

/-! ## Locations -/

namespace Location

/-- The problem of a number that is set but does not count from one. -/
def numberProblems (name : String) (given : Option Int) : List Problem :=
  if ∀ n ∈ given, 1 ≤ n then [] else [⟨[.member name.toList], .belowBound 1⟩]

def textProblems (text : Text) : List Problem :=
  if text.any Text.isBreak then
    [⟨[.member "text".toList], .rejected "message text cannot contain newlines".toList⟩]
  else []

/-- What is wrong with a location. -/
def problems (text : Text) (line column : Option Int) : List Problem :=
  textProblems text ++ (numberProblems "line" line ++ numberProblems "column" column)

theorem problems_checkNumber (name : String) (given : Option Int) :
    Check.problems (Check.member name (checkNumber given)) = numberProblems name given := by
  cases given with
  | none => rfl
  | some n =>
    rw [Check.problems_member, checkNumber, Check.problems_map, Check.atLeast, numberProblems]
    by_cases counts : 1 ≤ n
    · simp [counts]
    · simp [counts, Check.fail, Check.problems]

theorem problems_checkText (text : Text) :
    Check.problems (Check.member "text" (checkText text)) = textProblems text := by
  rw [Check.problems_member, checkText, textProblems]
  cases broken : text.any Text.isBreak
  · rw [Check.rule_of_accepted (by rw [broken]; rfl)]
    rfl
  · rw [Check.rule_of_refused (by rw [broken]; rfl)]
    rfl

theorem problems_make (text : Text) (line column : Option Int) :
    Check.problems (make text line column) = problems text line column := by
  rw [make, Check.problems_map, Check.problems_both, Check.problems_both, problems_checkText,
    problems_checkNumber, problems_checkNumber, problems]

theorem numberProblems_eq_nil_iff {name : String} {given : Option Int} :
    numberProblems name given = [] ↔ ∀ n ∈ given, 1 ≤ n := by
  unfold numberProblems
  split
  · rename_i counts
    exact iff_of_true rfl counts
  · rename_i breaks
    exact iff_of_false (List.cons_ne_nil _ _) breaks

theorem problems_eq_nil_iff {text : Text} {line column : Option Int} :
    problems text line column = [] ↔
      text.any Text.isBreak = false ∧ (∀ n ∈ line, 1 ≤ n) ∧ ∀ n ∈ column, 1 ≤ n := by
  have ofText : textProblems text = [] ↔ text.any Text.isBreak = false := by
    unfold textProblems
    cases text.any Text.isBreak <;> simp
  rw [problems, List.append_eq_nil_iff, List.append_eq_nil_iff, ofText,
    numberProblems_eq_nil_iff, numberProblems_eq_nil_iff]

end Location

/-! ## Messages -/

namespace Message

/-- What is wrong with the name of a file that has blanks. -/
def fileProblem (file : Text) : Problem :=
  ⟨[.member "file".toList], .rejected (if file.any Text.isBreak then
    "file name cannot contain newlines".toList else "file name cannot contain whitespace".toList)⟩

theorem checkFile_eq_error {file : Text} (blank : file.any Text.isBlank = true) :
    Check.member "file" (checkFile file) = .error [fileProblem file] := by
  rw [checkFile, fileProblem]
  cases broken : file.any Text.isBreak
  · rw [Check.rule_of_accepted (by rw [broken]; rfl), Except.bind,
      Check.rule_of_refused (by rw [blank]; rfl)]
    rfl
  · rw [Check.rule_of_refused (by rw [broken]; rfl)]
    rfl

/-- A message out of numbers is refused for its location, refused for its file, or made. -/
theorem create_cases (file text : Text) (level : Severity) (line column : Int) :
    (Location.problems text (some line) (some column) ≠ [] ∧
      create file text level (some line) (some column) =
        .error (.invalid .location (Location.problems text (some line) (some column)))) ∨
    (Location.problems text (some line) (some column) = [] ∧ file.any Text.isBlank = true ∧
      create file text level (some line) (some column) =
        .error (.invalid .message [fileProblem file])) ∨
    ∃ l c : Nat, line = l ∧ column = c ∧ (plain file text level l c).Valid ∧
      create file text level (some line) (some column) = .ok (plain file text level l c) := by
  by_cases sound : Location.problems text (some line) (some column) = []
  · obtain ⟨single, lineCounts, columnCounts⟩ := Location.problems_eq_nil_iff.mp sound
    have linePositive := lineCounts line rfl
    have columnPositive := columnCounts column rfl
    obtain ⟨l, rfl⟩ := Int.eq_ofNat_of_zero_le (Int.le_trans Int.one_nonneg linePositive)
    obtain ⟨c, rfl⟩ := Int.eq_ofNat_of_zero_le (Int.le_trans Int.one_nonneg columnPositive)
    have located : (⟨text, some l, some c⟩ : Location).Valid := location_valid_iff.mpr
      ⟨single, Int.ofNat_le.mp linePositive, Int.ofNat_le.mp columnPositive⟩
    right
    cases blank : file.any Text.isBlank
    · right
      have valid : (plain file text level l c).Valid := valid_bare blank located
      exact ⟨l, c, rfl, rfl, valid, create_natCast_eq_ok.mpr ⟨valid, rfl⟩⟩
    · left
      refine ⟨sound, rfl, ?_⟩
      rw [create, make_of_valid located, checked, Except.bind, build, checkFile_eq_error blank]
      rfl
  · left
    refine ⟨sound, ?_⟩
    rw [create, Check.eq_error_of_problems sound (Location.problems_make text _ _)]
    rfl

end Message
end Diagnostics
