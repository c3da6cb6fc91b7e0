import Diagnostics.Proofs.Message.Refusal
import Diagnostics.Proofs.Message.Replay

/-!
What each change of a valid message leads to, told by the message and the new part alone. A change
that passes its own check is never refused by the check of the whole message behind it, and nothing
but the part that is changed becomes different. An error that would show a number with too many
digits is replaced by the one about such numbers.
-/
namespace Diagnostics

/-- The closed column intervals of two hints meet. -/
def Hint.Meets (h other : Hint) : Prop :=
  ∃ column, (h.index ≤ column ∧ column ≤ h.span.stop) ∧ other.index ≤ column ∧ column ≤ other.span.stop

theorem Hint.touches_iff_meets {h other : Hint} : h.span.touches other.span = true ↔ h.Meets other := by
  rw [Span.touches_iff]
  constructor
  · rintro ⟨first, second⟩
    have forwards : h.index ≤ h.span.stop := Nat.le_add_right _ _
    have further : other.index ≤ other.span.stop := Nat.le_add_right _ _
    exact ⟨max h.index other.index, ⟨Nat.le_max_left _ _, Nat.max_le.mpr ⟨forwards, second⟩⟩,
      Nat.le_max_right _ _, Nat.max_le.mpr ⟨first, further⟩⟩
  · rintro ⟨column, ⟨first, last⟩, otherFirst, otherLast⟩
    exact ⟨Nat.le_trans first otherLast, Nat.le_trans otherFirst last⟩

/-- Behind hints that do not touch each other, only the new one can touch. -/
theorem Hint.firstTouch?_append_singleton {hints : List Hint} (apart : Apart hints) (added : Hint) :
    firstTouch? (hints ++ [added]) =
      (hints.find? fun h => h.span.touches added.span).map fun h => (h, added) := by
  induction hints with
  | nil => rfl
  | cons h rest ih =>
    rw [Apart, List.pairwise_cons] at apart
    have free : rest.find? (fun other => h.span.touches other.span) = none := by
      rw [List.find?_eq_none]
      intro other member
      rw [apart.1 other member]
      exact Bool.false_ne_true
    rw [List.cons_append, firstTouch?, List.find?_append, free, Option.none_or]
    cases touch : h.span.touches added.span with
    | true => simp [touch]
    | false => simp [touch, ih apart.2]

namespace Message

/-- What each change of a message leads to. The lines of a context are given as a text, as a list or as
anything else that stands for lines. -/
structure ChangesExactly (m : Message) : Prop where
  file_solid : ∀ file, file.any Text.isBlank = false → m.withFile file = .ok { m with file }
  file_blank : ∀ file, file.any Text.isBlank = true →
    m.withFile file = .error (.invalid .message [fileProblem file])
  level : ∀ level, m.withLevel level = .ok { m with level }
  context_before_first : ∀ (start : Int) value lines, Context.linesOf value = .ok lines → start ≤ 0 →
    m.withContextValues (.integer start) value = .error .contextStart
  context_around : ∀ (start : Int) value lines, Context.linesOf value = .ok lines → 0 < start →
    start ≤ m.line → m.line < start + lines.length →
      m.withContextValues (.integer start) value =
        .ok { m with context := some ⟨start.toNat, lines⟩ }
  context_elsewhere : ∀ (start : Int) value lines, Context.linesOf value = .ok lines → 0 < start →
    ¬ (start ≤ m.line ∧ m.line < start + lines.length) →
      m.withContextValues (.integer start) value =
        .error (.ofMisfit (.outsideContext m.line start.toNat (start.toNat + lines.length - 1)))
  hint_without_context : m.context = none → ∀ h, m.withHint h = .error (.noContext .addingHint)
  hint_meeting : m.context ≠ none → ∀ h, (∃ other ∈ m.hints, other.Meets h) →
    ∃ other ∈ m.hints, other.Meets h ∧
      m.withHint h = .error (.ofMisfit (.overlap h.index other.index))
  hint_apart : m.context ≠ none → ∀ h, (∀ other ∈ m.hints, ¬ other.Meets h) →
    ∃ hints, hints.Perm (h :: m.hints) ∧ Spaced hints ∧ m.withHint h = .ok { m with hints }

section Changes
variable {m : Message}

/-- A file name with blanks is all that is wrong. -/
theorem withFile_of_blank {file : Text} (blank : file.any Text.isBlank = true) :
    m.withFile file = .error (.invalid .message [fileProblem file]) := by
  rw [withFile, recheck, build, checkFile_eq_error blank]
  rfl

/-! ## Contexts -/

/-- Integers and lines come through the checks of values as they are. -/
theorem withContextValues_eq {start : Int} {value : Value} {lines : List Text}
    (read : Context.linesOf value = .ok lines) :
    m.withContextValues (.integer start) value = m.withContext start lines := by
  rw [withContextValues, withContext]
  by_cases refused : start ≤ 0
  · simp [notPositive, Except.bind, refused]
  · have counted : Check.natural 1 (.integer start) = .ok start.toNat := by
      rw [Check.natural, Check.integer]
      exact Check.atLeast_eq_ok.mpr ⟨by omega, rfl⟩
    simp [notPositive, Except.bind, refused, read, counted, checked, Check.member, Check.inside]

theorem withContext_of_around (valid : m.Valid) {start : Int} {lines : List Text} (positive : 0 < start)
    (first : start ≤ m.line) (last : m.line < start + lines.length) :
    m.withContext start lines = .ok { m with context := some ⟨start.toNat, lines⟩ } := by
  have fits : contextMisfit? m.line ⟨start.toNat, lines⟩ = none :=
    contextMisfit?_eq_none_iff.mpr ⟨by dsimp only; omega, by dsimp only; omega⟩
  have changed : Valid { m with context := some ⟨start.toNat, lines⟩ } := { valid with
    context_around := by
      rintro _ ⟨⟩
      refine ⟨?_, contextMisfit?_eq_none_iff.mp fits⟩
      dsimp only
      omega
    hints_in_context := nofun }
  rw [withContext, if_neg (by omega), attach, fits]
  exact recheck_of_valid changed

theorem withContext_of_elsewhere {start : Int} {lines : List Text} (positive : 0 < start)
    (outside : ¬ (start ≤ m.line ∧ m.line < start + lines.length)) :
    m.withContext start lines =
      .error (.ofMisfit (.outsideContext m.line start.toNat (start.toNat + lines.length - 1))) := by
  have apart : Context.contains ⟨start.toNat, lines⟩ m.line = false := by
    rw [Context.contains, decide_eq_false_iff_not]
    dsimp only
    omega
  rw [withContext, if_neg (by omega), attach, contextMisfit?, apart]
  rfl

/-- A context that ends at a number with too many digits is refused without saying where it is. -/
theorem withContext_of_overlong {start : Nat} {lines : List Text} (positive : 0 < start)
    (later : m.line < start) (long : Number.isWritable (start + lines.length - 1) = false) :
    m.withContext start lines = .error .unwritable := by
  rw [withContext_of_elsewhere (by omega) (by omega), Int.toNat_natCast, Error.ofMisfit, if_neg]
  intro all
  have last : Number.isWritable (start + lines.length - 1) = true :=
    List.all_eq_true.mp all _ (by simp [Misfit.numbers])
  exact Bool.false_ne_true (long.symm.trans last)

/-! ## Hints -/

theorem withHint_of_meeting (valid : m.Valid) (around : m.context ≠ none) {h : Hint}
    (meets : ∃ other ∈ m.hints, other.Meets h) :
    ∃ other ∈ m.hints, other.Meets h ∧
      m.withHint h = .error (.ofMisfit (.overlap h.index other.index)) := by
  have apart := (Hint.spaced_iff_apart (Hint.ascending_of_spaced valid.hints_spaced)).mp
    valid.hints_spaced
  obtain ⟨c, given⟩ := Option.ne_none_iff_exists'.mp around
  cases found : m.hints.find? fun other => other.span.touches h.span with
  | none =>
    obtain ⟨other, member, meet⟩ := meets
    exact absurd (Hint.touches_iff_meets.mpr meet) (List.find?_eq_none.mp found other member)
  | some other =>
    have touch : other.span.touches h.span = true := by simpa using List.find?_some found
    refine ⟨other, List.mem_of_find?_eq_some found, Hint.touches_iff_meets.mp touch, ?_⟩
    rw [withHint, given, hintMisfit?, Hint.firstTouch?_append_singleton apart, found]
    rfl

theorem withHint_of_apart (valid : m.Valid) (around : m.context ≠ none) {h : Hint}
    (free : ∀ other ∈ m.hints, ¬ other.Meets h) :
    ∃ hints, hints.Perm (h :: m.hints) ∧ Spaced hints ∧ m.withHint h = .ok { m with hints } := by
  have apart : Hint.Apart (m.hints ++ [h]) := by
    refine List.pairwise_append.mpr ⟨?_, List.pairwise_singleton _ _, fun other member added among => ?_⟩
    · exact (Hint.spaced_iff_apart (Hint.ascending_of_spaced valid.hints_spaced)).mp valid.hints_spaced
    · rw [List.mem_singleton.mp among, ← Bool.not_eq_true, Hint.touches_iff_meets]
      exact free other member
  refine ⟨Hint.sort (m.hints ++ [h]), ?_, ?_, ?_⟩
  · exact (Hint.sort_perm _).trans (List.perm_append_singleton h m.hints)
  · exact (Hint.spaced_iff_apart (Hint.sort_ascending _)).mpr (Hint.apart_sort.mpr apart)
  · exact withHint_eq_ok.mpr (build_eq_ok.mpr ⟨valid.file_solid, fun none => absurd none around,
      fun c given => (valid.context_around c given).2, apart, rfl⟩)

end Changes

/-- On a valid message, every change leads exactly to what its own check says. -/
theorem changesExactly {m : Message} (valid : m.Valid) : m.ChangesExactly where
  file_solid _ solid := recheck_of_valid { valid with file_solid := solid }
  file_blank _ blank := withFile_of_blank blank
  level _ := recheck_of_valid { valid with }
  context_before_first start value lines read refused := by
    rw [withContextValues_eq read, withContext, if_pos refused]
  context_around start value lines read positive first last := by
    rw [withContextValues_eq read, withContext_of_around valid positive first last]
  context_elsewhere start value lines read positive outside := by
    rw [withContextValues_eq read, withContext_of_elsewhere positive outside]
  hint_without_context without h := by rw [withHint, without]
  hint_meeting around _ meets := withHint_of_meeting valid around meets
  hint_apart around _ free := withHint_of_apart valid around free

/-- A message on the second of three lines, with a mark on two columns. -/
def underlined : Message where
  file := "a.c".toList
  level := .warning
  location := ⟨"t".toList, some 2, none⟩
  context := some ⟨1, ["a".toList, "bcdefg".toList, []]⟩
  hints := [.mark ⟨2, 2⟩]

theorem changesExactly_underlined :
    underlined.Valid ∧ underlined.withFile "b c".toList =
        .error (.invalid .message [fileProblem "b c".toList]) ∧
      underlined.withContextValues (.integer 2) (.text "x\ny".toList) =
        .ok { underlined with context := some ⟨2, ["x".toList, "y".toList]⟩ } ∧
      underlined.withContextValues (.integer 3) (.list [.text "x".toList]) =
        .error (.misfit (.outsideContext 2 3 3)) ∧
      (∃ other ∈ underlined.hints, other.Meets (.insert 4 "z".toList) ∧
        underlined.withHint (.insert 4 "z".toList) = .error (.ofMisfit (.overlap 4 other.index))) ∧
      ∃ hints, hints.Perm [.insert 5 "z".toList, .mark ⟨2, 2⟩] ∧ Spaced hints ∧
        underlined.withHint (.insert 5 "z".toList) = .ok { underlined with hints } := by
  have valid : underlined.Valid := by decide
  have exact := changesExactly valid
  refine ⟨valid, exact.file_blank _ (by decide), ?_, ?_, ?_, ?_⟩
  · exact exact.context_around 2 _ _ rfl (by decide) (by decide) (by decide)
  · rw [exact.context_elsewhere 3 _ _ rfl (by decide) (by decide), Error.ofMisfit]
    exact congrArg Except.error (if_pos (by decide +kernel))
  · exact exact.hint_meeting (by decide) _
      ⟨_, List.mem_cons_self, 4, ⟨by decide, by decide⟩, by decide, by decide⟩
  · refine exact.hint_apart (by decide) _ (List.forall_mem_singleton.mpr ?_)
    rw [← Hint.touches_iff_meets]
    decide

/-- A message on the first line of its file, without anything around it. -/
def unplaced : Message := ⟨"a.c".toList, .note, ⟨"t".toList, none, none⟩, none, []⟩

theorem withContextValues_unplaced_limit :
    unplaced.Valid ∧ unplaced.line < Nat.pow 10 Number.digitLimit - 1 ∧
      unplaced.withContextValues (.integer (Nat.pow 10 Number.digitLimit - 1 : Nat))
        (.list [.text "a".toList, .text "b".toList]) = .error .unwritable := by
  have before : unplaced.line < Nat.pow 10 Number.digitLimit - 1 := by decide +kernel
  have long : Number.isWritable
      (Nat.pow 10 Number.digitLimit - 1 + (["a".toList, "b".toList] : List Text).length - 1) = false := by
    decide +kernel
  have read : Context.linesOf (.list [.text "a".toList, .text "b".toList]) =
      .ok ["a".toList, "b".toList] := rfl
  refine ⟨by decide, before, ?_⟩
  rw [withContextValues_eq read]
  exact withContext_of_overlong (Nat.zero_lt_of_lt before) before long

end Message
end Diagnostics
