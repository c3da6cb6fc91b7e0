import Diagnostics.Proofs.Message.Acceptance
import Diagnostics.Proofs.Message.History

/-!
What a message has become does not depend on the way there. A change is accepted exactly if all
parts that it leads to are accepted at once, and it leads to the message of these parts. So a run of
accepted changes gives the message of the last file, the last severity, the last context and all
hints, in whatever order the hints are listed.
-/
namespace Diagnostics.Message

/-! ## All parts at once -/

section Parts
variable {file : Text} {level : Severity} {location : Location} {context : Option Context}
  {hints others : List Hint} {m : Message}

theorem build_eq_ok :
    build file level location context hints = .ok m ↔
      file.any Text.isBlank = false ∧ (context = none → hints = []) ∧
      (∀ c ∈ context, c.start ≤ location.effectiveLine ∧
        location.effectiveLine < c.start + c.lines.length) ∧
      Hint.Apart hints ∧ m = ⟨file, level, location, context, Hint.sort hints⟩ := by
  have empty : Hint.sort hints = [] ↔ hints = [] := by
    constructor
    · intro sorted
      have same := Hint.sort_perm hints
      rw [sorted] at same
      exact same.nil_eq.symm
    · intro none
      rw [none]
      rfl
  simp only [build, bind_eq_ok, Check.member_eq_ok, checkFile_eq_ok, fitted_eq_ok,
    misfit?_eq_none_iff, Hint.apart_sort, empty]
  constructor
  · rintro ⟨_, ⟨solid, rfl⟩, ⟨bare, around, apart⟩, made⟩
    exact ⟨solid, bare, around, apart, made⟩
  · rintro ⟨solid, bare, around, apart, made⟩
    exact ⟨file, ⟨solid, rfl⟩, ⟨bare, around, apart⟩, made⟩

theorem build_of_perm (same : hints.Perm others)
    (made : build file level location context hints = .ok m) :
    build file level location context others = .ok m := by
  obtain ⟨solid, bare, around, apart, rfl⟩ := build_eq_ok.mp made
  apply build_eq_ok.mpr
  refine ⟨solid, ?_, around, (Hint.apart_of_perm same).mp apart, ?_⟩
  · intro without
    have none := bare without
    rw [none] at same
    exact same.nil_eq.symm
  · rw [Hint.sort_eq_of_perm apart same]

/-- Fewer hints are accepted where more of them are. -/
theorem exists_build_of_append {more : List Hint}
    (made : build file level location context (hints ++ more) = .ok m) :
    ∃ fewer, build file level location context hints = .ok fewer := by
  obtain ⟨solid, bare, around, apart, _⟩ := build_eq_ok.mp made
  have apartFewer : Hint.Apart hints := (List.pairwise_append.mp apart).1
  refine ⟨⟨file, level, location, context, Hint.sort hints⟩, build_eq_ok.mpr ?_⟩
  refine ⟨solid, ?_, around, apartFewer, rfl⟩
  intro without
  exact (List.append_eq_nil_iff.mp (bare without)).1

/-- A message that is accepted as it is. -/
def Settled (m : Message) : Prop := build m.file m.level m.location m.context m.hints = .ok m

theorem settled_of_build (made : build file level location context hints = .ok m) : m.Settled := by
  have same := (Hint.sort_perm hints).symm
  have again := build_of_perm same made
  obtain ⟨_, _, _, _, rfl⟩ := build_eq_ok.mp made
  exact again

/-- More hints for a message go with the hints that it was made with, as these were listed. -/
theorem build_hints_append {more : List Hint} {changed : Message}
    (made : build file level location context hints = .ok m) :
    build m.file m.level m.location m.context (m.hints ++ more) = .ok changed ↔
      build file level location context (hints ++ more) = .ok changed := by
  obtain ⟨_, _, _, _, rfl⟩ := build_eq_ok.mp made
  have same : (Hint.sort hints ++ more).Perm (hints ++ more) :=
    (Hint.sort_perm hints).append_right more
  constructor
  · intro all
    exact build_of_perm same all
  · intro all
    exact build_of_perm same.symm all

end Parts

/-! ## One change -/

section Changes
variable {m changed : Message}

theorem withFile_eq_ok {file : Text} :
    m.withFile file = .ok changed ↔
      build file m.level m.location m.context m.hints = .ok changed := checked_eq_ok

theorem withLevel_eq_ok {level : Severity} :
    m.withLevel level = .ok changed ↔
      build m.file level m.location m.context m.hints = .ok changed := checked_eq_ok

theorem attach_eq_ok {c : Context} :
    m.attach c = .ok changed ↔
      build m.file m.level m.location (some c) m.hints = .ok changed := by
  unfold attach
  cases misfit : contextMisfit? m.line c with
  | none => exact checked_eq_ok
  | some found =>
    constructor
    · intro made
      cases made
    · intro made
      have around := (build_eq_ok.mp made).2.2.1 c rfl
      have fits : contextMisfit? m.line c = none := contextMisfit?_eq_none_iff.mpr around
      rw [misfit] at fits
      cases fits

theorem withHint_eq_ok {h : Hint} :
    m.withHint h = .ok changed ↔
      build m.file m.level m.location m.context (m.hints ++ [h]) = .ok changed := by
  have sorted : (Hint.sort (m.hints ++ [h])).Perm (m.hints ++ [h]) := Hint.sort_perm _
  unfold withHint
  cases around : m.context with
  | none =>
    constructor
    · intro made
      cases made
    · intro made
      have nothing := (build_eq_ok.mp made).2.1 rfl
      simp at nothing
  | some c =>
    dsimp only
    split
    · rename_i misfit found
      constructor
      · intro made
        cases made
      · intro made
        have apart := (build_eq_ok.mp made).2.2.2.1
        rw [hintMisfit?_eq_none_iff.mpr apart] at found
        cases found
    · unfold recheck
      simp only [checked_eq_ok]
      constructor
      · intro made
        exact build_of_perm sorted made
      · intro made
        exact build_of_perm sorted.symm made

/-- One after the other or all at once, the same hints are accepted. -/
theorem withHints_eq_ok {added : List Hint} (settled : m.Settled) :
    m.withHints added = .ok changed ↔
      build m.file m.level m.location m.context (m.hints ++ added) = .ok changed := by
  induction added generalizing m with
  | nil =>
    rw [withHints, List.append_nil, settled, Except.ok.injEq, Except.ok.injEq]
  | cons h rest ih =>
    have listed : m.hints ++ h :: rest = m.hints ++ [h] ++ rest := by simp
    rw [withHints, bind_eq_ok, listed]
    constructor
    · rintro ⟨next, hinted, later⟩
      have made := withHint_eq_ok.mp hinted
      exact (build_hints_append made).mp ((ih (settled_of_build made)).mp later)
    · intro all
      obtain ⟨next, made⟩ := exists_build_of_append all
      refine ⟨next, withHint_eq_ok.mpr made, ?_⟩
      exact (ih (settled_of_build made)).mpr ((build_hints_append made).mpr all)

end Changes

/-! ## What changes stand for -/

namespace Change

def file? : Change → Option Text
  | .file name => (Check.text name).toOption
  | _ => none

def level? : Change → Option Severity
  | .level name => (Check.severity name).toOption
  | _ => none

def context? : Change → Option Context
  | .context start lines =>
    match Check.natural 1 start, Context.linesOf lines with
    | .ok start, .ok lines => some ⟨start, lines⟩
    | _, _ => none
  | _ => none

def hint? : Change → Option Hint
  | .hint added _ => some added
  | _ => none

end Change

/-- A change that is accepted leads to the message of the parts with the new one among them. -/
theorem build_of_outcome {m changed : Message} {change : Change}
    (accepted : change.outcome m = .ok changed) :
    build (change.file?.getD m.file) (change.level?.getD m.level) m.location
      (change.context?.or m.context) (m.hints ++ change.hint?.toList) = .ok changed := by
  cases change with
  | file name =>
    simp only [Change.outcome, withFileValue, bind_eq_ok, checked_eq_ok, Check.member_eq_ok]
      at accepted
    obtain ⟨file, read, made⟩ := accepted
    have named : (Change.file name).file? = some file := by rw [Change.file?, read]; rfl
    rw [named]
    simpa [Change.level?, Change.context?, Change.hint?] using withFile_eq_ok.mp made
  | level name =>
    simp only [Change.outcome, withLevelValue, bind_eq_ok, checked_eq_ok, Check.member_eq_ok]
      at accepted
    obtain ⟨level, read, made⟩ := accepted
    have ranked : (Change.level name).level? = some level := by rw [Change.level?, read]; rfl
    rw [ranked]
    simpa [Change.file?, Change.context?, Change.hint?] using withLevel_eq_ok.mp made
  | context start lines =>
    simp only [Change.outcome, withContextValues, bind_eq_ok] at accepted
    obtain ⟨refused, _, accepted⟩ := accepted
    split at accepted
    · cases accepted
    · simp only [bind_eq_ok, checked_eq_ok, Check.member_eq_ok] at accepted
      obtain ⟨texts, cut, first, counted, made⟩ := accepted
      have around : (Change.context start lines).context? = some ⟨first, texts⟩ := by
        rw [Change.context?, counted, cut]
      rw [around]
      simpa [Change.file?, Change.level?, Change.hint?] using attach_eq_ok.mp made
  | hint added valid =>
    have made := withHint_eq_ok.mp accepted
    simpa [Change.file?, Change.level?, Change.context?, Change.hint?] using made

/-! ## Many changes -/

/-- The message after some changes, if each of them is accepted. -/
def after (m : Message) : List Change → Outcome Message
  | [] => .ok m
  | change :: rest => (change.outcome m).bind fun changed => changed.after rest

/-- What the last change that says something says, or what holds before all of them. -/
def latest {α : Type} (said? : Change → Option α) (changes : List Change) (before : α) : α :=
  (changes.filterMap said?).getLast?.getD before

theorem latest_cons {α : Type} (said? : Change → Option α) (change : Change)
    (rest : List Change) (before : α) :
    latest said? (change :: rest) before = latest said? rest ((said? change).getD before) := by
  unfold latest
  rw [List.filterMap_cons]
  cases said? change with
  | none => rfl
  | some a => rw [List.getLast?_cons]; rfl

/-- The context that a message has behind some changes. -/
def latestContext (changes : List Change) (before : Option Context) : Option Context :=
  latest (fun change => change.context?.map some) changes before

theorem latestContext_cons (change : Change) (rest : List Change) (before : Option Context) :
    latestContext (change :: rest) before = latestContext rest (change.context?.or before) := by
  unfold latestContext
  rw [latest_cons]
  cases change.context? <;> rfl

theorem filterMap_hint?_cons (change : Change) (rest : List Change) :
    (change :: rest).filterMap Change.hint? =
      change.hint?.toList ++ rest.filterMap Change.hint? := by
  rw [List.filterMap_cons]
  cases change.hint? <;> rfl

theorem build_of_after {m changed : Message} {changes : List Change} (settled : m.Settled)
    (accepted : m.after changes = .ok changed) :
    build (latest Change.file? changes m.file) (latest Change.level? changes m.level) m.location
      (latestContext changes m.context) (m.hints ++ changes.filterMap Change.hint?) =
        .ok changed := by
  induction changes generalizing m with
  | nil =>
    cases accepted
    rw [List.filterMap_nil, List.append_nil]
    exact settled
  | cons change rest ih =>
    obtain ⟨next, first, later⟩ := bind_eq_ok.mp accepted
    have made := build_of_outcome first
    have all := ih (settled_of_build made) later
    -- The rest goes on from the parts behind the first change, with their hints in order.
    obtain ⟨_, _, _, _, rfl⟩ := build_eq_ok.mp made
    rw [latest_cons, latest_cons, latestContext_cons, filterMap_hint?_cons, ← List.append_assoc]
    apply build_of_perm _ all
    exact (Hint.sort_perm _).append_right _

/-- Changes that are all accepted lead to the message that is made at once of the last file, the
last severity, the same location, the last context and all hints in any order. Hints can be added
one after the other, in any order, exactly if they can be added all at once. -/
theorem after_eq_build {m : Message} (valid : m.Valid) :
    (∀ changes changed hints, m.after changes = .ok changed →
      hints.Perm (m.hints ++ changes.filterMap Change.hint?) →
        build (latest Change.file? changes m.file) (latest Change.level? changes m.level) m.location
          (latestContext changes m.context) hints = .ok changed) ∧
    ∀ added order changed, order.Perm added →
      (m.withHints order = .ok changed ↔
        build m.file m.level m.location m.context (m.hints ++ added) = .ok changed) := by
  have settled : m.Settled := build_of_valid valid
  constructor
  · intro changes changed hints accepted same
    exact build_of_perm same.symm (build_of_after settled accepted)
  · intro added order changed same
    rw [withHints_eq_ok settled]
    have all : (m.hints ++ order).Perm (m.hints ++ added) := same.append_left m.hints
    constructor
    · intro made
      exact build_of_perm all made
    · intro made
      exact build_of_perm all.symm made

/-- A message with a hint already, and changes that add one on either side of it. -/
def hinted : Message where
  file := "a.c".toList
  level := .note
  location := ⟨"t".toList, some 2, none⟩
  context := some ⟨2, ["abcdef".toList]⟩
  hints := [.mark ⟨3, 1⟩]

def outwards : List Change :=
  [.hint (.insert 6 "y".toList) (by decide), .file (.text "b.c".toList),
   .level (.text "fatal".toList),
   .hint (.remove ⟨1, 0⟩) (by decide), .context (.integer 1) (.text "x\nghi".toList),
   .file (.text "c.c".toList)]

def outwardsDone : Message where
  file := "c.c".toList
  level := .fatal
  location := ⟨"t".toList, some 2, none⟩
  context := some ⟨1, ["x".toList, "ghi".toList]⟩
  hints := [.remove ⟨1, 0⟩, .mark ⟨3, 1⟩, .insert 6 "y".toList]

theorem after_outwards :
    hinted.Valid ∧ hinted.after outwards = .ok outwardsDone ∧
      build "c.c".toList .fatal hinted.location (some ⟨1, ["x".toList, "ghi".toList]⟩)
        [.insert 6 "y".toList, .mark ⟨3, 1⟩, .remove ⟨1, 0⟩] = .ok outwardsDone ∧
      (∃ changed, hinted.withHints [.remove ⟨1, 0⟩, .insert 6 "y".toList] = .ok changed) ∧
      ¬ ∃ changed, hinted.withHints [.mark ⟨5, 2⟩, .insert 6 "y".toList] = .ok changed := by
  have valid : hinted.Valid := by decide
  have accepted : hinted.after outwards = .ok outwardsDone := rfl
  obtain ⟨replayed, ordered⟩ := after_eq_build valid
  refine ⟨valid, accepted, ?_, ?_, ?_⟩
  · exact replayed outwards outwardsDone _ accepted (by decide)
  · have listed := ordered [.insert 6 "y".toList, .remove ⟨1, 0⟩]
      [.remove ⟨1, 0⟩, .insert 6 "y".toList]
    exact ⟨_, (listed _ (by decide)).mpr rfl⟩
  · rintro ⟨changed, made⟩
    have listed := ordered [.insert 6 "y".toList, .mark ⟨5, 2⟩] [.mark ⟨5, 2⟩, .insert 6 "y".toList]
    cases (listed changed (by decide)).mp made

end Diagnostics.Message
