import Diagnostics.Proofs.Text.Lowercase
import Diagnostics.Sarif.Reader
import Mathlib.Data.List.Basic

/-!
Where the messages of a run come from. A place is the number of a result together with that of one
of its locations. The findings of a run are what stands at the places that it marks, and they come
in the order of these places: results first, and the locations of one result among themselves.
-/
namespace Diagnostics

/-! ## Members of a kind -/

section Members
variable {members inner : Members} {key text : Text}

theorem Members.objectAt?_eq_some :
    Members.objectAt? members key = some inner ↔
      Members.valueOf? members key = some (.object inner) := by
  unfold Members.objectAt? Value.objectAt? Value.member?
  constructor
  · intro found
    split at found
    · rename_i here
      cases found
      exact here
    · cases found
  · intro here
    simp [here]

theorem Members.textAt?_eq_some {members : Option Members} :
    Members.textAt? members key = some text ↔
      ∃ inner, members = some inner ∧ Members.valueOf? inner key = some (.text text) := by
  unfold Members.textAt?
  constructor
  · intro found
    split at found
    · rename_i here
      cases found
      exact Option.bind_eq_some_iff.mp here
    · cases found
  · rintro ⟨inner, rfl, here⟩
    simp [here]

end Members

namespace Sarif

/-! ## Numbered objects -/

/-- The objects in a list with their numbers. -/
def numbered (items : List Value) : List (Nat × Members) :=
  items.zipIdx.filterMap fun (item, i) => match item with
    | .object members => some (i, members)
    | _ => none

theorem map_snd_numbered (items : List Value) :
    (numbered items).map Prod.snd = (Value.list items).objects := by
  unfold numbered Value.objects
  dsimp only
  conv_rhs => rw [← List.zipIdx_map_fst 0 items]
  rw [List.map_filterMap, List.filterMap_map]
  apply List.filterMap_congr
  rintro ⟨item, i⟩ _
  cases item <;> rfl

theorem mem_numbered {items : List Value} {i : Nat} {members : Members} :
    (i, members) ∈ numbered items ↔ items[i]? = some (.object members) := by
  unfold numbered
  rw [List.mem_filterMap]
  constructor
  · rintro ⟨⟨item, k⟩, member, found⟩
    have here := List.mk_mem_zipIdx_iff_getElem?.mp member
    cases item <;> cases found
    exact here
  · intro here
    exact ⟨(.object members, i), List.mk_mem_zipIdx_iff_getElem?.mpr here, rfl⟩

theorem numbered_ascending (items : List Value) :
    (numbered items).Pairwise fun entry later => entry.1 < later.1 := by
  have counted : items.zipIdx.Pairwise fun entry later => entry.2 < later.2 := by
    rw [← List.pairwise_map, List.zipIdx_map_snd]
    exact List.pairwise_lt_range'
  unfold numbered
  rw [List.pairwise_filterMap]
  apply counted.imp
  rintro ⟨item, i⟩ ⟨later, j⟩ order entry found next foundNext
  cases item <;> cases found
  cases later <;> cases foundNext
  exact order

/-- The list that a member holds, an empty one if it holds none. -/
def listAt (members : Members) (key : String) : List Value :=
  match Members.valueOf? members key.toList with
  | some (.list items) => items
  | _ => []

theorem objectsOf_eq (members : Members) (key : String) :
    objectsOf members key = (Value.list (listAt members key)).objects := by
  unfold objectsOf listAt
  cases Members.valueOf? members key.toList with
  | none => rfl
  | some value => cases value <;> rfl

theorem listAt_getElem? {members : Members} {key : String} {i : Nat} {value : Value} :
    (listAt members key)[i]? = some value ↔
      ∃ items, Members.valueOf? members key.toList = some (.list items) ∧
        items[i]? = some value := by
  unfold listAt
  constructor
  · intro here
    split at here
    · rename_i items found
      exact ⟨items, found, here⟩
    · cases here
  · rintro ⟨items, found, here⟩
    rw [found]
    exact here

/-! ## Levels -/

/-- The words that reports have for levels, with the severities that they stand for. -/
def levelWords : List (Text × Severity) :=
  [("error".toList, .error), ("warning".toList, .warning), ("note".toList, .note),
   ("none".toList, .ignored)]

/-- The severity of a result: that of the word which its level spells in capital and small letters,
and a warning if its level is no such word or no text, or if it has none. -/
inductive Rates (result : Members) : Severity → Prop
  | word {level : Text} {entry : Text × Severity}
      (level_there : Members.valueOf? result "level".toList = some (.text level))
      (among : entry ∈ levelWords) (spelled : level.map Char.toLower = entry.1) :
      Rates result entry.2
  | other (unknown : ∀ level, Members.valueOf? result "level".toList = some (.text level) →
      ∀ entry ∈ levelWords, level.map Char.toLower ≠ entry.1) : Rates result .warning

theorem levelWords_letters : ∀ entry ∈ levelWords, ∀ c ∈ entry.1, Text.IsWordLetter c := by
  have letters : ∀ entry ∈ levelWords, entry.1.all fun c => Text.IsWordLetter c := by decide
  exact fun entry among c member =>
    of_decide_eq_true (List.all_eq_true.mp (letters entry among) c member)

theorem ofReportLevel_levelWords :
    ∀ entry ∈ levelWords,
      Text.lower entry.1 = entry.1 ∧ Severity.ofReportLevel entry.1 = entry.2 := by
  decide +kernel

theorem ofReportLevel_of_spelled {level : Text} {entry : Text × Severity} (among : entry ∈ levelWords)
    (spelled : level.map Char.toLower = entry.1) : Severity.ofReportLevel level = entry.2 := by
  have small := (Text.lower_eq_iff (levelWords_letters entry among)).mpr spelled
  obtain ⟨same, read⟩ := ofReportLevel_levelWords entry among
  rw [Severity.ofReportLevel, same] at read
  rw [Severity.ofReportLevel, small, read]

theorem ofReportLevel_of_unknown {level : Text}
    (unknown : ∀ entry ∈ levelWords, level.map Char.toLower ≠ entry.1) :
    Severity.ofReportLevel level = .warning := by
  have other : ∀ entry ∈ levelWords, Text.lower level ≠ entry.1 := fun entry among small =>
    unknown entry among ((Text.lower_eq_iff (levelWords_letters entry among)).mp small)
  simp only [levelWords, List.forall_mem_cons] at other
  obtain ⟨noError, _, noNote, noNone, _⟩ := other
  rw [Severity.ofReportLevel, if_neg noError, if_neg noNote, if_neg noNone]

theorem rates_severity (result : Members) : Rates result (severity result) := by
  unfold severity
  split
  · rename_i level there
    by_cases known : ∃ entry ∈ levelWords, level.map Char.toLower = entry.1
    · obtain ⟨entry, among, spelled⟩ := known
      rw [ofReportLevel_of_spelled among spelled]
      exact .word there among spelled
    · have unknown : ∀ entry ∈ levelWords, level.map Char.toLower ≠ entry.1 :=
        fun entry among spelled => known ⟨entry, among, spelled⟩
      rw [ofReportLevel_of_unknown unknown]
      refine .other fun other found => ?_
      cases there.symm.trans found
      exact unknown
  · rename_i noText
    exact .other fun level found => absurd found (noText level)

theorem Rates.eq_severity {result : Members} {rated : Severity} (rates : Rates result rated) :
    severity result = rated := by
  unfold severity
  cases rates with
  | word there among spelled =>
    rw [there]
    exact ofReportLevel_of_spelled among spelled
  | other unknown =>
    split
    · rename_i level there
      exact ofReportLevel_of_unknown (unknown level there)
    · rfl

/-! ## Places -/

/-- The number of a result, and the number of one of its locations. -/
abbrev Place := Nat × Nat

def Before (place later : Place) : Prop :=
  place.1 < later.1 ∨ place.1 = later.1 ∧ place.2 < later.2

/-- At a place, a run has a location in a file, under a result with a text. -/
inductive Marks (run : Members) : Place → Finding → Prop
  | intro {i j : Nat} {results locations : List Value}
      {result message location physical : Members} {text : Text} {level : Severity}
      (results_listed : Members.valueOf? run "results".toList = some (.list results))
      (result_at : results[i]? = some (.object result))
      (message_there : Members.valueOf? result "message".toList = some (.object message))
      (text_there : Members.valueOf? message "text".toList = some (.text text))
      (told : text ≠ [])
      (locations_listed : Members.valueOf? result "locations".toList = some (.list locations))
      (location_at : locations[j]? = some (.object location))
      (physical_there :
        Members.valueOf? location "physicalLocation".toList = some (.object physical))
      (rated : Rates result level) : Marks run (i, j) ⟨text, level, physical⟩

/-- The text of a result, if there is one. -/
def told? (result : Members) : Option Text :=
  match Members.textAt? (Members.objectAt? result "message".toList) "text".toList with
  | none | some [] => none
  | some text => some text

theorem told?_eq_some {result : Members} {text : Text} :
    told? result = some text ↔ text ≠ [] ∧
      ∃ message, Members.valueOf? result "message".toList = some (.object message) ∧
        Members.valueOf? message "text".toList = some (.text text) := by
  have found : told? result = some text ↔ text ≠ [] ∧
      Members.textAt? (Members.objectAt? result "message".toList) "text".toList = some text := by
    unfold told?
    cases Members.textAt? (Members.objectAt? result "message".toList) "text".toList with
    | none => simp
    | some other =>
      cases other with
      | nil =>
        simp only [reduceCtorEq, Option.some.injEq, false_iff, not_and]
        intro told empty
        exact told empty.symm
      | cons c rest =>
        simp only [Option.some.injEq, iff_and_self]
        rintro rfl
        exact List.cons_ne_nil c rest
  simp only [found, Members.textAt?_eq_some, Members.objectAt?_eq_some]

/-- The marked places of one result. -/
def markedIn (i : Nat) (result : Members) : List (Place × Finding) :=
  match told? result with
  | none => []
  | some text =>
    (numbered (listAt result "locations")).filterMap fun (j, location) =>
      (Members.objectAt? location "physicalLocation".toList).map fun physical =>
        ((i, j), ⟨text, severity result, physical⟩)

/-- The marked places of a run, with what stands there. -/
def marked (run : Members) : List (Place × Finding) :=
  (numbered (listAt run "results")).flatMap fun (i, result) => markedIn i result

theorem map_snd_markedIn (i : Nat) (result : Members) :
    (markedIn i result).map Prod.snd = findingsOf result := by
  have told : findingsOf result = match told? result with
      | none => []
      | some text => (objectsOf result "locations").filterMap fun location =>
          (Members.objectAt? location "physicalLocation".toList).map fun physical =>
            ⟨text, severity result, physical⟩ := by
    unfold findingsOf told?
    cases Members.textAt? (Members.objectAt? result "message".toList) "text".toList with
    | none => rfl
    | some text => cases text <;> rfl
  rw [told, markedIn]
  cases told? result with
  | none => rfl
  | some text =>
    dsimp only
    rw [objectsOf_eq, ← map_snd_numbered, List.map_filterMap, List.filterMap_map]
    apply List.filterMap_congr
    rintro ⟨j, location⟩ _
    rw [Option.map_map]
    rfl

theorem map_snd_marked (run : Members) : (marked run).map Prod.snd = findings run := by
  rw [marked, List.map_flatMap, findings, objectsOf_eq, ← map_snd_numbered, List.flatMap_map]
  apply List.flatMap_congr
  rintro ⟨i, result⟩ _
  exact map_snd_markedIn i result

theorem mem_markedIn {i : Nat} {result : Members} {place : Place} {f : Finding} :
    (place, f) ∈ markedIn i result ↔ ∃ j text location physical, told? result = some text ∧
      (listAt result "locations")[j]? = some (.object location) ∧
      Members.valueOf? location "physicalLocation".toList = some (.object physical) ∧
      place = (i, j) ∧ f = ⟨text, severity result, physical⟩ := by
  unfold markedIn
  cases told? result with
  | none => simp
  | some text =>
    simp only [List.mem_filterMap, Option.map_eq_some_iff, Members.objectAt?_eq_some]
    constructor
    · rintro ⟨⟨j, location⟩, member, physical, there, same⟩
      cases same
      exact ⟨j, text, location, physical, rfl, mem_numbered.mp member, there, rfl, rfl⟩
    · rintro ⟨j, _, location, physical, same, member, there, rfl, rfl⟩
      cases same
      exact ⟨(j, location), mem_numbered.mpr member, physical, there, rfl⟩

theorem mem_marked {run : Members} {place : Place} {f : Finding} :
    (place, f) ∈ marked run ↔ Marks run place f := by
  rw [marked, List.mem_flatMap]
  constructor
  · rintro ⟨⟨i, result⟩, member, inResult⟩
    obtain ⟨results, listed, result_at⟩ := listAt_getElem?.mp (mem_numbered.mp member)
    obtain ⟨j, text, location, physical, told, located, there, rfl, rfl⟩ :=
      mem_markedIn.mp inResult
    obtain ⟨locations, locations_listed, location_at⟩ := listAt_getElem?.mp located
    obtain ⟨nonempty, message, message_there, text_there⟩ := told?_eq_some.mp told
    exact .intro listed result_at message_there text_there nonempty locations_listed location_at
      there (rates_severity result)
  · intro marks
    cases marks with
    | @intro i j results locations result message location physical text level listed result_at
        message_there text_there nonempty locations_listed location_at there rated =>
      obtain rfl := rated.eq_severity
      refine ⟨(i, result), mem_numbered.mpr (listAt_getElem?.mpr ⟨results, listed, result_at⟩), ?_⟩
      have told := told?_eq_some.mpr ⟨nonempty, message, message_there, text_there⟩
      have located := listAt_getElem?.mpr ⟨locations, locations_listed, location_at⟩
      exact mem_markedIn.mpr ⟨j, text, location, physical, told, located, there, rfl, rfl⟩

theorem markedIn_ascending (i : Nat) (result : Members) :
    (markedIn i result).Pairwise fun entry later => Before entry.1 later.1 := by
  unfold markedIn
  cases told? result with
  | none => exact .nil
  | some text =>
    dsimp only
    rw [List.pairwise_filterMap]
    apply (numbered_ascending (listAt result "locations")).imp
    rintro ⟨j, location⟩ ⟨k, next⟩ order entry found later foundLater
    obtain ⟨_, _, rfl⟩ := Option.map_eq_some_iff.mp found
    obtain ⟨_, _, rfl⟩ := Option.map_eq_some_iff.mp foundLater
    exact .inr ⟨rfl, order⟩

theorem marked_ascending (run : Members) :
    ((marked run).map Prod.fst).Pairwise Before := by
  rw [List.pairwise_map, marked, List.pairwise_flatMap]
  constructor
  · rintro ⟨i, result⟩ _
    exact markedIn_ascending i result
  · apply (numbered_ascending (listAt run "results")).imp
    rintro ⟨i, result⟩ ⟨k, next⟩ order ⟨place, f⟩ member ⟨later, g⟩ memberLater
    obtain ⟨_, _, _, _, _, _, _, rfl, _⟩ := mem_markedIn.mp member
    obtain ⟨_, _, _, _, _, _, _, rfl, _⟩ := mem_markedIn.mp memberLater
    exact .inl order

end Sarif
end Diagnostics
