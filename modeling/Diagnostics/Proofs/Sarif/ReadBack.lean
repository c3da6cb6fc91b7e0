import Diagnostics.Sarif.Reader
import Diagnostics.Sarif.Writer
import Diagnostics.Proofs.Message.Acceptance
import Diagnostics.Proofs.Message.Fix
import Diagnostics.Proofs.Text.Lines
import Diagnostics.Proofs.Text.Run

/-!
Reports read back. The report on some messages has one message for each of them, with what a report
can hold: the severity up to its level, and of the context the line that the message is about.
-/
namespace Diagnostics

namespace Text

theorem splitBreaks_trimEnd {line : Text} (noFeed : '\n' ∉ line)
    (noReturn : line.getLast? ≠ some '\r') : splitBreaks (trimEnd isBreak line) = [line] := by
  have kept : trimEnd isBreak line = line := trimEnd_eq_self fun c last => by
    have feed : c ≠ '\n' := fun same => noFeed (same ▸ List.mem_of_getLast? last)
    have ret : c ≠ '\r' := fun same => noReturn (same ▸ last)
    simp [isBreak, feed, ret]
  rw [kept, splitBreaks_of_no_feed noFeed]

end Text

theorem Severity.ofReportLevel_reportLevel (s : Severity) :
    ofReportLevel s.reportLevel = s.reported := by
  cases s <;> decide

namespace Sarif

/-! ## One message -/

/-- A message as it comes back, with the line that its report shows. -/
def asRead (m : Message) (shown : Option Text) : Message where
  file := m.file
  level := m.level.reported
  location := ⟨m.text, some m.line, some m.column⟩
  context := shown.map fun line => ⟨m.line, [line]⟩
  hints := []

/-- The line that the report on a message shows: the one that it is about, if it has a context. -/
structure Shows (m : Message) (shown : Option Text) : Prop where
  focus : ∀ line ∈ shown, m.focusLine = .ok line
  none_iff : shown = none ↔ m.context = none

theorem exists_shows {m : Message} (valid : m.Valid) : ∃ shown, Shows m shown := by
  cases around : m.context with
  | none => exact ⟨none, nofun, fun _ => around, fun _ => rfl⟩
  | some c =>
    obtain ⟨line, _, focus⟩ := Message.exists_focusLine valid around
    refine ⟨some line, ?_, nofun, ?_⟩
    · rintro _ ⟨⟩
      exact focus
    · rw [around]
      exact nofun

def region (m : Message) (shown : Option Text) : Members :=
  [("startLine".toList, .integer m.line), ("startColumn".toList, .integer m.column)] ++
    (shown.map fun line => ("snippet".toList, Value.ofMembers [("text", .text line)])).toList

def place (m : Message) (shown : Option Text) : Members :=
  ("region".toList, .object (region m shown)) ::
    if m.file = [] then []
    else [("artifactLocation".toList, Value.ofMembers [("uri", .text m.file)])]

def written (m : Message) (shown : Option Text) : Members :=
  [("level".toList, .text m.level.reportLevel),
   ("message".toList, Value.ofMembers [("text", .text m.text)]),
   ("locations".toList, .list [Value.ofMembers [("physicalLocation", .object (place m shown))]])]

theorem snippet_eq_ok {m : Message} {shown : Option Text} (shows : Shows m shown) :
    snippet m =
      .ok (shown.map fun line => ("snippet", Value.ofMembers [("text", .text line)])).toList := by
  rw [snippet]
  cases shown with
  | none =>
    rw [shows.none_iff.mp rfl]
    rfl
  | some line =>
    cases around : m.context with
    | none => cases shows.none_iff.mpr around
    | some c =>
      dsimp only
      rw [shows.focus line rfl]
      rfl

theorem result_eq_ok {m : Message} {shown : Option Text} (shows : Shows m shown) :
    result m = .ok (.object (written m shown)) := by
  rw [result, snippet_eq_ok shows, written, place, region]
  by_cases unnamed : m.file = []
  · rw [if_pos unnamed]
    cases shown <;> simp [Except.map, Value.ofMembers, unnamed]
  · rw [if_neg unnamed]
    cases shown <;> simp [Except.map, Value.ofMembers, unnamed]

theorem textAt?_written (m : Message) (shown : Option Text) :
    Members.textAt? (Members.objectAt? (written m shown) "message".toList) "text".toList =
      some m.text := by
  have message : Members.objectAt? (written m shown) "message".toList =
      some [("text".toList, .text m.text)] := rfl
  rw [message]
  rfl

theorem findingsOf_written {m : Message} (shown : Option Text) (told : m.text ≠ []) :
    findingsOf (written m shown) = [⟨m.text, m.level.reported, place m shown⟩] := by
  have level : severity (written m shown) = m.level.reported :=
    Severity.ofReportLevel_reportLevel m.level
  have locations : objectsOf (written m shown) "locations" =
      [[("physicalLocation".toList, .object (place m shown))]] := rfl
  rw [findingsOf, textAt?_written, locations, level]
  cases found : m.text with
  | nil => exact absurd found told
  | cons c rest => rfl

theorem findingsOf_untold {m : Message} (shown : Option Text) (untold : m.text = []) :
    findingsOf (written m shown) = [] := by
  rw [findingsOf, textAt?_written, untold]

theorem valid_asRead {m : Message} (valid : m.Valid) : (asRead m none).Valid :=
  Message.valid_bare valid.file_solid (Message.location_valid_iff.mpr
    ⟨valid.location_valid.1, Message.one_le_line valid, Message.one_le_column valid⟩)

theorem toMessage_eq_ok {m : Message} {shown : Option Text} (valid : m.Valid)
    (single : ∀ line ∈ shown, '\n' ∉ line ∧ line.getLast? ≠ some '\r') :
    Finding.toMessage ⟨m.text, m.level.reported, place m shown⟩ = .ok (asRead m shown) := by
  have uri : (Members.textAt? (Members.objectAt? (place m shown) "artifactLocation".toList)
      "uri".toList).getD [] = m.file := by
    rw [place]
    by_cases unnamed : m.file = []
    · rw [if_pos unnamed, unnamed]
      rfl
    · rw [if_neg unnamed]
      have file (region : Value) : Members.objectAt? [("region".toList, region),
          ("artifactLocation".toList, Value.ofMembers [("uri", .text m.file)])]
          "artifactLocation".toList = some [("uri".toList, .text m.file)] := rfl
      rw [file]
      rfl
  have around : Members.objectAt? (place m shown) "region".toList = some (region m shown) := rfl
  have line : Members.integerAt (region m shown) "startLine".toList 1 = .ok m.line := rfl
  have column : Members.integerAt (region m shown) "startColumn".toList 1 = .ok m.column := rfl
  have made := Message.create_natCast_eq_ok.mpr ⟨valid_asRead valid, rfl⟩
  rw [Finding.toMessage]
  simp only [uri, around, line, column, bind, Except.bind, made, Option.bind_some]
  cases shown with
  | none => rfl
  | some shown =>
    have snippet : Members.objectAt? (region m (some shown)) "snippet".toList =
        some [("text".toList, .text shown)] := rfl
    have text : Members.textAt? (some [("text".toList, .text shown)]) "text".toList = some shown :=
      rfl
    obtain ⟨noFeed, noReturn⟩ := single shown rfl
    rw [snippet, text]
    dsimp only
    rw [Text.splitBreaks_trimEnd noFeed noReturn]
    exact Message.withContext_lines (valid_asRead valid) (List.cons_ne_nil shown [])

/-! ## All messages -/

structure ReadsBack (m found : Message) : Prop where
  file : found.file = m.file
  text : found.text = m.text
  line : found.line = m.line
  column : found.column = m.column
  level : found.level = m.level.reported
  rank : found.level.rank = m.level.rank
  blocking : found.level.isBlocking = m.level.isBlocking
  hints : found.hints = []
  context_iff : found.context = none ↔ m.context = none
  context : ∀ c ∈ found.context, ∃ line, m.focusLine = .ok line ∧ c = ⟨m.line, [line]⟩

theorem readsBack_asRead {m : Message} {shown : Option Text} (shows : Shows m shown) :
    ReadsBack m (asRead m shown) where
  file := rfl
  text := rfl
  line := rfl
  column := rfl
  level := rfl
  rank := m.level.rank_reported
  blocking := by
    rw [asRead, Severity.isBlocking, Severity.rank_reported]
    rfl
  hints := rfl
  context_iff := by rw [asRead, Option.map_eq_none_iff, shows.none_iff]
  context := by
    intro c member
    obtain ⟨line, isShown, rfl⟩ := Option.map_eq_some_iff.mp member
    exact ⟨line, shows.focus line isShown, rfl⟩

/-- A message that a report can hold as it is but for its level, its context and its hints. -/
structure Reportable (m : Message) : Prop where
  valid : m.Valid
  told : m.text ≠ []
  single : ∀ line, m.focusLine = .ok line → '\n' ∉ line ∧ line.getLast? ≠ some '\r'

theorem reported_and_read {m : Message} (reportable : Reportable m) :
    ∃ members finding found, result m = .ok (.object members) ∧ findingsOf members = [finding] ∧
      finding.toMessage = .ok found ∧ ReadsBack m found := by
  obtain ⟨shown, shows⟩ := exists_shows reportable.valid
  have single : ∀ line ∈ shown, '\n' ∉ line ∧ line.getLast? ≠ some '\r' := fun line member =>
    reportable.single line (shows.focus line member)
  exact ⟨_, _, _, result_eq_ok shows, findingsOf_written shown reportable.told,
    toMessage_eq_ok reportable.valid single, readsBack_asRead shows⟩

def runOf (tool : Value) (results : List Value) : Members :=
  [("tool".toList, Value.ofMembers
    [("driver", Value.ofMembers [("name", tool), ("version", .text toolVersion)])]),
   ("results".toList, .list results)]

theorem untilError_append (back : List Message) (rest : List (Outcome Message)) :
    untilError (back.map .ok ++ rest) = (back ++ (untilError rest).1, (untilError rest).2) := by
  induction back with
  | nil => rfl
  | cons m others ih => rw [List.map_cons, List.cons_append, untilError, ih, List.cons_append]

/-- What comes back of the first message stands before what comes back of the others. -/
theorem read_cons {m : Message} {rest back others : List Message} {members : Members}
    {results : List Value} {error : Option Error} (tool : Value)
    (reported : result m = .ok (.object members))
    (findings : (findingsOf members).map Finding.toMessage = back.map .ok)
    (all : rest.mapM result = .ok results)
    (read : messagesOf (runOf tool results) = (others, error)) :
    (m :: rest).mapM result = .ok (.object members :: results) ∧
      messagesOf (runOf tool (.object members :: results)) = (back ++ others, error) := by
  constructor
  · rw [List.mapM_cons, reported, all]
    rfl
  · have opened (results : List Value) : messagesOf (runOf tool results) =
        untilError (((Value.list results).objects.flatMap findingsOf).map Finding.toMessage) := rfl
    have objects : (Value.list (.object members :: results)).objects =
        members :: (Value.list results).objects := rfl
    rw [opened] at read
    rw [opened, objects, List.flatMap_cons, List.map_append, findings, untilError_append, read]

theorem results_read {ms : List Message} (tool : Value) (reportable : ∀ m ∈ ms, Reportable m) :
    ∃ results found, ms.mapM result = .ok results ∧
      messagesOf (runOf tool results) = (found, none) ∧ List.Forall₂ ReadsBack ms found := by
  induction ms with
  | nil => exact ⟨[], [], rfl, rfl, .nil⟩
  | cons m rest ih =>
    rw [List.forall_mem_cons] at reportable
    obtain ⟨members, finding, first, reported, findings, made, back⟩ :=
      reported_and_read reportable.1
    obtain ⟨results, others, all, read, backs⟩ := ih reportable.2
    have one : (findingsOf members).map Finding.toMessage = [first].map .ok := by
      rw [findings, List.map_singleton, made, List.map_singleton]
    obtain ⟨written, found⟩ := read_cons tool reported one all read
    exact ⟨.object members :: results, first :: others, written, found, .cons back backs⟩

theorem run_document {ms : List Message} {results : List Value} (tool : Value)
    (reported : ms.mapM result = .ok results) :
    ∃ report, document ms tool = .ok report ∧ run report none = .ok (runOf tool results) := by
  let members : Members := [("version".toList, .text version), ("$schema".toList, .text schema),
    ("runs".toList, .list [.object (runOf tool results)])]
  have one : members.valueOf? "runs".toList = some (.list [.object (runOf tool results)]) := rfl
  refine ⟨.object members, by rw [document, reported]; rfl, ?_⟩
  rw [run, runs, Value.member?, one]
  rfl

end Sarif
end Diagnostics
