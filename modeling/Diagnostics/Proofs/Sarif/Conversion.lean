import Diagnostics.Proofs.Log.Emission
import Diagnostics.Proofs.Sarif.ReadBack

/-!
Logs converted to reports. What a scanner gives has nothing that a report cannot hold, so the report
on the messages of a log is read back as these messages, all but those without a text.
-/
namespace Diagnostics.Sarif

open Log (Scanned)

theorem reported_severity (l : Log.Level) : l.severity.reported = l.severity := by
  cases l <;> rfl

/-- The line that the report shows, if there is one, is all that is around the message. -/
theorem asRead_eq_self {m : Message} {shown : Option Text} (scanned : Scanned m)
    (shows : Shows m shown) : asRead m shown = m := by
  obtain ⟨l, level⟩ := scanned.level
  have context : (shown.map fun line => (⟨m.line, [line]⟩ : Context)) = m.context := by
    cases around : m.context with
    | none =>
      rw [shows.none_iff.mpr around]
      rfl
    | some c =>
      obtain ⟨line, rfl, _, _⟩ := scanned.around c around
      obtain ⟨focus, here, reads⟩ := Message.exists_focusLine scanned.valid around
      rw [Nat.sub_self] at here
      cases here
      cases shown with
      | none =>
        have without := shows.none_iff.mp rfl
        rw [around] at without
        cases without
      | some line' =>
        have same := reads.symm.trans (shows.focus line' rfl)
        cases same
        rfl
  have parts : m = ⟨m.file, m.level, m.location, m.context, m.hints⟩ := rfl
  rw [asRead, context, ← scanned.placed, level, reported_severity, ← level, ← scanned.unhinted,
    ← parts]

theorem single_of_shows {m : Message} {shown : Option Text} (scanned : Scanned m)
    (shows : Shows m shown) : ∀ line ∈ shown, '\n' ∉ line ∧ line.getLast? ≠ some '\r' := by
  have same := asRead_eq_self scanned shows
  rintro line ⟨⟩
  have around : m.context = some ⟨m.line, [line]⟩ := by
    rw [← congrArg Message.context same]
    rfl
  obtain ⟨line', parts, single⟩ := scanned.around _ around
  cases parts
  exact single

/-- Of a scanned message, nothing comes back if it has no text, and the message itself if it has. -/
theorem scanned_reported_and_read {m : Message} (scanned : Scanned m) :
    ∃ members, result m = .ok (.object members) ∧
      (findingsOf members).map Finding.toMessage =
        (if m.text ≠ [] then [m] else []).map .ok := by
  obtain ⟨shown, shows⟩ := exists_shows scanned.valid
  refine ⟨written m shown, result_eq_ok shows, ?_⟩
  by_cases told : m.text = []
  · rw [findingsOf_untold shown told, if_neg (not_not_intro told)]
    rfl
  · have made := toMessage_eq_ok scanned.valid (single_of_shows scanned shows)
    rw [findingsOf_written shown told, List.map_singleton, made, asRead_eq_self scanned shows,
      if_pos told]
    rfl

theorem scanned_results_read {ms : List Message} (tool : Value) (scanned : ∀ m ∈ ms, Scanned m) :
    ∃ results, ms.mapM result = .ok results ∧
      messagesOf (runOf tool results) = (ms.filter fun m => m.text ≠ [], none) := by
  induction ms with
  | nil => exact ⟨[], rfl, rfl⟩
  | cons m rest ih =>
    rw [List.forall_mem_cons] at scanned
    obtain ⟨members, reported, findings⟩ := scanned_reported_and_read scanned.1
    obtain ⟨results, all, read⟩ := ih scanned.2
    obtain ⟨written, found⟩ := read_cons tool reported findings all read
    refine ⟨_, written, ?_⟩
    rw [found, List.filter_cons]
    by_cases told : m.text = [] <;> simp [told]

/-- The report on the messages of a log, as a scanner gives them, is read back without an error: as
the messages that have a text, each of them as it was. -/
theorem messages_document_scanned {lines : List Text} {ms : List Message} {calls : Nat}
    (tool : Value) (single : ∀ line ∈ lines, '\n' ∉ Log.bare line)
    (given : (Log.Scanner.answers calls (.ofLines lines)).map Prod.fst =
      ms.map .message ++ [.finished]) :
    ∃ report, document ms tool = .ok report ∧
      messages report none = .ok (ms.filter fun m => m.text ≠ [], none) := by
  have scanned : ∀ m ∈ ms, Scanned m := by
    intro m member
    have answered : .message m ∈ (Log.Scanner.answers calls (.ofLines lines)).map Prod.fst := by
      rw [given]
      exact List.mem_append_left _ (List.mem_map_of_mem member)
    exact Log.answers_scanned (Log.ready_ofLines single) answered
  obtain ⟨results, reported, read⟩ := scanned_results_read tool scanned
  obtain ⟨report, written, one⟩ := run_document tool reported
  refine ⟨report, written, ?_⟩
  rw [messages, one]
  exact congrArg Except.ok read

/-- A header without a text, and one whose line has a carriage return inside. -/
def untoldAndTold : List Text :=
  ["a.c:1:2: error: \n".toList, "  x.h:30:4: note: t\r\n".toList, "    y\rz \r\n".toList,
   "w".toList]

def untold : Message := ⟨"a.c".toList, .error, ⟨[], some 1, some 2⟩, none, []⟩

def told : Message :=
  ⟨"x.h".toList, .note, ⟨"t".toList, some 30, some 4⟩, some ⟨30, ["  y\rz ".toList]⟩, []⟩

theorem messages_document_untoldAndTold :
    (Log.Scanner.answers 7 (.ofLines untoldAndTold)).map Prod.fst =
        [untold, told].map .message ++ [.finished] ∧
      ∃ report, document [untold, told] defaultTool = .ok report ∧
        messages report none = .ok ([told], none) := by
  have single : ∀ line ∈ untoldAndTold, '\n' ∉ Log.bare line := by decide +kernel
  have given : (Log.Scanner.answers 7 (.ofLines untoldAndTold)).map Prod.fst =
      [untold, told].map .message ++ [.finished] := by decide +kernel
  exact ⟨given, messages_document_scanned defaultTool single given⟩

end Diagnostics.Sarif
