import Diagnostics.Extract
import Diagnostics.Report
import Diagnostics.Proofs.Files.Written
import Diagnostics.Proofs.Json.RoundTrip
import Diagnostics.Proofs.Sarif.ReadBack

/-!
Reports in files. The report on some messages is read from the file that it was written to as the
report that it is in memory, and so has the same messages there. A report with a line or a column of
too many digits is never written.
-/
namespace Diagnostics

namespace Value

theorem itemsAreWritable_iff {items : List Value} :
    itemsAreWritable items = true ↔ ∀ item ∈ items, isWritable item = true := by
  induction items with
  | nil => simp [itemsAreWritable]
  | cons first items ih => rw [itemsAreWritable, Bool.and_eq_true, ih, List.forall_mem_cons]

end Value

namespace Sarif

/-- The line and the column of a message have no more digits than are written. -/
def Recordable (m : Message) : Prop :=
  Number.isWritable m.line = true ∧ Number.isWritable m.column = true

instance (m : Message) : Decidable (Recordable m) := inferInstanceAs (Decidable (_ ∧ _))

theorem isWritable_region (m : Message) (shown : Option Text) :
    Value.isWritable (.object (region m shown)) = true ↔ Recordable m := by
  cases shown <;>
    simp [region, Recordable, Value.ofMembers, Value.isWritable, Value.membersAreWritable]

theorem isWritable_written (m : Message) (shown : Option Text) :
    Value.isWritable (.object (written m shown)) = true ↔ Recordable m := by
  rw [← isWritable_region m shown]
  by_cases unnamed : m.file = [] <;>
    simp [written, place, unnamed, Value.ofMembers, Value.isWritable, Value.membersAreWritable,
      Value.itemsAreWritable]

theorem lasting_object {room : Room} {members : Members} (names : List Text)
    (named : members.map Prod.fst = names) (distinct : names.Nodup)
    (each : ∀ member ∈ members, Json.Lasting room member.2) :
    Json.Lasting (room + 1) (.object members) :=
  .object (named ▸ distinct) each

theorem lasting_single {room : Room} {value : Value} (name : String)
    (lasting : Json.Lasting room value) :
    Json.Lasting (room + 1) (Value.ofMembers [(name, value)]) :=
  .object (List.nodup_singleton _) fun _ member => List.mem_singleton.mp member ▸ lasting

theorem lasting_list {room : Room} {value : Value} (lasting : Json.Lasting room value) :
    Json.Lasting (room + 1) (.list [value]) :=
  .list fun _ member => List.mem_singleton.mp member ▸ lasting

theorem lasting_region {m : Message} (recordable : Recordable m) (shown : Option Text)
    (room : Room) : Json.Lasting (room + 2) (.object (region m shown)) := by
  have line : Json.Lasting (room + 1) (.integer m.line) := .integer _ recordable.1
  have column : Json.Lasting (room + 1) (.integer m.column) := .integer _ recordable.2
  cases shown with
  | none =>
    refine lasting_object ["startLine".toList, "startColumn".toList] rfl (by decide) ?_
    exact List.forall_mem_cons.mpr ⟨line, List.forall_mem_singleton.mpr column⟩
  | some shown =>
    refine lasting_object ["startLine".toList, "startColumn".toList, "snippet".toList] rfl
      (by decide) ?_
    have snippet := lasting_single "text" (.text room shown)
    exact List.forall_mem_cons.mpr
      ⟨line, List.forall_mem_cons.mpr ⟨column, List.forall_mem_singleton.mpr snippet⟩⟩

theorem lasting_place {m : Message} (recordable : Recordable m) (shown : Option Text)
    (room : Room) : Json.Lasting (room + 3) (.object (place m shown)) := by
  have region := lasting_region recordable shown room
  rw [place]
  split
  next =>
    exact lasting_object ["region".toList] rfl (by decide) (List.forall_mem_singleton.mpr region)
  next =>
    refine lasting_object ["region".toList, "artifactLocation".toList] rfl (by decide) ?_
    have file := lasting_single "uri" (.text (room + 1) m.file)
    exact List.forall_mem_cons.mpr ⟨region, List.forall_mem_singleton.mpr file⟩

theorem lasting_written {m : Message} (recordable : Recordable m) (shown : Option Text)
    (room : Room) : Json.Lasting (room + 6) (.object (written m shown)) := by
  have message := lasting_single "text" (.text (room + 4) m.text)
  have locations := lasting_list
    (lasting_single "physicalLocation" (lasting_place recordable shown room))
  refine lasting_object ["level".toList, "message".toList, "locations".toList] rfl (by decide) ?_
  exact List.forall_mem_cons.mpr ⟨.text (room + 5) m.level.reportLevel,
    List.forall_mem_cons.mpr ⟨message, List.forall_mem_singleton.mpr locations⟩⟩

/-- The members of the report of a tool with some results. -/
def reported (tool : Value) (results : List Value) : Members :=
  [("version".toList, .text version), ("$schema".toList, .text schema),
   ("runs".toList, .list [.object (runOf tool results)])]

theorem document_eq_ok {ms : List Message} {results : List Value} (tool : Value)
    (all : ms.mapM result = .ok results) :
    document ms tool = .ok (.object (reported tool results)) := by
  rw [document, all]
  rfl

theorem isWritable_reported {tool : Text} {results : List Value} :
    Value.isWritable (.object (reported (.text tool) results)) = true ↔
      ∀ found ∈ results, Value.isWritable found = true := by
  rw [← Value.itemsAreWritable_iff]
  simp [reported, runOf, Value.ofMembers, Value.isWritable, Value.membersAreWritable,
    Value.itemsAreWritable]

theorem lasting_reported {tool : Text} {results : List Value} {room : Room}
    (each : ∀ found ∈ results, Json.Lasting (room + 6) found) :
    Json.Lasting (room + 10) (.object (reported (.text tool) results)) := by
  have driver : Json.Lasting (room + 6)
      (.object [("name".toList, .text tool), ("version".toList, .text toolVersion)]) := by
    refine lasting_object ["name".toList, "version".toList] rfl (by decide) ?_
    exact List.forall_mem_cons.mpr ⟨.text (room + 5) tool,
      List.forall_mem_singleton.mpr (.text (room + 5) toolVersion)⟩
  have run : Json.Lasting (room + 8) (.object (runOf (.text tool) results)) := by
    refine lasting_object ["tool".toList, "results".toList] rfl (by decide) ?_
    exact List.forall_mem_cons.mpr ⟨lasting_single "driver" driver,
      List.forall_mem_singleton.mpr (.list each)⟩
  refine lasting_object ["version".toList, "$schema".toList, "runs".toList] rfl (by decide) ?_
  exact List.forall_mem_cons.mpr ⟨.text (room + 9) version, List.forall_mem_cons.mpr
    ⟨.text (room + 9) schema, List.forall_mem_singleton.mpr (lasting_list run)⟩⟩

/-- The result for a message, with some line that it shows. -/
def IsResult (m : Message) (found : Value) : Prop := ∃ shown, found = .object (written m shown)

theorem exists_results {ms : List Message} (valid : ∀ m ∈ ms, m.Valid) :
    ∃ results, ms.mapM result = .ok results ∧ List.Forall₂ IsResult ms results := by
  induction ms with
  | nil => exact ⟨[], rfl, .nil⟩
  | cons m rest ih =>
    rw [List.forall_mem_cons] at valid
    obtain ⟨shown, shows⟩ := exists_shows valid.1
    obtain ⟨results, all, each⟩ := ih valid.2
    refine ⟨.object (written m shown) :: results, ?_, .cons ⟨shown, rfl⟩ each⟩
    rw [List.mapM_cons, result_eq_ok shows, all]
    rfl

theorem isWritable_results {ms : List Message} {results : List Value}
    (each : List.Forall₂ IsResult ms results) :
    (∀ found ∈ results, Value.isWritable found = true) ↔ ∀ m ∈ ms, Recordable m := by
  induction each with
  | nil => simp
  | @cons m found ms results one _ ih =>
    obtain ⟨shown, rfl⟩ := one
    rw [List.forall_mem_cons, List.forall_mem_cons, isWritable_written, ih]

theorem lasting_results {ms : List Message} {results : List Value}
    (each : List.Forall₂ IsResult ms results) (recordable : ∀ m ∈ ms, Recordable m)
    (room : Room) : ∀ found ∈ results, Json.Lasting (room + 6) found := by
  induction each with
  | nil => nofun
  | @cons m found ms results one _ ih =>
    obtain ⟨shown, rfl⟩ := one
    rw [List.forall_mem_cons] at recordable ⊢
    exact ⟨lasting_written recordable.1 shown room, ih recordable.2⟩

end Sarif

namespace Report

open Sarif (Recordable)

/-- The report on valid messages: whether it may be written, and that it comes back if it is. -/
theorem exists_report {ms : List Message} (valid : ∀ m ∈ ms, m.Valid) :
    ∃ report, Sarif.document ms Sarif.defaultTool = .ok report ∧
      (Value.isWritable report = true ↔ ∀ m ∈ ms, Recordable m) ∧
      ((∀ m ∈ ms, Recordable m) → ∀ room, Json.Lasting (room + 10) report) := by
  obtain ⟨results, all, each⟩ := Sarif.exists_results valid
  refine ⟨_, Sarif.document_eq_ok _ all, ?_, fun recordable room => ?_⟩
  · rw [Sarif.defaultTool, Sarif.isWritable_reported, Sarif.isWritable_results each]
  · exact Sarif.lasting_reported (Sarif.lasting_results each recordable room)

theorem writeSarif_of_long {ms : List Message} (files : Files) (path : Text)
    (valid : ∀ m ∈ ms, m.Valid) (long : ∃ m ∈ ms, ¬Recordable m) :
    writeSarif files ms path = .error .unwritable := by
  obtain ⟨report, made, writable, -⟩ := exists_report valid
  have refused : Value.isWritable report ≠ true := by
    intro all
    obtain ⟨m, member, other⟩ := long
    exact other (writable.mp all m member)
  rw [writeSarif, sarif, made, Except.bind, textOf, if_neg refused]
  rfl

/-- The report on some messages is read from its file as it is in memory, unless it is never
written. -/
theorem writeSarif_messages {files : Files} {ms : List Message} {path : Text} {place : Path}
    {room : Room} (valid : ∀ m ∈ ms, m.Valid)
    (named : Text.endsIn (Path.ofText path).lastName ".sarif".toList = true)
    (found : (files.locate path).place? = some place) (space : 14 ≤ room) :
    ∃ report, Sarif.document ms Sarif.defaultTool = .ok report ∧
      ((∀ m ∈ ms, Recordable m) → ∃ after, writeSarif files ms path = .ok after ∧
        after.readText path = .ok (Json.write report) ∧
        Json.Visible (Json.write report) ∧
        Json.documentOf room (Json.write report) = .ok report ∧
        after.messages .standard room path = Sarif.messages report none) ∧
      ((∃ m ∈ ms, ¬Recordable m) → writeSarif files ms path = .error .unwritable) := by
  obtain ⟨report, made, writable, lasting⟩ := exists_report valid
  refine ⟨report, made, fun recordable => ?_, writeSarif_of_long files path valid⟩
  · have text : sarif ms Sarif.defaultTool = .ok (Json.write report) := by
      rw [sarif, made, Except.bind, textOf, if_pos (writable.mpr recordable)]
    have visible : Json.Visible (Json.write report) := Json.visible_writeAt (lasting recordable 0) 0
    have noReturn : '\r' ∉ Json.write report := fun member =>
      absurd (Json.visible_iff.mp visible _ member) (by decide)
    obtain ⟨after, written, read⟩ := Files.readText_writeText found noReturn
    obtain ⟨spare, rfl⟩ := Nat.exists_eq_add_of_le' space
    have document : Json.documentOf (spare + 14) (Json.write report) = .ok report := by
      rw [Json.documentOf, Json.read_write (lasting recordable spare)]
    refine ⟨after, ?_, read, visible, document, ?_⟩
    · rw [writeSarif, text]
      exact written
    · rw [Files.messages, if_pos (Settings.isReport_standard named), Files.reportMessages, read]
      simp only [bind, Except.bind, document]

/-- A message with quotes, a tab and a character above U+FFFF, and one without a file. -/
def quotedAndLost : List Message :=
  [⟨"a.c".toList, .warning, ⟨"\"\\x\"".toList, some 2, some 3⟩, some ⟨1, [[], "\t😀".toList]⟩,
     [.insert 1 ['y']]⟩,
   ⟨[], .note, ⟨"é".toList, none, none⟩, none, []⟩]

theorem writeSarif_messages_quotedAndLost : ∃ report after,
    Sarif.document quotedAndLost Sarif.defaultTool = .ok report ∧
      writeSarif .empty quotedAndLost "r.sarif".toList = .ok after ∧
      after.messages .standard 985 "r.sarif".toList = Sarif.messages report none := by
  have found : (Files.empty.locate "r.sarif".toList).place? = some ["r.sarif".toList] := by
    decide
  have valid : ∀ m ∈ quotedAndLost, m.Valid := by decide
  obtain ⟨report, made, filed, -⟩ :=
    writeSarif_messages valid (by decide) found (show 14 ≤ 985 by decide)
  obtain ⟨after, written, -, -, -, same⟩ := filed (by decide +kernel)
  exact ⟨report, after, made, written, same⟩

def onLine (n : Nat) : Message := ⟨[], .error, ⟨"t".toList, some n, some 1⟩, none, []⟩

theorem valid_onLine {n : Nat} (positive : 1 ≤ n) : (onLine n).Valid :=
  Message.valid_bare (by decide)
    (Message.location_valid_iff.mpr ⟨by decide, positive, Nat.le_refl 1⟩)

theorem messages_onLine {n : Nat} (positive : 1 ≤ n) :
    ∃ report found, Sarif.document [onLine n] Sarif.defaultTool = .ok report ∧
      Sarif.messages report none = .ok (found, none) := by
  have reportable : Sarif.Reportable (onLine n) :=
    ⟨valid_onLine positive, List.cons_ne_nil 't' [], fun _ focus => nomatch focus⟩
  obtain ⟨results, found, all, read, -⟩ :=
    Sarif.results_read Sarif.defaultTool (List.forall_mem_singleton.mpr reportable)
  obtain ⟨report, made, run⟩ := Sarif.run_document Sarif.defaultTool all
  refine ⟨report, found, made, ?_⟩
  rw [Sarif.messages, run]
  exact congrArg Except.ok read

theorem writeSarif_onLine {n : Nat} (positive : 1 ≤ n) (long : Number.isWritable n = false) :
    writeSarif .empty [onLine n] "r.sarif".toList = .error .unwritable := by
  refine writeSarif_of_long _ _ (List.forall_mem_singleton.mpr (valid_onLine positive)) ?_
  exact ⟨onLine n, List.mem_cons_self, fun recordable =>
    Bool.false_ne_true (long.symm.trans recordable.1)⟩

theorem one_le_pow_ten (size : Nat) : 1 ≤ Nat.pow 10 size := Nat.pow_pos (by decide)

/-- The report on a message whose line has too many digits has a message, but is never written. -/
theorem writeSarif_onLine_limit :
    (∀ m ∈ [onLine (Nat.pow 10 Number.digitLimit)], m.Valid) ∧
      (∃ report found,
        Sarif.document [onLine (Nat.pow 10 Number.digitLimit)] Sarif.defaultTool = .ok report ∧
          Sarif.messages report none = .ok (found, none)) ∧
      writeSarif .empty [onLine (Nat.pow 10 Number.digitLimit)] "r.sarif".toList =
        .error .unwritable := by
  have positive := one_le_pow_ten Number.digitLimit
  exact ⟨List.forall_mem_singleton.mpr (valid_onLine positive), messages_onLine positive,
    writeSarif_onLine positive (decide_eq_false (Nat.lt_irrefl _))⟩

end Report
end Diagnostics
