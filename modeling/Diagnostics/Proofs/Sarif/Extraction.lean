import Diagnostics.Proofs.Message.Refusal
import Diagnostics.Proofs.Sarif.Places
import Diagnostics.Proofs.Text.Lines
import Diagnostics.Proofs.Text.Run
import Mathlib.Data.List.Forall2

/-!
What comes out of any report. A report is refused for the run that it lacks; otherwise the places
that the run marks are read one after the other, each as one message, up to the first place that
cannot be read. The strings of a report are texts, so no half of a 16-bit pair stands alone in them.
-/
namespace Diagnostics

theorem Text.itemAt?_eq_some {α : Type} {items : List α} {index : Int} {item : α} :
    itemAt? items index = some item ↔
      ∃ i : Nat, items[i]? = some item ∧
        ((i : Int) = index ∨ (i : Int) = index + items.length) := by
  unfold itemAt?
  constructor
  · intro found
    split at found
    · exact ⟨index.toNat, found, .inl (by omega)⟩
    · split at found
      · exact ⟨(index + items.length).toNat, found, .inr (by omega)⟩
      · cases found
  · rintro ⟨i, found, counted⟩
    have inside := (List.getElem?_eq_some_iff.mp found).1
    rcases counted with rfl | counted
    · rw [if_pos (Int.natCast_nonneg i), Int.toNat_natCast]
      exact found
    · rw [if_neg (by omega), if_pos (by omega), ← counted, Int.toNat_natCast]
      exact found

namespace Sarif

/-! ## The run of a report -/

/-- An index counts some runs from the start or from the end; without one, the last is meant. -/
def Points (index : Option RunIndex) (count i : Nat) : Prop :=
  match index with
  | none => i + 1 = count
  | some k => (i : Int) = k.toInt ∨ (i : Int) = k.toInt + count

def Lists (document : Value) (listed : List Value) : Prop :=
  ∃ members, document = .object members ∧
    Members.valueOf? members "runs".toList = some (.list listed)

def Picks (document : Value) (index : Option RunIndex) (members : Members) : Prop :=
  ∃ listed i, Lists document listed ∧ Points index listed.length i ∧
    listed[i]? = some (.object members)

/-- The error for a refusal that names an index, unless that is too long to be written. -/
def errorNaming (index : RunIndex) (refusal : RunIndex → ReportError) : Error :=
  if Number.isWritable index.toInt.natAbs then .report (refusal index) else .unwritable

/-- Why no run is picked: there is no list of runs, the index is out of range, or something else than
an object is there. -/
inductive Refused (document : Value) (index : Option RunIndex) : Error → Prop
  | unlisted (unlisted : ∀ listed, ¬ Lists document listed) :
      Refused document index (.report .noRuns)
  | outside {listed : List Value} (lists : Lists document listed)
      (outside : ∀ i < listed.length, ¬ Points index listed.length i) :
      Refused document index (errorNaming (index.getD (lastIndex listed)) .noRunAt)
  | notObject {listed : List Value} {i : Nat} {value : Value} (lists : Lists document listed)
      (points : Points index listed.length i) (here : listed[i]? = some value)
      (other : ∀ members, value ≠ .object members) :
      Refused document index (errorNaming (index.getD (lastIndex listed)) .runNotObject)

theorem runs_eq_ok {document : Value} {listed : List Value} :
    runs document = .ok listed ↔ Lists document listed := by
  constructor
  · intro found
    unfold runs at found
    split at found
    · rename_i here
      cases found
      cases document with
      | object members => exact ⟨members, rfl, here⟩
      | _ => cases here
    · cases found
  · rintro ⟨members, rfl, here⟩
    rw [runs, Value.member?, here]

theorem runs_of_unlisted {document : Value} (unlisted : ∀ listed, ¬ Lists document listed) :
    runs document = .error (.report .noRuns) := by
  cases found : runs document with
  | ok listed => exact absurd (runs_eq_ok.mp found) (unlisted listed)
  | error e =>
    unfold runs at found
    split at found
    · cases found
    · rw [← found]

theorem itemAt?_of_points {index : Option RunIndex} {listed : List Value} {value : Value} :
    Text.itemAt? listed (index.getD (lastIndex listed)).toInt = some value ↔
      ∃ i, Points index listed.length i ∧ listed[i]? = some value := by
  rw [Text.itemAt?_eq_some]
  cases index with
  | none =>
    have last : ((none : Option RunIndex).getD (lastIndex listed)).toInt = listed.length - 1 := rfl
    rw [last]
    constructor
    · rintro ⟨i, here, counted⟩
      have inside := (List.getElem?_eq_some_iff.mp here).1
      exact ⟨i, show i + 1 = listed.length by omega, here⟩
    · rintro ⟨i, points, here⟩
      have counted : i + 1 = listed.length := points
      exact ⟨i, here, .inl (by omega)⟩
  | some k =>
    constructor
    · rintro ⟨i, here, points⟩
      exact ⟨i, points, here⟩
    · rintro ⟨i, points, here⟩
      exact ⟨i, here, points⟩

theorem run_of_picks {document : Value} {index : Option RunIndex} {members : Members}
    (picks : Picks document index members) : run document index = .ok members := by
  obtain ⟨listed, i, lists, points, here⟩ := picks
  rw [run, runs_eq_ok.mpr lists, Except.bind, runAt, itemAt?_of_points.mpr ⟨i, points, here⟩]

theorem run_of_refused {document : Value} {index : Option RunIndex} {e : Error}
    (refused : Refused document index e) : run document index = .error e := by
  cases refused with
  | unlisted unlisted =>
    rw [run, runs_of_unlisted unlisted]
    rfl
  | @outside listed lists outside =>
    have nowhere : Text.itemAt? listed (index.getD (lastIndex listed)).toInt = none := by
      rw [Option.eq_none_iff_forall_ne_some]
      intro value found
      obtain ⟨i, points, here⟩ := itemAt?_of_points.mp found
      exact outside i (List.getElem?_eq_some_iff.mp here).1 points
    rw [run, runs_eq_ok.mpr lists, Except.bind, runAt, nowhere]
    rfl
  | @notObject listed i value lists points here other =>
    rw [run, runs_eq_ok.mpr lists, Except.bind, runAt, itemAt?_of_points.mpr ⟨i, points, here⟩]
    cases value with
    | object members => exact absurd rfl (other members)
    | _ => rfl

theorem refused_or_picks (document : Value) (index : Option RunIndex) :
    (∃ e, Refused document index e) ∨ ∃ members, Picks document index members := by
  by_cases lists : ∃ listed, Lists document listed
  · obtain ⟨listed, lists⟩ := lists
    by_cases points : ∃ i < listed.length, Points index listed.length i
    · obtain ⟨i, inside, points⟩ := points
      have here := List.getElem?_eq_getElem inside
      by_cases object : ∃ members, listed[i] = .object members
      · obtain ⟨members, same⟩ := object
        exact .inr ⟨members, listed, i, lists, points, here.trans (congrArg some same)⟩
      · exact .inl ⟨_, .notObject lists points here fun members same => object ⟨members, same⟩⟩
    · exact .inl ⟨_, .outside lists fun i inside at_i => points ⟨i, inside, at_i⟩⟩
  · exact .inl ⟨_, .unlisted fun listed found => lists ⟨listed, found⟩⟩

theorem run_eq_error {document : Value} {index : Option RunIndex} {e : Error} :
    run document index = .error e ↔ Refused document index e := by
  constructor
  · intro failed
    rcases refused_or_picks document index with ⟨other, refused⟩ | ⟨members, picks⟩
    · cases failed.symm.trans (run_of_refused refused)
      exact refused
    · cases failed.symm.trans (run_of_picks picks)
  · exact run_of_refused

theorem run_eq_ok {document : Value} {index : Option RunIndex} {members : Members} :
    run document index = .ok members ↔ Picks document index members := by
  constructor
  · intro found
    rcases refused_or_picks document index with ⟨e, refused⟩ | ⟨others, picks⟩
    · cases found.symm.trans (run_of_refused refused)
    · cases found.symm.trans (run_of_picks picks)
      exact picks
  · exact run_of_picks

/-! ## Ways through objects -/

/-- The value at the end of a way of member names through a value. -/
def valueAt? : List String → Value → Option Value
  | [], value => some value
  | key :: way, .object members => (Members.valueOf? members key.toList).bind (valueAt? way)
  | _ :: _, _ => none

def textOf? : Value → Option Text
  | .text text => some text
  | _ => none

section Ways
variable {members : Members} {key next : String} {way : List String}

theorem valueAt?_member :
    valueAt? [key] (.object members) = Members.valueOf? members key.toList := by
  rw [valueAt?]
  cases Members.valueOf? members key.toList <;> rfl

theorem valueAt?_cons_cons :
    valueAt? (key :: next :: way) (.object members) =
      (Members.objectAt? members key.toList).bind fun inner =>
        valueAt? (next :: way) (.object inner) := by
  rw [valueAt?, Members.objectAt?, Value.objectAt?, Value.member?]
  cases Members.valueOf? members key.toList with
  | none => rfl
  | some value => cases value <;> rfl

theorem textAt?_eq {members : Option Members} :
    Members.textAt? members key.toList =
      members.bind fun members => (valueAt? [key] (.object members)).bind textOf? := by
  cases members with
  | none => rfl
  | some members =>
    rw [Members.textAt?, Option.bind_some, Option.bind_some, valueAt?_member]
    cases Members.valueOf? members key.toList with
    | none => rfl
    | some value => cases value <;> rfl

end Ways

/-! ## One finding -/

namespace Finding

def inRegion? (f : Finding) (key : String) : Option Value :=
  valueAt? ["region", key] (.object f.physical)

/-- The file that a finding names, or no name at all. -/
def uri (f : Finding) : Text :=
  ((valueAt? ["artifactLocation", "uri"] (.object f.physical)).bind textOf?).getD []

def snippet? (f : Finding) : Option Text :=
  (valueAt? ["region", "snippet", "text"] (.object f.physical)).bind textOf?

/-- The number that an entry stands for: its own, or one if nothing is said. -/
inductive Means : Option Value → Int → Prop
  | integer (n : Int) : Means (some (.integer n)) n
  | null : Means (some .null) 1
  | absent : Means none 1

def Garbled (value : Value) : Prop := value ≠ .null ∧ ∀ n, value ≠ .integer n

/-- The error for an entry that is no number. It shows the value, unless an integer in that is too
long to be written. -/
def garbledError (key : String) (value : Value) : Error :=
  if value.isWritable then .notInteger key.toList value.display else .unwritable

/-- The lines of a snippet: it is cut into lines without the breaks at its end. -/
inductive SnippetLines : Text → List Text → Prop
  | intro {body breaks : Text} {lines : List Text} (breaks_only : ∀ c ∈ breaks, c = '\n' ∨ c = '\r')
      (bare : ∀ c ∈ body.getLast?, c ≠ '\n' ∧ c ≠ '\r') (cut : Text.Cut body lines) :
      SnippetLines (body ++ breaks) lines

/-- The context at a line that a snippet gives; there is none without a snippet. -/
inductive Surrounds (line : Nat) : Option Text → Option Context → Prop
  | snippet {snippet : Text} {lines : List Text} (snippet_lines : SnippetLines snippet lines) :
      Surrounds line (some snippet) (some ⟨line, lines⟩)
  | absent : Surrounds line none none

/-- A message is valid, and has what stands at a place, and nothing else. -/
structure Reads (f : Finding) (m : Message) : Prop where
  line : Means (f.inRegion? "startLine") m.line
  column : Means (f.inRegion? "startColumn") m.column
  location : m.location = ⟨f.text, some m.line, some m.column⟩
  file : m.file = f.uri
  level : m.level = f.level
  hints : m.hints = []
  context : Surrounds m.line f.snippet? m.context
  valid : m.Valid

/-- Why a finding is no message: for its line, its column, its location as a whole, its file. -/
inductive Fails (f : Finding) : Error → Prop
  | line {value : Value} (there : f.inRegion? "startLine" = some value) (garbled : Garbled value) :
      Fails f (garbledError "startLine" value)
  | column {line : Int} {value : Value} (lineMeans : Means (f.inRegion? "startLine") line)
      (there : f.inRegion? "startColumn" = some value) (garbled : Garbled value) :
      Fails f (garbledError "startColumn" value)
  | location {line column : Int} (lineMeans : Means (f.inRegion? "startLine") line)
      (columnMeans : Means (f.inRegion? "startColumn") column)
      (wrong : line < 1 ∨ column < 1 ∨ '\n' ∈ f.text ∨ '\r' ∈ f.text) :
      Fails f (.invalid .location (Location.problems f.text (some line) (some column)))
  | file {line column : Int} (lineMeans : Means (f.inRegion? "startLine") line)
      (columnMeans : Means (f.inRegion? "startColumn") column) (counts : 1 ≤ line)
      (countsColumn : 1 ≤ column) (single : '\n' ∉ f.text ∧ '\r' ∉ f.text)
      (blank : f.uri.any Text.isBlank = true) :
      Fails f (.invalid .message [Message.fileProblem f.uri])

theorem Means.unique {entry : Option Value} {n k : Int} (means : Means entry n)
    (other : Means entry k) : n = k := by
  cases means <;> cases other <;> rfl

theorem Garbled.not_means {value : Value} {n : Int} (garbled : Garbled value) :
    ¬ Means (some value) n := by
  intro means
  cases means with
  | integer => exact garbled.2 n rfl
  | null => exact garbled.1 rfl

theorem written_bind_notInteger (key : String) (value : Value) :
    (value.written.bind fun shown => (.error (.notInteger key.toList shown) : Outcome (Option Int))) =
      .error (garbledError key value) := by
  rw [Value.written, garbledError]
  split <;> rfl

def region? (f : Finding) : Option Members := Members.objectAt? f.physical "region".toList

theorem inRegion?_eq (f : Finding) (key : String) :
    f.inRegion? key = f.region?.bind fun region => Members.valueOf? region key.toList := by
  simp only [inRegion?, region?, valueAt?_cons_cons, valueAt?_member]

theorem integerAt_cases (f : Finding) (key : String) :
    (∃ n, Means (f.inRegion? key) n ∧ Members.integerAt f.region? key.toList 1 = .ok n) ∨
    ∃ value, f.inRegion? key = some value ∧ Garbled value ∧
      Members.integerAt f.region? key.toList 1 = .error (garbledError key value) := by
  unfold Members.integerAt Members.integerAt?
  rw [inRegion?_eq]
  cases f.region?.bind fun region => Members.valueOf? region key.toList with
  | none => exact .inl ⟨1, .absent, rfl⟩
  | some value =>
    cases value with
    | null => exact .inl ⟨1, .null, rfl⟩
    | integer n => exact .inl ⟨n, .integer n, rfl⟩
    | _ =>
      refine .inr ⟨_, rfl, ⟨nofun, nofun⟩, ?_⟩
      dsimp only
      rw [written_bind_notInteger]
      rfl

theorem snippetLines_iff {snippet : Text} {lines : List Text} :
    SnippetLines snippet lines ↔
      Text.splitBreaks (Text.trimEnd Text.isBreak snippet) = lines := by
  have breaks_iff (c : Char) : Text.isBreak c = true ↔ c = '\n' ∨ c = '\r' := by simp [Text.isBreak]
  have other_iff (c : Char) : Text.isBreak c = false ↔ c ≠ '\n' ∧ c ≠ '\r' := by simp [Text.isBreak]
  constructor
  · rintro ⟨breaks_only, bare, cut⟩
    rw [Text.trimEnd_eq_iff.mpr ⟨_, rfl, fun c member => (breaks_iff c).mpr (breaks_only c member),
      fun c last => (other_iff c).mpr (bare c last)⟩]
    exact Text.cut_iff.mp cut
  · intro cut
    obtain ⟨breaks, whole, within, solid⟩ :=
      Text.trimEnd_eq_iff.mp (rfl : Text.trimEnd Text.isBreak snippet = _)
    generalize Text.trimEnd Text.isBreak snippet = body at cut whole solid
    subst whole
    exact .intro (fun c member => (breaks_iff c).mp (within c member))
      (fun c last => (other_iff c).mp (solid c last)) (Text.cut_iff.mpr cut)

theorem uri_eq (f : Finding) :
    f.uri = (Members.textAt? (Members.objectAt? f.physical "artifactLocation".toList)
      "uri".toList).getD [] := by
  simp only [uri, textAt?_eq, valueAt?_cons_cons, Option.bind_assoc]

theorem snippet?_eq (f : Finding) :
    f.snippet? = Members.textAt? (f.region?.bind fun region =>
      Members.objectAt? region "snippet".toList) "text".toList := by
  simp only [snippet?, region?, textAt?_eq, valueAt?_cons_cons, Option.bind_assoc]

/-- A message with a snippet at a line, if there is one, as its context. -/
def surround (shown : Option Text) (line : Int) (m : Message) : Outcome Message :=
  match shown with
  | none => .ok m
  | some snippet => m.withContext line (Text.splitBreaks (Text.trimEnd Text.isBreak snippet))

theorem toMessage_eq (f : Finding) :
    f.toMessage =
      (Members.integerAt f.region? "startLine".toList 1).bind fun line =>
        (Members.integerAt f.region? "startColumn".toList 1).bind fun column =>
          (Message.create f.uri f.text f.level (some line) (some column)).bind
            (surround f.snippet? line) := by
  rw [uri_eq, snippet?_eq]
  rfl

/-- The lines of a snippet are a context that always fits. -/
theorem exists_reads {f : Finding} {line column : Nat}
    (lineMeans : Means (f.inRegion? "startLine") line)
    (columnMeans : Means (f.inRegion? "startColumn") column)
    (valid : (Message.plain f.uri f.text f.level line column).Valid) :
    ∃ m, surround f.snippet? line (Message.plain f.uri f.text f.level line column) = .ok m ∧
      f.Reads m := by
  unfold surround
  cases shown : f.snippet? with
  | none =>
    refine ⟨Message.plain f.uri f.text f.level line column, rfl,
      ⟨lineMeans, columnMeans, rfl, rfl, rfl, rfl, ?_, valid⟩⟩
    rw [shown]
    exact .absent
  | some snippet =>
    have lines := Text.splitBreaks_ne_nil (Text.trimEnd Text.isBreak snippet)
    have fits := Message.valid_with_lines valid (Message.one_le_line valid) lines
    refine ⟨{ Message.plain f.uri f.text f.level line column with
        context := some ⟨line, Text.splitBreaks (Text.trimEnd Text.isBreak snippet)⟩ },
      Message.withContext_lines valid lines,
      ⟨lineMeans, columnMeans, rfl, rfl, rfl, rfl, ?_, fits⟩⟩
    rw [shown]
    exact .snippet (snippetLines_iff.mpr rfl)

theorem toMessage_cases (f : Finding) :
    (∃ m, f.toMessage = .ok m ∧ f.Reads m) ∨ ∃ e, f.toMessage = .error e ∧ f.Fails e := by
  rw [toMessage_eq]
  rcases f.integerAt_cases "startLine" with
    ⟨line, lineMeans, readLine⟩ | ⟨value, there, garbled, readLine⟩
  · rcases f.integerAt_cases "startColumn" with
      ⟨column, columnMeans, readColumn⟩ | ⟨value, there, garbled, readColumn⟩
    · rw [readLine, readColumn]
      simp only [Except.bind]
      rcases Message.create_cases f.uri f.text f.level line column with
        ⟨wrong, made⟩ | ⟨sound, blank, made⟩ | ⟨l, c, rfl, rfl, valid, made⟩
      · right
        rw [made]
        refine ⟨_, rfl, .location lineMeans columnMeans ?_⟩
        by_contra fine
        rw [not_or, not_or, not_or, Int.not_lt, Int.not_lt] at fine
        obtain ⟨counts, columnCounts, single⟩ := fine
        refine wrong (Location.problems_eq_nil_iff.mpr ⟨Text.plain_iff.mpr single, ?_, ?_⟩)
        · rintro _ ⟨⟩
          exact counts
        · rintro _ ⟨⟩
          exact columnCounts
      · right
        rw [made]
        obtain ⟨single, counts, columnCounts⟩ := Location.problems_eq_nil_iff.mp sound
        exact ⟨_, rfl, .file lineMeans columnMeans (counts line rfl) (columnCounts column rfl)
          (Text.plain_iff.mp single) blank⟩
      · left
        rw [made]
        exact exists_reads lineMeans columnMeans valid
    · right
      rw [readLine, readColumn]
      exact ⟨_, rfl, .column lineMeans there garbled⟩
  · right
    rw [readLine]
    exact ⟨_, rfl, .line there garbled⟩

/-- A finding that is read as a message does not fail. -/
theorem not_fails_of_reads {f : Finding} {m : Message} (reads : f.Reads m) :
    ∀ e, ¬ f.Fails e := by
  have counts := Message.one_le_line reads.valid
  have columnCounts := Message.one_le_column reads.valid
  have located := reads.valid.location_valid
  rw [reads.location] at located
  intro e fails
  cases fails with
  | line there garbled => exact garbled.not_means (there ▸ reads.line)
  | column lineMeans there garbled => exact garbled.not_means (there ▸ reads.column)
  | location lineMeans columnMeans wrong =>
    have sameLine := lineMeans.unique reads.line
    have sameColumn := columnMeans.unique reads.column
    rcases wrong with low | low | broken
    · omega
    · omega
    · exact not_or.mpr (Text.plain_iff.mp located.1) broken
  | file lineMeans columnMeans lineCounts columnCounts single blank =>
    rw [← reads.file, reads.valid.file_solid] at blank
    cases blank

end Finding

/-! ## All of them -/

theorem untilError_cases (fs : List Finding) :
    ∃ found error, untilError (fs.map Finding.toMessage) = (found, error) ∧
      List.Forall₂ Finding.Reads (fs.take found.length) found ∧
      (error = none → found.length = fs.length) ∧
      ∀ e ∈ error, ∃ f, fs[found.length]? = some f ∧ f.Fails e := by
  induction fs with
  | nil => exact ⟨[], none, rfl, .nil, fun _ => rfl, nofun⟩
  | cons f rest ih =>
    rcases f.toMessage_cases with ⟨m, made, reads⟩ | ⟨e, failed, fails⟩
    · obtain ⟨found, error, read, all, complete, ends⟩ := ih
      refine ⟨m :: found, error, ?_, .cons reads all, ?_, ends⟩
      · rw [List.map_cons, made, untilError, read]
      · intro unbroken
        rw [List.length_cons, List.length_cons, complete unbroken]
    · refine ⟨[], some e, ?_, .nil, nofun, ?_⟩
      · rw [List.map_cons, failed, untilError]
      · rintro _ ⟨⟩
        exact ⟨f, rfl, fails⟩

/-- The messages of a run are read at the places that it marks, in their order, up to the first
place that fails. -/
structure Extracts (run : Members) (places : List (Place × Finding)) (found : List Message)
    (error : Option Error) : Prop where
  marked : ∀ place f, (place, f) ∈ places ↔ Marks run place f
  ascending : (places.map Prod.fst).Pairwise Before
  read : List.Forall₂ (fun entry m => entry.2.Reads m) (places.take found.length) found
  sound : ∀ entry ∈ places.take found.length, ∀ e, ¬ entry.2.Fails e
  complete : error = none → found.length = places.length
  ends : ∀ e ∈ error, ∃ entry, places[found.length]? = some entry ∧ entry.2.Fails e

theorem extracts_messagesOf (run : Members) :
    Extracts run (marked run) (messagesOf run).1 (messagesOf run).2 := by
  obtain ⟨found, error, read, all, complete, ends⟩ := untilError_cases (findings run)
  rw [messagesOf, read]
  rw [← map_snd_marked] at all complete ends
  rw [← List.map_take, List.forall₂_map_left_iff] at all
  have apart : List.Forall₂ (fun entry m => (∀ e, ¬ entry.2.Fails e) ∧ entry.2.Reads m)
      ((marked run).take found.length) found :=
    all.imp fun entry m reads => ⟨Finding.not_fails_of_reads reads, reads⟩
  exact {
    marked := fun place f => mem_marked
    ascending := marked_ascending run
    read := all
    sound := ((List.forall₂_and_left _ _).mp apart).1
    complete := by
      rw [List.length_map] at complete
      exact complete
    ends := by
      intro e failed
      obtain ⟨f, here, fails⟩ := ends e failed
      rw [List.getElem?_map] at here
      obtain ⟨entry, there, rfl⟩ := Option.map_eq_some_iff.mp here
      exact ⟨entry, there, fails⟩ }

/-- A report is refused exactly if there is no run to pick; else the picked run is extracted. The
error for an index that is out of range cannot show it if it is too long to be written. -/
theorem messages_extracted (document : Value) (index : Option RunIndex) :
    (∀ e, messages document index = .error e ↔ Refused document index e) ∧
    ∀ found error, messages document index = .ok (found, error) →
      ∃ run places, Picks document index run ∧ Extracts run places found error := by
  constructor
  · intro e
    rw [← run_eq_error, messages]
    cases run document index with
    | ok members => exact ⟨nofun, nofun⟩
    | error other => exact ⟨fun same => by cases same; rfl, fun same => by cases same; rfl⟩
  · intro found error extracted
    obtain ⟨members, picked, same⟩ := map_eq_ok.mp extracted
    have extracts := extracts_messagesOf members
    rw [same] at extracts
    exact ⟨members, marked members, run_eq_ok.mp picked, extracts⟩

/-- A report on an untold result, an error in capitals at one location in a file, and the same error
at one that counts lines by a flag. -/
def flagged : Value :=
  let message (text : String) := Value.ofMembers [("text", .text text.toList)]
  let physical (region : Value) :=
    Value.ofMembers [("physicalLocation", Value.ofMembers [("region", region)])]
  Value.ofMembers [("runs", .list [.null, Value.ofMembers [("results", .list
    [Value.ofMembers [("message", message ""), ("locations", .list [physical .null])],
     Value.ofMembers [("message", message "t"), ("level", .text "ERROR".toList), ("locations", .list
       [.null, physical (Value.ofMembers [("snippet", message "a\nb\r\n")]),
        physical (Value.ofMembers [("startLine", .flag true)])])]])]])]

theorem messages_extracted_flagged :
    (∃ run places, Picks flagged none run ∧ Extracts run places
      [⟨[], .error, ⟨['t'], some 1, some 1⟩, some ⟨1, [['a'], ['b']]⟩, []⟩]
      (some (.notInteger "startLine".toList "True".toList))) ∧
    Refused flagged (some (.number (-2))) (.report (.runNotObject (.number (-2)))) := by
  have read : messages flagged none =
      .ok ([⟨[], .error, ⟨['t'], some 1, some 1⟩, some ⟨1, [['a'], ['b']]⟩, []⟩],
        some (.notInteger "startLine".toList "True".toList)) := by decide +kernel
  have refused : messages flagged (some (.number (-2))) =
      .error (.report (.runNotObject (.number (-2)))) := by decide +kernel
  exact ⟨(messages_extracted flagged none).2 _ _ read,
    ((messages_extracted flagged (some (.number (-2)))).1 _).mp refused⟩

/-- An index that is out of range and too long to be written is no error of reports, and a level in
capitals is that level. -/
theorem messages_flagged_far :
    messages flagged (some (.number (Nat.pow 10 Number.digitLimit))) = .error .unwritable ∧
    (messages flagged none).toOption.map (fun found => found.1.map Message.level) =
      some [.error] := by
  decide +kernel

end Sarif
end Diagnostics
