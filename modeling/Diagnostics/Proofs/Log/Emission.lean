import Diagnostics.Proofs.Log.Scan

/-!
What a scanner can give at all, whatever its lines are. A message that it gives has one of the three
levels of headers, a line and a column, no hints, and no more around it than its own line. That line
holds no line feed if no line of the source has one but at its end.
-/
namespace Diagnostics

namespace Log

/-- What holds of every message that a scanner gives. -/
structure Scanned (m : Message) : Prop where
  valid : m.Valid
  level : ∃ l : Level, m.level = l.severity
  placed : m.location = ⟨m.text, some m.line, some m.column⟩
  unhinted : m.hints = []
  around : ∀ c ∈ m.context, ∃ line, c = ⟨m.line, [line]⟩ ∧ '\n' ∉ line ∧ line.getLast? ≠ some '\r'

theorem scanned_of_header {line : Text} {start : Nat} {h : Header} {m : Message}
    (found : header? line = some (start, h)) (made : h.toMessage = .ok m) : Scanned m := by
  obtain ⟨admissible, rfl⟩ := (Header.toMessage_eq_ok found).mp made
  exact {
    valid := Header.plainMessage_valid found admissible
    level := ⟨h.level, rfl⟩
    placed := rfl
    unhinted := rfl
    around := nofun }

/-- The line that goes around a message is the end of a line without its break. -/
theorem dropIndent_bare {line : Text} (start : Nat) (noFeed : '\n' ∉ bare line) :
    '\n' ∉ dropIndent start (bare line) ∧
      (dropIndent start (bare line)).getLast? ≠ some '\r' := by
  rw [dropIndent_eq, unindented]
  constructor
  · intro member
    exact noFeed (List.mem_of_mem_drop member)
  · intro last
    rw [List.getLast?_drop] at last
    split at last
    · cases last
    · have solid := Text.not_inClass_of_getLast?_trimEnd last
      contradiction

theorem scanned_with_line {m : Message} {line : Text} (scanned : Scanned m) (noFeed : '\n' ∉ line)
    (noReturn : line.getLast? ≠ some '\r') :
    Scanned { m with context := some ⟨m.line, [line]⟩ } where
  valid := Message.valid_with_lines scanned.valid (Message.one_le_line scanned.valid)
    (List.cons_ne_nil line [])
  level := scanned.level
  placed := scanned.placed
  unhinted := scanned.unhinted
  around := by
    rintro _ ⟨⟩
    exact ⟨line, rfl, noFeed, noReturn⟩

/-- Feeding one line, also one that is refused: what is given and what waits then is scanned. -/
theorem feed_scanned {memory : Memory} {line : Text}
    (waiting : ∀ m ∈ memory.pending, Scanned m) (noFeed : '\n' ∉ bare line) :
    (∀ m ∈ (feed memory (bare line)).2.pending, Scanned m) ∧
      ∀ m, (feed memory (bare line)).1 = .ok (some m) → Scanned m := by
  unfold feed
  cases found : header? (bare line) with
  | some header =>
    obtain ⟨start, h⟩ := header
    dsimp only
    cases made : h.toMessage with
    | error e => exact ⟨waiting, nofun⟩
    | ok message =>
      constructor
      · rintro _ ⟨⟩
        exact scanned_of_header found made
      · intro m given
        exact waiting m (Except.ok.inj given)
  | none =>
    cases pending : memory.pending with
    | none =>
      dsimp only
      rw [pending]
      exact ⟨nofun, nofun⟩
    | some message =>
      have scanned := waiting message pending
      dsimp only
      rw [Message.withContext_lines scanned.valid (List.cons_ne_nil _ _)]
      refine ⟨nofun, ?_⟩
      rintro _ ⟨⟩
      obtain ⟨single, ended⟩ := dropIndent_bare memory.indent noFeed
      exact scanned_with_line scanned single ended

/-- What a scanner waits for and what it has before it: all it needs to give scanned messages. -/
structure Ready (s : Scanner) : Prop where
  waiting : ∀ m ∈ s.memory.pending, Scanned m
  single : ∀ line ∈ s.ahead, '\n' ∉ bare line

theorem nextFrom_scanned {consumed : Nat} {memory : Memory} {lines : List Text}
    (ready : Ready ⟨lines, consumed, memory⟩) :
    Ready (Scanner.nextFrom consumed memory lines).2 ∧
      ∀ m, (Scanner.nextFrom consumed memory lines).1 = .message m → Scanned m := by
  induction lines generalizing consumed memory with
  | nil =>
    have nothing : ∀ line ∈ ([] : List Text), '\n' ∉ bare line := List.forall_mem_nil _
    rw [Scanner.nextFrom]
    cases pending : memory.pending with
    | none =>
      refine ⟨⟨ready.waiting, nothing⟩, ?_⟩
      intro m given
      cases given
    | some message =>
      refine ⟨⟨?_, nothing⟩, ?_⟩
      · intro m waits
        cases waits
      · rintro _ ⟨⟩
        exact ready.waiting message pending
  | cons line rest ih =>
    have single := List.forall_mem_cons.mp ready.single
    obtain ⟨later, given⟩ := feed_scanned ready.waiting single.1
    rw [Scanner.nextFrom]
    cases fed : feed memory (bare line) with
    | mk outcome memory' =>
      rw [fed] at later given
      have next : Ready ⟨rest, consumed + 1, memory'⟩ := ⟨later, single.2⟩
      cases outcome with
      | error e =>
        refine ⟨next, ?_⟩
        intro m failed
        cases failed
      | ok emitted =>
        cases emitted with
        | none => exact ih next
        | some message =>
          refine ⟨next, ?_⟩
          rintro _ ⟨⟩
          exact given message rfl

/-- All messages that a scanner gives are scanned, those behind a failure too. -/
theorem answers_scanned {calls : Nat} {s : Scanner} {m : Message} (ready : Ready s)
    (given : .message m ∈ (s.answers calls).map Prod.fst) : Scanned m := by
  induction calls generalizing s with
  | zero => cases given
  | succ calls ih =>
    obtain ⟨next, first⟩ := nextFrom_scanned ready
    rw [Scanner.answers, List.map_cons, List.mem_cons] at given
    rcases given with now | later
    · exact first m now.symm
    · split at later
      · cases later
      · exact ih next later

theorem ready_ofLines {lines : List Text} (single : ∀ line ∈ lines, '\n' ∉ bare line) :
    Ready (.ofLines lines) := ⟨nofun, single⟩

end Log
end Diagnostics
