import Diagnostics.Proofs.Log.Scan
import Mathlib.Data.List.Induction

/-!
Scanners that are asked on behind a failure. A header that is refused is an error and nothing else:
what waits stays waiting, so the messages of a log are those that it has without its refused
headers, and each header has one answer.
-/
namespace Diagnostics.Log

namespace Answer

def message? : Answer → Option Message
  | .message m => some m
  | _ => none

def failure? : Answer → Option Error
  | .failure e => some e
  | _ => none

theorem message_or_failure {answer : Answer} (unfinished : answer ≠ .finished) :
    answer.message?.toList.length + answer.failure?.toList.length = 1 := by
  cases answer with
  | message m => rfl
  | failure e => rfl
  | finished => exact absurd rfl unfinished

end Answer

/-! ## Lines that are refused -/

/-- Why a line is refused: it is a header, but gives no message. -/
def refusal? (line : Text) : Option Error :=
  (header? (bare line)).bind fun found =>
    match found.2.toMessage with
    | .ok _ => none
    | .error e => some e

def isRefused (line : Text) : Bool := (refusal? line).isSome

/-- The lines of a log without refused headers. -/
def heeded (lines : List Text) : List Text := lines.filter fun line => !isRefused line

theorem refusal?_eq_some {line : Text} {e : Error} :
    refusal? line = some e ↔
      ∃ start h, header? (bare line) = some (start, h) ∧ h.toMessage = .error e := by
  rw [refusal?, Option.bind_eq_some_iff]
  constructor
  · rintro ⟨⟨start, h⟩, found, failed⟩
    refine ⟨start, h, found, ?_⟩
    dsimp only at failed
    split at failed
    · cases failed
    · rename_i other made
      cases failed
      exact made
  · rintro ⟨start, h, found, made⟩
    refine ⟨(start, h), found, ?_⟩
    dsimp only
    rw [made]

theorem Header.admissible_iff {text : Text} {start : Nat} {h : Header}
    (found : header? text = some (start, h)) : h.Admissible ↔ ∃ m, h.toMessage = .ok m := by
  constructor
  · intro admissible
    exact ⟨h.plainMessage, (toMessage_eq_ok found).mpr ⟨admissible, rfl⟩⟩
  · rintro ⟨m, made⟩
    exact ((toMessage_eq_ok found).mp made).1

theorem refusal?_eq_none {line : Text} :
    refusal? line = none ↔ ∀ found ∈ header? (bare line), found.2.Admissible := by
  cases found : header? (bare line) with
  | none => simp [refusal?, found]
  | some header =>
    obtain ⟨start, h⟩ := header
    simp only [refusal?, found, Option.bind_some, Option.mem_some_iff, forall_eq',
      Header.admissible_iff found]
    cases h.toMessage <;> simp

theorem isRefused_eq_false {line : Text} : isRefused line = false ↔ refusal? line = none := by
  rw [isRefused, Option.isSome_eq_false_iff, Option.isNone_iff_eq_none]

/-- A header is refused exactly if it is not admissible. -/
theorem refusal?_of_header {line : Text} {start : Nat} {h : Header}
    (found : header? (bare line) = some (start, h)) : refusal? line = none ↔ h.Admissible := by
  simp [refusal?_eq_none, found]

theorem refusal?_of_idle {line : Text} (idle : header? (bare line) = none) :
    refusal? line = none := by
  simp [refusal?_eq_none, idle]

theorem heeded_cons_of_refused {line : Text} (rest : List Text) (refused : isRefused line = true) :
    heeded (line :: rest) = heeded rest := List.filter_cons_of_neg (by simp [refused])

theorem heeded_cons_of_not_refused {line : Text} (rest : List Text)
    (refused : isRefused line = false) : heeded (line :: rest) = line :: heeded rest :=
  List.filter_cons_of_pos (by simp [refused])

theorem feed_refused {memory : Memory} {line : Text} {e : Error}
    (refused : refusal? line = some e) : feed memory (bare line) = (.error e, memory) := by
  obtain ⟨start, h, found, failed⟩ := refusal?_eq_some.mp refused
  rw [feed, found]
  dsimp only
  rw [failed]

/-- A line that is fed is a refused header, or it is taken as if there were no such lines. -/
theorem feed_cases {memory : Memory} {waiting : Option (Nat × Header)} (line : Text)
    (awaits : Awaits memory waiting) :
    (∃ e, refusal? line = some e ∧ feed memory (bare line) = (.error e, memory)) ∨
    (refusal? line = none ∧ ∃ emitted memory' waiting',
      feed memory (bare line) = (.ok emitted, memory') ∧ Awaits memory' waiting' ∧
        ∀ rest, owed waiting (line :: rest) = emitted.toList ++ owed waiting' rest) := by
  cases refused : refusal? line with
  | none => exact .inr ⟨rfl, feed_owed awaits (refusal?_eq_none.mp refused)⟩
  | some e => exact .inl ⟨e, rfl, feed_refused refused⟩

/-! ## What the answers account for -/

/-- The next answer is the first of the messages and failures to come, in either list, and what is
behind it is still to come. -/
theorem nextFrom_cases (consumed : Nat) {memory : Memory} {waiting : Option (Nat × Header)}
    {lines : List Text} (awaits : Awaits memory waiting) :
    ∃ answer s waiting', Scanner.nextFrom consumed memory lines = (answer, s) ∧
      Awaits s.memory waiting' ∧
      owed waiting (heeded lines) = answer.message?.toList ++ owed waiting' (heeded s.ahead) ∧
      lines.filterMap refusal? = answer.failure?.toList ++ s.ahead.filterMap refusal? ∧
      (answer = .finished → owed waiting (heeded lines) = [] ∧ lines.filterMap refusal? = []) := by
  induction lines generalizing consumed memory waiting with
  | nil =>
    have all : owed waiting (heeded []) = memory.pending.toList := owed_nil awaits
    rw [Scanner.nextFrom, all]
    cases pending : memory.pending with
    | none => exact ⟨_, _, waiting, rfl, awaits, by rw [all, pending]; rfl, rfl, fun _ => ⟨rfl, rfl⟩⟩
    | some message =>
      have emptied : Awaits { memory with pending := none } none :=
        ⟨rfl, by rintro _ ⟨⟩, by rintro _ ⟨⟩⟩
      exact ⟨_, _, none, rfl, emptied, rfl, rfl, by rintro ⟨⟩⟩
  | cons line rest ih =>
    rcases feed_cases line awaits with
      ⟨e, refused, fed⟩ | ⟨accepted, emitted, memory', waiting', fed, awaits', step⟩
    · rw [Scanner.nextFrom, fed, heeded_cons_of_refused rest (by rw [isRefused, refused]; rfl),
        List.filterMap_cons_some refused]
      exact ⟨_, _, waiting, rfl, awaits, rfl, rfl, by rintro ⟨⟩⟩
    · rw [Scanner.nextFrom, fed, heeded_cons_of_not_refused rest (isRefused_eq_false.mpr accepted),
        step, List.filterMap_cons_none accepted]
      cases emitted with
      | none => exact ih (consumed + 1) awaits'
      | some message => exact ⟨_, _, waiting', rfl, awaits', rfl, rfl, by rintro ⟨⟩⟩

/-- Asked often enough, a scanner gives all the messages that are to come, fails for each line that
is refused, and has finished then. -/
theorem answers_accounted {calls : Nat} {s : Scanner} {waiting : Option (Nat × Header)}
    (awaits : Awaits s.memory waiting)
    (enough : (owed waiting (heeded s.ahead)).length + (s.ahead.filterMap refusal?).length < calls) :
    (s.answers calls).filterMap (·.1.message?) = owed waiting (heeded s.ahead) ∧
    (s.answers calls).filterMap (·.1.failure?) = s.ahead.filterMap refusal? ∧
    ∃ before, (s.answers calls).map Prod.fst = before ++ [.finished] ∧ .finished ∉ before := by
  induction calls generalizing s waiting with
  | zero => cases enough
  | succ calls ih =>
    obtain ⟨answer, s', waiting', next, awaits', messages, failures, ended⟩ :=
      nextFrom_cases s.consumed awaits
    rw [messages, failures, List.length_append, List.length_append] at enough
    rw [Scanner.answers, Scanner.next, next]
    dsimp only
    by_cases finished : answer = .finished
    · obtain ⟨noMessages, noFailures⟩ := ended finished
      rw [if_pos finished, noMessages, noFailures, finished]
      exact ⟨rfl, rfl, [], rfl, List.not_mem_nil⟩
    · have one := Answer.message_or_failure finished
      obtain ⟨given, failed, before, all, unfinished⟩ := ih awaits' (by omega)
      rw [if_neg finished, List.filterMap_eq_flatMap_toList, List.filterMap_eq_flatMap_toList,
        List.flatMap_cons, List.flatMap_cons, ← List.filterMap_eq_flatMap_toList,
        ← List.filterMap_eq_flatMap_toList, given, failed, List.map_cons, all]
      refine ⟨messages.symm, failures.symm, answer :: before, rfl, ?_⟩
      rw [List.mem_cons, not_or]
      exact ⟨Ne.symm finished, unfinished⟩

/-! ## Where a scanner fails -/

/-- What is remembered behind some lines. -/
def remembered (lines : List Text) : Memory :=
  lines.foldl (fun memory line => (feed memory (bare line)).2) .empty

theorem remembered_append_singleton (front : List Text) (line : Text) :
    remembered (front ++ [line]) = (feed (remembered front) (bare line)).2 := by
  rw [remembered, List.foldl_append]
  rfl

theorem exists_awaits_remembered (front : List Text) :
    ∃ waiting, Awaits (remembered front) waiting := by
  induction front using List.reverseRecOn with
  | nil => exact ⟨none, awaits_empty⟩
  | append_singleton front line ih =>
    obtain ⟨waiting, awaits⟩ := ih
    rw [remembered_append_singleton]
    rcases feed_cases line awaits with
      ⟨e, _, fed⟩ | ⟨_, emitted, memory', waiting', fed, awaits', _⟩
    · rw [fed]
      exact ⟨waiting, awaits⟩
    · rw [fed]
      exact ⟨waiting', awaits'⟩

/-- A scanner has fed some of its lines and remembers what they leave, as long as there are others. -/
def Along (lines : List Text) (s : Scanner) : Prop :=
  ∃ front, lines = front ++ s.ahead ∧ s.consumed = front.length ∧
    (s.ahead = [] ∨ s.memory = remembered front)

/-- A scanner has failed at a line, and remembers what it has remembered before that line. -/
structure FailedAt (lines : List Text) (e : Error) (s : Scanner) (i : Nat) : Prop where
  consumed : s.consumed = i + 1
  refused : ∃ line start h, lines[i]? = some line ∧ header? (bare line) = some (start, h) ∧
    ¬ h.Admissible ∧ h.toMessage = .error e
  memory : s.memory = remembered (lines.take i)

theorem along_of_ended {lines : List Text} {s : Scanner} (ended : s.ahead = [])
    (all : s.consumed = lines.length) : Along lines s :=
  ⟨lines, by rw [ended, List.append_nil], all, .inl ended⟩

theorem failedAt_of_refusal {front rest : List Text} {line : Text} {e : Error}
    (refused : refusal? line = some e) :
    FailedAt (front ++ line :: rest) e ⟨rest, front.length + 1, remembered front⟩ front.length where
  consumed := rfl
  refused := by
    obtain ⟨start, h, found, failed⟩ := refusal?_eq_some.mp refused
    refine ⟨line, start, h, by simp, found, ?_, failed⟩
    rw [Header.admissible_iff found, failed]
    exact nofun
  memory := by rw [List.take_left]

theorem nextFrom_along (front back : List Text) :
    Along (front ++ back) (Scanner.nextFrom front.length (remembered front) back).2 ∧
      ∀ e, (Scanner.nextFrom front.length (remembered front) back).1 = .failure e →
        ∃ i, FailedAt (front ++ back) e
          (Scanner.nextFrom front.length (remembered front) back).2 i := by
  induction back generalizing front with
  | nil =>
    rw [Scanner.nextFrom]
    cases (remembered front).pending with
    | none => exact ⟨along_of_ended rfl (by simp), by rintro _ ⟨⟩⟩
    | some message => exact ⟨along_of_ended rfl (by simp), by rintro _ ⟨⟩⟩
  | cons line rest ih =>
    obtain ⟨waiting, awaits⟩ := exists_awaits_remembered front
    have behind := remembered_append_singleton front line
    have size : (front ++ [line]).length = front.length + 1 := List.length_append
    have whole : front ++ line :: rest = (front ++ [line]) ++ rest := by simp
    rcases feed_cases line awaits with
      ⟨e, refused, fed⟩ | ⟨_, emitted, memory', _, fed, _, _⟩
    · rw [fed] at behind
      rw [Scanner.nextFrom, fed]
      refine ⟨⟨front ++ [line], whole, size.symm, .inr behind.symm⟩, ?_⟩
      rintro _ ⟨⟩
      exact ⟨front.length, failedAt_of_refusal refused⟩
    · rw [fed] at behind
      rw [Scanner.nextFrom, fed]
      cases emitted with
      | none =>
        have later := ih (front ++ [line])
        rw [behind, size, ← whole] at later
        exact later
      | some message =>
        exact ⟨⟨front ++ [line], whole, size.symm, .inr behind.symm⟩, by rintro _ ⟨⟩⟩

theorem next_along {lines : List Text} {s : Scanner} (along : Along lines s) :
    Along lines s.next.2 ∧ ∀ e, s.next.1 = .failure e → ∃ i, FailedAt lines e s.next.2 i := by
  obtain ⟨front, rfl, consumed, place⟩ := along
  rcases place with ended | memory
  · have all : s.consumed = (front ++ s.ahead).length := by rw [ended, List.append_nil, consumed]
    rw [Scanner.next]
    generalize front ++ s.ahead = lines at all
    rw [ended, Scanner.nextFrom]
    cases s.memory.pending with
    | none => exact ⟨along_of_ended rfl all, by rintro _ ⟨⟩⟩
    | some message => exact ⟨along_of_ended rfl all, by rintro _ ⟨⟩⟩
  · rw [Scanner.next, consumed, memory]
    exact nextFrom_along front s.ahead

/-- Every answer is the next one of a scanner that keeps what each step keeps. -/
theorem exists_next_of_mem_answers {P : Scanner → Prop} (kept : ∀ s, P s → P s.next.2) {calls : Nat}
    {s t : Scanner} {answer : Answer} (holds : P s) (given : (answer, t) ∈ s.answers calls) :
    ∃ before, P before ∧ before.next = (answer, t) := by
  induction calls generalizing s with
  | zero => cases given
  | succ calls ih =>
    rw [Scanner.answers, List.mem_cons] at given
    rcases given with now | later
    · exact ⟨s, holds, now.symm⟩
    · split at later
      · cases later
      · exact ih (kept s holds) later

theorem answers_failedAt {lines : List Text} {calls : Nat} {s t : Scanner} {e : Error}
    (along : Along lines s) (failed : (.failure e, t) ∈ s.answers calls) :
    ∃ i, FailedAt lines e t i := by
  obtain ⟨before, here, last⟩ :=
    exists_next_of_mem_answers (P := Along lines) (fun _ along => (next_along along).1) along failed
  have fails := (next_along here).2 e
  rw [last] at fails
  exact fails rfl

/-! ## One answer for each header -/

def headers (lines : List Text) : List Header :=
  lines.filterMap fun line => (header? (bare line)).map Prod.snd

theorem headers_cons_of_header {line : Text} {start : Nat} {h : Header} (rest : List Text)
    (found : header? (bare line) = some (start, h)) : headers (line :: rest) = h :: headers rest := by
  rw [headers, List.filterMap_cons_some (by rw [found]; rfl)]
  rfl

theorem headers_cons_of_idle {line : Text} (rest : List Text)
    (idle : header? (bare line) = none) : headers (line :: rest) = headers rest := by
  rw [headers, List.filterMap_cons_none (by rw [idle]; rfl)]
  rfl

/-- Without the lines around them, the messages of a log are those of its headers. -/
theorem map_withoutContext_described (lines : List Text) :
    (described lines).map Message.withoutContext = (headers lines).map Header.plainMessage := by
  induction lines with
  | nil => rfl
  | cons line rest ih =>
    rw [described, List.map_append, ih, record?]
    cases found : header? (bare line) with
    | none =>
      rw [headers_cons_of_idle rest found]
      rfl
    | some header =>
      rw [headers_cons_of_header rest found]
      rfl

theorem headers_heeded (lines : List Text) :
    headers (heeded lines) = (headers lines).filter fun h => h.Admissible := by
  induction lines with
  | nil => rfl
  | cons line rest ih =>
    cases found : header? (bare line) with
    | none =>
      have kept := isRefused_eq_false.mpr (refusal?_of_idle found)
      rw [heeded_cons_of_not_refused rest kept, headers_cons_of_idle _ found,
        headers_cons_of_idle _ found, ih]
    | some header =>
      obtain ⟨start, h⟩ := header
      rw [headers_cons_of_header rest found, List.filter_cons]
      by_cases admissible : h.Admissible
      · have kept := isRefused_eq_false.mpr ((refusal?_of_header found).mpr admissible)
        rw [heeded_cons_of_not_refused rest kept, headers_cons_of_header _ found, ih,
          if_pos (decide_eq_true admissible)]
      · have refused : isRefused line = true := by
          rwa [← Bool.not_eq_false, isRefused_eq_false, refusal?_of_header found]
        rw [heeded_cons_of_refused rest refused, ih, if_neg (by simpa using admissible)]

theorem map_error_refusals (lines : List Text) :
    (lines.filterMap refusal?).map Except.error =
      ((headers lines).filter fun h => ¬ h.Admissible).map Header.toMessage := by
  induction lines with
  | nil => rfl
  | cons line rest ih =>
    cases found : header? (bare line) with
    | none =>
      rw [List.filterMap_cons_none (refusal?_of_idle found), headers_cons_of_idle rest found, ih]
    | some header =>
      obtain ⟨start, h⟩ := header
      rw [headers_cons_of_header rest found, List.filter_cons]
      cases made : h.toMessage with
      | ok m =>
        have admissible := (Header.admissible_iff found).mpr ⟨m, made⟩
        rw [List.filterMap_cons_none ((refusal?_of_header found).mpr admissible), ih,
          if_neg (by simpa using admissible)]
      | error e =>
        have refused : ¬ h.Admissible := by
          rw [Header.admissible_iff found, made]
          exact nofun
        rw [List.filterMap_cons_some (refusal?_eq_some.mpr ⟨start, h, found, made⟩), List.map_cons,
          ih, if_pos (by simpa using refused), List.map_cons, made]

theorem length_heeded_add_length_refusals (lines : List Text) :
    (heeded lines).length + (lines.filterMap refusal?).length = lines.length := by
  induction lines with
  | nil => rfl
  | cons line rest ih =>
    cases refused : refusal? line with
    | none =>
      rw [heeded_cons_of_not_refused rest (isRefused_eq_false.mpr refused),
        List.filterMap_cons_none refused, List.length_cons, List.length_cons, ← ih]
      omega
    | some e =>
      rw [heeded_cons_of_refused rest (by rw [isRefused, refused]; rfl),
        List.filterMap_cons_some refused, List.length_cons, List.length_cons, ← ih]
      omega

/-- A scanner that is asked often enough gives the messages that a log has without its refused
headers, fails once for each of these, and has finished then. -/
theorem answers_heeded {lines : List Text} {calls : Nat} (enough : lines.length < calls) :
    (Scanner.answers calls (.ofLines lines)).filterMap (·.1.message?) = described (heeded lines) ∧
    (Scanner.answers calls (.ofLines lines)).filterMap (·.1.failure?) = lines.filterMap refusal? ∧
    ∃ before, (Scanner.answers calls (.ofLines lines)).map Prod.fst = before ++ [.finished] ∧
      .finished ∉ before := by
  refine answers_accounted (s := .ofLines lines) awaits_empty ?_
  have size : (described (heeded lines)).length ≤ (heeded lines).length := by
    rw [length_described]
    exact List.countP_le_length
  have all := length_heeded_add_length_refusals lines
  have ahead : owed none (heeded (Scanner.ofLines lines).ahead) = described (heeded lines) := rfl
  have same : (Scanner.ofLines lines).ahead = lines := rfl
  rw [ahead, same]
  omega

/-- Each header has one answer: an admissible one its message, in the order of the headers, and any
other one a failure, which leaves what is remembered as it was before its line. -/
structure Conserved (lines : List Text) (given : List (Answer × Scanner)) : Prop where
  messages : (given.filterMap (·.1.message?)).map Message.withoutContext =
    ((headers lines).filter fun h => h.Admissible).map Header.plainMessage
  failures : (given.filterMap (·.1.failure?)).map Except.error =
    ((headers lines).filter fun h => ¬ h.Admissible).map Header.toMessage
  ended : ∃ before, given.map Prod.fst = before ++ [.finished] ∧ .finished ∉ before
  failed : ∀ e s, (.failure e, s) ∈ given → ∃ i, FailedAt lines e s i

theorem answers_conserve {lines : List Text} {calls : Nat} (enough : lines.length < calls) :
    Conserved lines (Scanner.answers calls (.ofLines lines)) := by
  obtain ⟨messages, failures, ended⟩ := answers_heeded enough
  exact {
    messages := by rw [messages, map_withoutContext_described, headers_heeded]
    failures := by rw [failures, map_error_refusals]
    ended := ended
    failed := fun e s => answers_failedAt ⟨[], rfl, rfl, .inr rfl⟩ }

/-- A log with a line number of zero while a message waits, a carriage return in a text while none
does, and a column of zero at the end. -/
def faultyLog : List Text :=
  ["a.c:1:2: error: one".toList, "b.c:0:1: error: two".toList, "x".toList,
    "c.c:3:4: note: t\rz".toList, "d.c:5:6: warning: last".toList, "e.c:7:0: note: lost".toList]

theorem answers_faultyLog_conserve :
    faultyLog.length < 7 ∧ Conserved faultyLog (Scanner.answers 7 (.ofLines faultyLog)) ∧
      ((Scanner.answers 7 (.ofLines faultyLog)).filterMap (·.1.message?)).map
          Message.withoutContext =
        [.plain "a.c".toList "one".toList .error 1 2, .plain "d.c".toList "last".toList .warning 5 6] ∧
      ((Scanner.answers 7 (.ofLines faultyLog)).filterMap (·.1.failure?)).length = 3 := by
  have conserved := answers_conserve (show faultyLog.length < 7 by decide)
  refine ⟨by decide, conserved, conserved.messages.trans (by decide +kernel), ?_⟩
  have count := congrArg List.length conserved.failures
  rw [List.length_map] at count
  rw [count]
  decide +kernel

end Diagnostics.Log
