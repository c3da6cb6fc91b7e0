import Diagnostics.Proofs.Log.Header

/-!
A scanner against a description without memory. The messages of a log are those of its headers in
their order, each with the line behind its header unless that one is a header itself; what a scanner
remembers is no more than the header that it has read last, as long as the line behind it is unread.
-/
namespace Diagnostics.Log

/-! ## The messages of a log, described by neighbouring lines -/

def isHeader (line : Text) : Bool := (header? (bare line)).isSome

/-- A line without as many of the blanks at its front as stand before a header. -/
def unindented (start : Nat) (line : Text) : Text :=
  line.drop (min start (line.takeWhile Text.isBlank).length)

/-- The message of a header behind some characters, given the line behind it, if there is one. -/
def Header.above (h : Header) (start : Nat) (next : Option Text) : Message :=
  { h.plainMessage with
    context := (next.filter fun line => !isHeader line).map fun line =>
      ⟨Number.ofDigitText h.line, [unindented start (bare line)]⟩ }

/-- The message of a line, given the line behind it: lines that are no headers have none. -/
def record? (line : Text) (next : Option Text) : Option Message :=
  (header? (bare line)).map fun (start, h) => h.above start next

def described : List Text → List Message
  | [] => []
  | line :: rest => (record? line rest.head?).toList ++ described rest

/-- All headers among some lines are admissible. -/
def Admissible (lines : List Text) : Prop :=
  ∀ line ∈ lines, ∀ found ∈ header? (bare line), found.2.Admissible

instance (lines : List Text) : Decidable (Admissible lines) :=
  inferInstanceAs (Decidable (∀ line ∈ lines, ∀ found ∈ header? (bare line), found.2.Admissible))

theorem admissible_cons {line : Text} {rest : List Text} :
    Admissible (line :: rest) ↔
      (∀ found ∈ header? (bare line), found.2.Admissible) ∧ Admissible rest :=
  List.forall_mem_cons

theorem header?_of_idle {line : Text} (idle : isHeader line = false) : header? (bare line) = none :=
  Option.isNone_iff_eq_none.mp (Option.isSome_eq_false_iff.mp idle)

theorem described_cons_of_idle {line : Text} (rest : List Text) (idle : isHeader line = false) :
    described (line :: rest) = described rest := by
  rw [described, record?, header?_of_idle idle]
  rfl

theorem length_described (lines : List Text) : (described lines).length = lines.countP isHeader := by
  induction lines with
  | nil => rfl
  | cons line rest ih =>
    rw [described, List.length_append, ih, List.countP_cons, record?, isHeader]
    cases header? (bare line) with
    | none => simp
    | some found => simp [Nat.add_comm]

/-- The message of a header comes behind as many others as there are headers before it. -/
theorem described_getElem? {lines : List Text} {i start : Nat} {line : Text} {h : Header}
    (at_place : lines[i]? = some line) (found : header? (bare line) = some (start, h)) :
    (described lines)[(lines.take i).countP isHeader]? = some (h.above start lines[i + 1]?) := by
  induction lines generalizing i with
  | nil => cases at_place
  | cons first rest ih =>
    cases i with
    | zero =>
      cases at_place
      rw [described, record?, found]
      cases rest <;> rfl
    | succ i =>
      have later := ih at_place
      rw [described, List.take_succ_cons, List.countP_cons, List.getElem?_cons_succ, ← later, record?,
        isHeader]
      cases header? (bare first) <;> simp

/-- A line that neither is a header nor follows one can be left out. -/
theorem described_append_cons {front back : List Text} {noise : Text}
    (idle : isHeader noise = false) (behind : ∀ last ∈ front.getLast?, isHeader last = false) :
    described (front ++ noise :: back) = described (front ++ back) := by
  -- A line looks one line ahead, so what matters of the front is its last line.
  induction front with
  | nil => exact described_cons_of_idle back idle
  | cons line rest ih =>
    cases rest with
    | nil =>
      have idleBefore := behind line rfl
      simp only [List.cons_append, List.nil_append, described_cons_of_idle _ idleBefore,
        described_cons_of_idle _ idle]
    | cons next rest =>
      have later := ih fun last member => behind last (by rwa [List.getLast?_cons_cons])
      exact congrArg ((record? line (some next)).toList ++ ·) later

/-! ## What a scanner remembers -/

theorem dropIndent_eq (start : Nat) (line : Text) : dropIndent start line = unindented start line := by
  rw [unindented]
  induction start, line using dropIndent.induct with
  | case1 line => rw [dropIndent, Nat.zero_min, List.drop_zero]
  | case2 => rfl
  | case3 start c rest blank ih =>
    rw [dropIndent, if_pos blank, ih, List.takeWhile_cons_of_pos blank, List.length_cons,
      Nat.succ_min_succ, List.drop_succ_cons]
  | case4 start c rest solid =>
    rw [dropIndent, if_neg solid, List.takeWhile_cons_of_neg solid]
    rfl

/-- A memory waits for the line behind a header, if it is one, or for nothing. -/
structure Awaits (memory : Memory) (waiting : Option (Nat × Header)) : Prop where
  pending : memory.pending = waiting.map fun found => found.2.plainMessage
  indent : ∀ found ∈ waiting, memory.indent = found.1
  valid : ∀ found ∈ waiting, found.2.plainMessage.Valid

/-- The messages still to come with some lines ahead. -/
def owed (waiting : Option (Nat × Header)) (lines : List Text) : List Message :=
  (waiting.map fun (start, h) => h.above start lines.head?).toList ++ described lines

theorem awaits_empty : Awaits .empty none := ⟨rfl, nofun, nofun⟩

/-- A header takes the place of what waits, and what waits comes without context. -/
theorem feed_header {memory : Memory} {waiting : Option (Nat × Header)} {line : Text} {start : Nat}
    {h : Header} (awaits : Awaits memory waiting) (found : header? (bare line) = some (start, h))
    (admissible : h.Admissible) : ∃ emitted memory', feed memory (bare line) = (.ok emitted, memory') ∧
      Awaits memory' (some (start, h)) ∧
      ∀ rest, owed waiting (line :: rest) = emitted.toList ++ owed (some (start, h)) rest := by
  have made := (Header.toMessage_eq_ok found).mpr ⟨admissible, rfl⟩
  -- Its own indentation is remembered now; that of the header before is of no use any more.
  refine ⟨memory.pending, ⟨some h.plainMessage, start⟩, ?_, ⟨rfl, ?_, ?_⟩, fun rest => ?_⟩
  · rw [feed, found]
    dsimp only
    rw [made]
  · rintro _ ⟨⟩
    rfl
  · rintro _ ⟨⟩
    exact Header.plainMessage_valid found admissible
  · rw [owed, owed, described, record?, found, awaits.pending]
    cases waiting with
    | none => rfl
    | some earlier =>
      have alone : earlier.2.above earlier.1 (some line) = earlier.2.plainMessage := by
        rw [Header.above, Option.filter_some, isHeader, found]
        rfl
      simp only [Option.map_some, List.head?_cons, alone]

/-- A line that is no header completes what waits. -/
theorem feed_idle {memory : Memory} {waiting : Option (Nat × Header)} {line : Text}
    (awaits : Awaits memory waiting) (idle : isHeader line = false) :
    ∃ emitted memory', feed memory (bare line) = (.ok emitted, memory') ∧ Awaits memory' none ∧
      ∀ rest, owed waiting (line :: rest) = emitted.toList ++ owed none rest := by
  obtain ⟨pending, indent, valid⟩ := awaits
  have nothing := header?_of_idle idle
  cases waiting with
  | none =>
    refine ⟨none, memory, ?_, ⟨pending, nofun, nofun⟩, fun rest => ?_⟩
    · rw [feed, nothing, pending]
      rfl
    · simp only [owed, described_cons_of_idle rest idle]
      rfl
  | some found =>
    obtain ⟨start, h⟩ := found
    -- The line becomes the context; the indentation stays remembered, but nothing waits for it.
    have completed : h.above start (some line) =
        { h.plainMessage with
          context := some ⟨h.plainMessage.line, [dropIndent memory.indent (bare line)]⟩ } := by
      rw [Header.above, Option.filter_some, idle, dropIndent_eq, indent _ rfl]
      rfl
    refine ⟨some (h.above start (some line)), { memory with pending := none }, ?_,
      ⟨rfl, nofun, nofun⟩, fun rest => ?_⟩
    · rw [feed, nothing, pending]
      dsimp only [Option.map_some]
      rw [Message.withContext_lines (valid _ rfl) (List.cons_ne_nil _ _), ← completed]
    · simp only [owed, described_cons_of_idle rest idle, Option.map_some, List.head?_cons]
      rfl

/-- Feeding one line: the messages to come are what the line emits and those still to come. -/
theorem feed_owed {memory : Memory} {waiting : Option (Nat × Header)} {line : Text}
    (awaits : Awaits memory waiting)
    (admissible : ∀ found ∈ header? (bare line), found.2.Admissible) :
    ∃ emitted memory' waiting', feed memory (bare line) = (.ok emitted, memory') ∧
      Awaits memory' waiting' ∧
      ∀ rest, owed waiting (line :: rest) = emitted.toList ++ owed waiting' rest := by
  cases found : header? (bare line) with
  | none =>
    obtain ⟨emitted, memory', fed, awaits', step⟩ := feed_idle awaits (by rw [isHeader, found]; rfl)
    exact ⟨emitted, memory', none, fed, awaits', step⟩
  | some header =>
    obtain ⟨start, h⟩ := header
    obtain ⟨emitted, memory', fed, awaits', step⟩ := feed_header awaits found (admissible _ found)
    exact ⟨emitted, memory', some (start, h), fed, awaits', step⟩

/-! ## Asking a scanner until it has finished -/

theorem owed_nil {memory : Memory} {waiting : Option (Nat × Header)} (awaits : Awaits memory waiting) :
    owed waiting [] = memory.pending.toList := by
  rw [awaits.pending]
  cases waiting <;> rfl

/-- The next answer is the first message to come, or the end if none is to come. -/
theorem nextFrom_owed (consumed : Nat) {memory : Memory} {waiting : Option (Nat × Header)}
    {lines : List Text} (awaits : Awaits memory waiting) (admissible : Admissible lines) :
    (owed waiting lines = [] → (Scanner.nextFrom consumed memory lines).1 = .finished) ∧
    ∀ m later, owed waiting lines = m :: later → ∃ s waiting',
      Scanner.nextFrom consumed memory lines = (.message m, s) ∧ Awaits s.memory waiting' ∧
        Admissible s.ahead ∧ owed waiting' s.ahead = later := by
  induction lines generalizing consumed memory waiting with
  | nil =>
    rw [owed_nil awaits, Scanner.nextFrom]
    cases memory.pending with
    | none => exact ⟨fun _ => rfl, nofun⟩
    | some pending =>
      refine ⟨nofun, ?_⟩
      rintro _ _ ⟨⟩
      exact ⟨_, none, rfl, ⟨rfl, nofun, nofun⟩, nofun, rfl⟩
  | cons line rest ih =>
    obtain ⟨admissibleLine, admissibleRest⟩ := admissible_cons.mp admissible
    obtain ⟨emitted, memory', waiting', fed, awaits', step⟩ := feed_owed awaits admissibleLine
    rw [step rest, Scanner.nextFrom, fed]
    cases emitted with
    | none => exact ih (consumed + 1) awaits' admissibleRest
    | some emitted =>
      refine ⟨nofun, ?_⟩
      rintro _ _ ⟨⟩
      exact ⟨_, waiting', rfl, awaits', admissibleRest, rfl⟩

theorem answers_owed {calls : Nat} {s : Scanner} {waiting : Option (Nat × Header)}
    {messages : List Message} (awaits : Awaits s.memory waiting) (admissible : Admissible s.ahead)
    (all : owed waiting s.ahead = messages) (enough : messages.length < calls) :
    (s.answers calls).map Prod.fst = messages.map .message ++ [.finished] := by
  induction messages generalizing calls s waiting with
  | nil =>
    obtain ⟨calls, rfl⟩ := Nat.exists_eq_add_one_of_ne_zero (Nat.ne_of_gt enough)
    have ended := (nextFrom_owed s.consumed awaits admissible).1 all
    rw [Scanner.answers, Scanner.next]
    dsimp only
    rw [ended, if_pos rfl]
    rfl
  | cons m later ih =>
    obtain ⟨calls, rfl⟩ := Nat.exists_eq_add_one_of_ne_zero (Nat.ne_of_gt (Nat.zero_lt_of_lt enough))
    obtain ⟨s', waiting', given, awaits', admissible', rest⟩ :=
      (nextFrom_owed s.consumed awaits admissible).2 m later all
    rw [Scanner.answers, Scanner.next, given]
    dsimp only
    rw [if_neg nofun, List.map_cons, ih awaits' admissible' rest (Nat.lt_of_succ_lt_succ enough)]
    rfl

theorem answers_described {lines : List Text} {calls : Nat} (admissible : Admissible lines)
    (enough : lines.length < calls) :
    (Scanner.answers calls (.ofLines lines)).map Prod.fst =
      (described lines).map .message ++ [.finished] := by
  refine answers_owed awaits_empty admissible rfl ?_
  rw [length_described]
  exact Nat.lt_of_le_of_lt List.countP_le_length enough

/-- Asked often enough, a scanner gives one message for each header in its order, and then the end.
A message has the line behind its header unless that one is a header, and lines that neither are
headers nor follow one change nothing. -/
theorem answers_ofLines {lines : List Text} {calls : Nat} (admissible : Admissible lines)
    (enough : lines.length < calls) :
    ∃ found : List Message, (Scanner.answers calls (.ofLines lines)).map Prod.fst =
        found.map .message ++ [.finished] ∧
      found.length = lines.countP isHeader ∧
      (∀ i line start h, lines[i]? = some line → header? (bare line) = some (start, h) →
        found[(lines.take i).countP isHeader]? = some (h.above start lines[i + 1]?)) ∧
      ∀ front noise back, lines = front ++ noise :: back → isHeader noise = false →
        (∀ last ∈ front.getLast?, isHeader last = false) →
        (Scanner.answers calls (.ofLines (front ++ back))).map Prod.fst =
          found.map .message ++ [.finished] := by
  refine ⟨described lines, answers_described admissible enough, length_described lines,
    fun i line start h => described_getElem?, ?_⟩
  rintro front noise back rfl idle behind
  rw [described_append_cons idle behind]
  refine answers_described (fun line member => admissible line ?_) ?_
  · rcases List.mem_append.mp member with before | after
    · exact List.mem_append_left _ before
    · exact List.mem_append_right _ (List.mem_cons_of_mem _ after)
  · rw [List.length_append, List.length_cons] at enough
    rw [List.length_append]
    omega

/-! ## Reading a whole log at once -/

/-- What a caller who asks until the first failure or the end has in hand then. -/
def upToFailure : List Answer → List Message × Option Error
  | [] => ([], none)
  | .finished :: _ => ([], none)
  | .failure e :: _ => ([], some e)
  | .message m :: later => (m :: (upToFailure later).1, (upToFailure later).2)

theorem messagesFrom_eq_upToFailure (consumed : Nat) {memory : Memory} {lines : List Text}
    {calls : Nat} (enough : lines.length < calls) :
    messagesFrom none memory lines =
      upToFailure ((Scanner.answers calls ⟨lines, consumed, memory⟩).map Prod.fst) := by
  induction lines generalizing consumed memory calls with
  | nil =>
    obtain ⟨calls, rfl⟩ := Nat.exists_eq_add_one_of_ne_zero (Nat.ne_of_gt enough)
    rw [messagesFrom, Scanner.answers, Scanner.next, Scanner.nextFrom]
    cases memory.pending with
    | none => rfl
    | some m =>
      -- Nothing comes behind the last message, whether the scanner is asked again or not.
      cases calls <;> rfl
  | cons line rest ih =>
    obtain ⟨calls, rfl⟩ := Nat.exists_eq_add_one_of_ne_zero (Nat.ne_of_gt (Nat.zero_lt_of_lt enough))
    rw [List.length_cons, Nat.succ_lt_succ_iff] at enough
    rw [messagesFrom, Scanner.answers, Scanner.next, Scanner.nextFrom]
    rcases feed memory (bare line) with ⟨_ | _ | m, memory'⟩
    · rfl
    · exact ih (consumed + 1) (Nat.lt_succ_of_lt enough)
    · dsimp only
      rw [ih (consumed + 1) enough]
      rfl

/-- Reading a whole log at once gives the messages that a scanner gives one after the other, up to
the first failure, and that failure. -/
theorem messages_eq_upToFailure {lines : List Text} {calls : Nat} (enough : lines.length < calls) :
    messages lines = upToFailure ((Scanner.answers calls (.ofLines lines)).map Prod.fst) :=
  messagesFrom_eq_upToFailure 0 enough

/-- A fault behind some lines takes the place of the message that would still wait there; a failure
before it is met first. -/
theorem messagesFrom_fault (fault : Error) (memory : Memory) (lines : List Text) :
    (∃ found e, messagesFrom none memory lines = (found, some e) ∧
      messagesFrom (some fault) memory lines = (found, some e)) ∨
    ∃ found, ∃ waiting : Option Message,
      messagesFrom none memory lines = (found ++ waiting.toList, none) ∧
        messagesFrom (some fault) memory lines = (found, some fault) := by
  induction lines generalizing memory with
  | nil => exact .inr ⟨[], memory.pending, rfl, rfl⟩
  | cons line rest ih =>
    rw [messagesFrom, messagesFrom]
    rcases feed memory (bare line) with ⟨e | emitted, memory'⟩
    · exact .inl ⟨[], e, rfl, rfl⟩
    · dsimp only
      rcases ih memory' with ⟨found, e, sound, faulty⟩ | ⟨found, waiting, sound, faulty⟩
      · rw [sound, faulty]
        exact .inl ⟨emitted.toList ++ found, e, rfl, rfl⟩
      · rw [sound, faulty]
        exact .inr ⟨emitted.toList ++ found, waiting, by rw [List.append_assoc], rfl⟩

/-- A log with a header behind another one, a line without use, and an indented line. -/
def someLog : List Text :=
  ["x".toList, "a.c:1:2: note: first\r\n".toList, "  b/c.h:30:4: error: second\n".toList,
    "    y\n".toList, "z".toList]

theorem answers_someLog : Admissible someLog ∧
    ∃ found : List Message, (Scanner.answers 6 (.ofLines someLog)).map Prod.fst =
        found.map .message ++ [.finished] ∧
      found.length = 2 ∧
      found[0]? = some ⟨"a.c".toList, .note, ⟨"first".toList, some 1, some 2⟩, none, []⟩ ∧
      found[1]? = some ⟨"b/c.h".toList, .error, ⟨"second".toList, some 30, some 4⟩,
        some ⟨30, ["  y".toList]⟩, []⟩ ∧
      (Scanner.answers 6 (.ofLines (someLog.take 4))).map Prod.fst =
        found.map .message ++ [.finished] := by
  have admissible : Admissible someLog := by decide +kernel
  obtain ⟨found, given, size, placed, idle⟩ :=
    answers_ofLines admissible (show someLog.length < 6 by decide)
  refine ⟨admissible, found, given, ?_, ?_, ?_, ?_⟩
  · rw [size]
    decide +kernel
  · exact placed 1 _ 0 ⟨"a.c".toList, ['1'], ['2'], .note, "first".toList⟩ rfl (by decide +kernel)
  · exact placed 2 _ 2 ⟨"b/c.h".toList, ['3', '0'], ['4'], .error, "second".toList⟩ rfl
      (by decide +kernel)
  · exact idle (someLog.take 4) "z".toList [] rfl (by decide +kernel) (by decide +kernel)

end Diagnostics.Log
