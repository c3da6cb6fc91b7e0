import Diagnostics.Proofs.Log.Attribution

/-!
How far a scanner reads. The message of a header is given as soon as the line behind the header has been
read, and no sooner, as that line may belong to the message. So what a scanner has given depends on the
lines that it has asked for, and on no others.
-/
namespace Diagnostics.Log
variable {memory : Memory} {waiting : Option (Nat × Header)}

/-! ## One line -/

theorem owed_singleton (waiting : Option (Nat × Header)) (line : Text) :
    owed waiting [line] =
      (waiting.map fun found => found.2.above found.1 (some line)).toList ++
        owed (header? (bare line)) [] := by
  cases found : header? (bare line) <;> simp [owed, described, record?, found]

/-- A line completes the message that waits for it, and only a header waits behind it. -/
theorem feed_awaits {line : Text} (awaits : Awaits memory waiting)
    (admissible : ∀ found ∈ header? (bare line), found.2.Admissible) :
    ∃ memory', feed memory (bare line) =
        (.ok (waiting.map fun found => found.2.above found.1 (some line)), memory') ∧
      Awaits memory' (header? (bare line)) := by
  have step : ∃ emitted memory', feed memory (bare line) = (.ok emitted, memory') ∧
      Awaits memory' (header? (bare line)) ∧
      ∀ rest, owed waiting (line :: rest) =
        emitted.toList ++ owed (header? (bare line)) rest := by
    cases found : header? (bare line) with
    | none => exact feed_idle awaits (by rw [isHeader, found]; rfl)
    | some header => exact feed_header awaits found (admissible _ found)
  -- What the line gives is known from what a log owes that ends with it.
  obtain ⟨emitted, memory', fed, awaits', all⟩ := step
  have same := all []
  rw [owed_singleton, List.append_cancel_right_eq] at same
  have once : waiting.map (fun found => found.2.above found.1 (some line)) = emitted := by
    simpa using congrArg List.head? same
  exact ⟨memory', by rw [fed, once], awaits'⟩

theorem next_of_idle {memory' : Memory} {line : Text} (consumed : Nat) (rest : List Text)
    (fed : feed memory (bare line) = (.ok none, memory')) :
    Scanner.next ⟨line :: rest, consumed, memory⟩ = Scanner.next ⟨rest, consumed + 1, memory'⟩ := by
  rw [Scanner.next, Scanner.nextFrom, fed]
  rfl

theorem next_of_completes {memory' : Memory} {line : Text} {m : Message} (consumed : Nat)
    (rest : List Text) (fed : feed memory (bare line) = (.ok (some m), memory')) :
    Scanner.next ⟨line :: rest, consumed, memory⟩ = (.message m, ⟨rest, consumed + 1, memory'⟩) := by
  rw [Scanner.next, Scanner.nextFrom, fed]

/-! ## Lines that have been read -/

/-- The messages that are given while some lines are read, each with the number of lines read by
then. -/
def settled : Option (Nat × Header) → Nat → List Text → List (Message × Nat)
  | _, _, [] => []
  | waiting, consumed, line :: rest =>
    (waiting.map fun found => (found.2.above found.1 (some line), consumed + 1)).toList ++
      settled (header? (bare line)) (consumed + 1) rest

/-- The header that waits behind some lines. -/
def left : Option (Nat × Header) → List Text → Option (Nat × Header)
  | waiting, [] => waiting
  | _, line :: rest => left (header? (bare line)) rest

theorem left_concat (lines : List Text) (line : Text) :
    left waiting (lines ++ [line]) = header? (bare line) := by
  induction lines generalizing waiting with
  | nil => rfl
  | cons first rest ih => exact ih

theorem settled_concat (consumed : Nat) (lines : List Text) (next : Text) :
    settled waiting consumed (lines ++ [next]) = settled waiting consumed lines ++
      ((left waiting lines).map fun found =>
        (found.2.above found.1 (some next), consumed + lines.length + 1)).toList := by
  induction lines generalizing consumed waiting with
  | nil => simp [settled, left]
  | cons line rest ih => simp [settled, left, ih, Nat.add_right_comm, Nat.add_assoc]

/-- Each header has its message, but for one that still waits. -/
theorem length_settled (waiting : Option (Nat × Header)) (consumed : Nat) (lines : List Text) :
    (settled waiting consumed lines).length + (left waiting lines).toList.length =
      waiting.toList.length + lines.countP isHeader := by
  induction lines generalizing waiting consumed with
  | nil => simp [settled, left]
  | cons line rest ih =>
    have later := ih (header? (bare line)) (consumed + 1)
    have here : (header? (bare line)).toList.length = if isHeader line then 1 else 0 := by
      rw [isHeader]
      cases header? (bare line) <;> rfl
    rw [here] at later
    simp only [settled, left, List.length_append, List.countP_cons, Option.length_toList,
      Option.isSome_map] at later ⊢
    omega

/-! ## Answers -/

/-- An answer with the number of lines that a scanner has asked for by then. -/
def pulled (given : Answer × Scanner) : Answer × Nat := (given.1, given.2.consumed)

/-- While it is asked often enough, a scanner gives what the lines that it reads settle, whatever
stands behind them. -/
theorem answers_settled (front : List Text) (consumed : Nat) (awaits : Awaits memory waiting)
    (admissible : Admissible front) :
    ∃ memory', Awaits memory' (left waiting front) ∧
      ∀ rest calls, (settled waiting consumed front).length ≤ calls →
        (Scanner.answers calls ⟨front ++ rest, consumed, memory⟩).map pulled =
          (settled waiting consumed front).map (fun given => (.message given.1, given.2)) ++
            (Scanner.answers (calls - (settled waiting consumed front).length)
              ⟨rest, consumed + front.length, memory'⟩).map pulled := by
  -- For every number of calls: a line that completes nothing is read without using one up.
  induction front generalizing memory waiting consumed with
  | nil => exact ⟨memory, awaits, fun rest calls _ => rfl⟩
  | cons line front ih =>
    obtain ⟨admissibleLine, admissibleFront⟩ := admissible_cons.mp admissible
    obtain ⟨next, fed, awaits'⟩ := feed_awaits awaits admissibleLine
    obtain ⟨memory', behind, further⟩ := ih (consumed + 1) awaits' admissibleFront
    refine ⟨memory', behind, fun rest calls enough => ?_⟩
    have place : consumed + (line :: front).length = consumed + 1 + front.length := by
      rw [List.length_cons]
      omega
    rw [place]
    cases waiting with
    | none =>
      have later := further rest calls enough
      have same : Scanner.answers calls ⟨line :: front ++ rest, consumed, memory⟩ =
          Scanner.answers calls ⟨front ++ rest, consumed + 1, next⟩ := by
        cases calls with
        | zero => rfl
        | succ calls =>
          rw [Scanner.answers, Scanner.answers, List.cons_append, next_of_idle _ _ fed]
      rw [same, later]
      rfl
    | some found =>
      cases calls with
      | zero => cases enough
      | succ calls =>
        have later := further rest calls (Nat.le_of_succ_le_succ enough)
        rw [Scanner.answers, List.cons_append, next_of_completes _ _ fed]
        simp [settled, later, pulled]

section Upto
variable {front : List Text} {line : Text} {start : Nat} {h : Header}

theorem length_settled_of_header (front : List Text)
    (found : header? (bare line) = some (start, h)) :
    (settled none 0 (front ++ [line])).length = front.countP isHeader := by
  have size := length_settled none 0 (front ++ [line])
  have header : isHeader line = true := by rw [isHeader, found]; rfl
  simpa [left_concat, found, header] using size

/-- The message of a header comes behind those of the headers before it, when the line behind it has
been read. Nothing else is needed for that. -/
theorem answers_upTo_header {next : Text} (admissible : Admissible (front ++ [line, next]))
    (found : header? (bare line) = some (start, h)) :
    ∃ earlier, earlier.length = front.countP isHeader ∧
      ∀ rest calls, front.countP isHeader < calls → ∃ later,
        (Scanner.answers calls (.ofLines (front ++ line :: next :: rest))).map pulled =
          earlier ++ (.message (h.above start (some next)), front.length + 2) :: later := by
  have size := length_settled_of_header front found
  obtain ⟨memory', _, all⟩ := answers_settled (front ++ [line, next]) 0 awaits_empty admissible
  refine ⟨(settled none 0 (front ++ [line])).map fun given => (.message given.1, given.2),
    by rw [List.length_map, size], fun rest calls enough => ?_⟩
  have shape : front ++ [line, next] = front ++ [line] ++ [next] := by simp
  have given := all rest calls
  rw [shape, settled_concat, left_concat, found] at given
  have fits : front.countP isHeader + 1 ≤ calls := enough
  exact ⟨_, by simpa [Scanner.ofLines, size, fits] using given⟩

/-- Behind the last line, the message of a header comes without anything else to read. -/
theorem answers_upTo_end (admissible : Admissible (front ++ [line]))
    (found : header? (bare line) = some (start, h)) {calls : Nat}
    (enough : front.countP isHeader < calls) :
    ∃ earlier later, earlier.length = front.countP isHeader ∧
      (Scanner.answers calls (.ofLines (front ++ [line]))).map pulled =
        earlier ++ (.message (h.above start none), front.length + 1) :: later := by
  have size := length_settled_of_header front found
  obtain ⟨memory', awaits, all⟩ := answers_settled (front ++ [line]) 0 awaits_empty admissible
  rw [left_concat, found] at awaits
  obtain ⟨calls, rfl⟩ : ∃ more, calls = front.countP isHeader + (more + 1) :=
    ⟨calls - front.countP isHeader - 1, by omega⟩
  have given := all [] (front.countP isHeader + (calls + 1)) (by omega)
  have flushed : ∃ s, Scanner.next ⟨[], 0 + (front ++ [line]).length, memory'⟩ =
      (.message (h.above start none), s) ∧ s.consumed = front.length + 1 := by
    rw [Scanner.next, Scanner.nextFrom, awaits.pending]
    exact ⟨_, rfl, by simp⟩
  obtain ⟨s, answer, consumed⟩ := flushed
  rw [size, Nat.add_sub_cancel_left, Scanner.answers, answer] at given
  refine ⟨(settled none 0 (front ++ [line])).map fun given => (.message given.1, given.2),
    (s.answers calls).map pulled, by rw [List.length_map, size], ?_⟩
  simpa [Scanner.ofLines, pulled, consumed] using given

end Upto

/-! ## Behind the end -/

theorem nextFrom_finished {consumed : Nat} {lines : List Text} {s : Scanner}
    (ended : Scanner.nextFrom consumed memory lines = (.finished, s)) :
    s.ahead = [] ∧ s.memory.pending = none := by
  induction lines generalizing consumed memory with
  | nil =>
    rw [Scanner.nextFrom] at ended
    cases pending : memory.pending with
    | some message => simp [pending] at ended
    | none =>
      simp only [pending, Prod.mk.injEq, true_and] at ended
      exact ended ▸ ⟨rfl, pending⟩
  | cons line rest ih =>
    rw [Scanner.nextFrom] at ended
    split at ended
    · cases ended
    · cases ended
    · exact ih ended

/-- A scanner that has finished is asked in vain. -/
theorem next_finished {s t : Scanner} (ended : s.next = (.finished, t)) :
    t.ahead = [] ∧ t.memory.pending = none ∧ t.next = (.finished, t) := by
  obtain ⟨ahead, pending⟩ := nextFrom_finished ended
  obtain ⟨_, consumed, memory⟩ := t
  cases ahead
  refine ⟨rfl, pending, ?_⟩
  dsimp only at pending
  rw [Scanner.next, Scanner.nextFrom, pending]

theorem along_of_mem_answers {lines : List Text} {calls : Nat} {t : Scanner} {answer : Answer}
    (given : (answer, t) ∈ Scanner.answers calls (.ofLines lines)) : Along lines t := by
  have started : Along lines (.ofLines lines) := ⟨[], rfl, rfl, .inr rfl⟩
  obtain ⟨before, here, last⟩ :=
    exists_next_of_mem_answers (P := Along lines) (fun _ along => (next_along along).1) started given
  have along := (next_along here).1
  rwa [last] at along

theorem Along.ahead_eq {lines : List Text} {s : Scanner} (along : Along lines s) :
    s.ahead = lines.drop s.consumed := by
  obtain ⟨front, rfl, consumed, _⟩ := along
  rw [consumed, List.drop_left]

/-! ## Whole logs -/

/-- A scanner reads no further than it must: when it gives the message of a header, it has asked for the
line behind the header and for nothing behind that line, on which nothing that it has given depends. -/
structure ReadsNoFurther (lines : List Text) : Prop where
  prompt : ∀ i line start h calls, lines[i]? = some line → header? (bare line) = some (start, h) →
    (lines.take i).countP isHeader < calls → ∃ s,
      (Scanner.answers calls (.ofLines lines))[(lines.take i).countP isHeader]? =
        some (.message (h.above start lines[i + 1]?), s) ∧ s.consumed = min (i + 2) lines.length
  blind : ∀ i line calls, lines[i]? = some line → isHeader line = true → i + 2 ≤ lines.length →
    (lines.take i).countP isHeader < calls → ∀ other, other.take (i + 2) = lines.take (i + 2) →
      ((Scanner.answers calls (.ofLines other)).map pulled).take
          ((lines.take i).countP isHeader + 1) =
        ((Scanner.answers calls (.ofLines lines)).map pulled).take
          ((lines.take i).countP isHeader + 1)
  counted : ∀ calls answer s, (answer, s) ∈ Scanner.answers calls (.ofLines lines) →
    s.ahead = lines.drop s.consumed
  ended : ∀ calls s, (.finished, s) ∈ Scanner.answers calls (.ofLines lines) →
    s.consumed = lines.length ∧ s.memory.pending = none ∧ s.next = (.finished, s)

theorem exists_of_map_pulled {given : List (Answer × Scanner)} {earlier later : List (Answer × Nat)}
    {answer : Answer} {consumed : Nat}
    (all : given.map pulled = earlier ++ (answer, consumed) :: later) :
    ∃ s, given[earlier.length]? = some (answer, s) ∧ s.consumed = consumed := by
  have here : (given.map pulled)[earlier.length]? = some (answer, consumed) := by simp [all]
  rw [List.getElem?_map, Option.map_eq_some_iff] at here
  obtain ⟨⟨_, s⟩, place, same⟩ := here
  cases same
  exact ⟨s, place, rfl⟩

/-- What has been given with the line behind a header is the same in all logs that agree up to there. -/
theorem answers_upTo_line {lines : List Text} {i start : Nat} {line : Text} {h : Header}
    (admissible : Admissible lines) (here : lines[i]? = some line)
    (found : header? (bare line) = some (start, h)) (within : i + 2 ≤ lines.length) :
    ∃ earlier, earlier.length = (lines.take i).countP isHeader ∧
      ∀ other, other.take (i + 2) = lines.take (i + 2) →
        ∀ calls, (lines.take i).countP isHeader < calls → ∃ later,
          (Scanner.answers calls (.ofLines other)).map pulled =
            earlier ++ (.message (h.above start lines[i + 1]?), i + 2) :: later := by
  have next : lines[i + 1]? = some lines[i + 1] := List.getElem?_eq_getElem within
  have cut : lines.take (i + 2) = lines.take i ++ [line, lines[i + 1]] := by
    simp [List.take_add_one, here, next]
  have size : (lines.take i).length = i := by
    rw [List.length_take]
    omega
  have among : Admissible (lines.take i ++ [line, lines[i + 1]]) :=
    fun line member => admissible line (List.mem_of_mem_take (cut ▸ member))
  obtain ⟨earlier, length, all⟩ := answers_upTo_header among found
  refine ⟨earlier, length, fun other same calls enough => ?_⟩
  have whole : other = lines.take i ++ line :: lines[i + 1] :: other.drop (i + 2) := by
    conv => lhs; rw [← List.take_append_drop (i + 2) other, same, cut]
    simp
  obtain ⟨later, given⟩ := all (other.drop (i + 2)) calls enough
  rw [← whole, size] at given
  exact ⟨later, next ▸ given⟩

/-- On logs without refused headers, a scanner reads no further than it must. -/
theorem readsNoFurther {lines : List Text} (admissible : Admissible lines) :
    ReadsNoFurther lines where
  prompt i line start h calls here found enough := by
    have inside := (List.getElem?_eq_some_iff.mp here).1
    by_cases within : i + 2 ≤ lines.length
    · obtain ⟨earlier, length, all⟩ := answers_upTo_line admissible here found within
      obtain ⟨later, given⟩ := all lines rfl calls enough
      rw [← length, Nat.min_eq_left within]
      exact exists_of_map_pulled given
    · have last : lines[i + 1]? = none := List.getElem?_eq_none (by omega)
      have whole : lines = lines.take i ++ [line] := by
        conv => lhs; rw [← List.take_of_length_le (show lines.length ≤ i + 1 by omega)]
        simp [List.take_add_one, here]
      obtain ⟨earlier, later, length, given⟩ :=
        answers_upTo_end (whole ▸ admissible) found enough
      rw [← whole, List.length_take, Nat.min_eq_left (Nat.le_of_lt inside)] at given
      rw [← length, last, show min (i + 2) lines.length = i + 1 by omega]
      exact exists_of_map_pulled given
  blind i line calls here header within enough other same := by
    obtain ⟨⟨start, h⟩, found⟩ := Option.isSome_iff_exists.mp header
    obtain ⟨earlier, length, all⟩ := answers_upTo_line admissible here found within
    obtain ⟨later, given⟩ := all lines rfl calls enough
    obtain ⟨otherLater, otherGiven⟩ := all other same calls enough
    rw [given, otherGiven, ← length, List.take_append, List.take_append]
    simp
  counted calls answer s given := (along_of_mem_answers given).ahead_eq
  ended calls s given := by
    obtain ⟨before, _, last⟩ :=
      exists_next_of_mem_answers (P := fun _ => True) (fun _ _ => trivial) trivial given
    obtain ⟨ahead, pending, again⟩ := next_finished last
    obtain ⟨front, whole, consumed, _⟩ := along_of_mem_answers given
    rw [ahead, List.append_nil] at whole
    exact ⟨by rw [consumed, whole], pending, again⟩

/-- The second message is given before the last line is read, which may be a refused header as well. -/
theorem readsNoFurther_someLog : Admissible someLog ∧ ReadsNoFurther someLog ∧
    (∃ s, (Scanner.answers 6 (.ofLines someLog))[1]? =
        some (.message ⟨"b/c.h".toList, .error, ⟨"second".toList, some 30, some 4⟩,
          some ⟨30, ["  y".toList]⟩, []⟩, s) ∧ s.consumed = 4) ∧
      ((Scanner.answers 6
          (.ofLines (someLog.take 4 ++ ["c.c:0:0: note: z".toList]))).map pulled).take 2 =
        ((Scanner.answers 6 (.ofLines someLog)).map pulled).take 2 := by
  have admissible : Admissible someLog := by decide +kernel
  have further := readsNoFurther admissible
  have before : (someLog.take 2).countP isHeader = 1 := by decide +kernel
  have found : header? (bare "  b/c.h:30:4: error: second\n".toList) =
      some (2, ⟨"b/c.h".toList, ['3', '0'], ['4'], .error, "second".toList⟩) := by decide +kernel
  refine ⟨admissible, further, ?_, ?_⟩
  · have given := further.prompt 2 _ _ _ 6 rfl found (by rw [before]; decide)
    rw [before] at given
    exact given
  · have same := further.blind 2 _ 6 rfl (by rw [isHeader, found]; rfl) (by decide)
      (by rw [before]; decide) (someLog.take 4 ++ ["c.c:0:0: note: z".toList]) rfl
    rwa [before] at same

end Diagnostics.Log
