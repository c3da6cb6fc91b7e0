import Diagnostics.Proofs.Log.Recovery

/-!
The lines that go around messages. A scanner takes the first line behind a header that is no refused
header itself. So a message has the wrong line exactly where refused headers stand between its own
header and a line that is no header: that line follows one of them.
-/
namespace Diagnostics.Log

/-- A header that gives a message. -/
def isAdmitted (line : Text) : Bool := isHeader line && !isRefused line

theorem heeded_append (front behind : List Text) :
    heeded (front ++ behind) = heeded front ++ heeded behind := List.filter_append front behind

theorem getElem?_behind (front behind : List Text) (line : Text) :
    (front ++ line :: behind)[front.length + 1]? = behind.head? := by
  rw [List.getElem?_append_right (Nat.le_succ _), Nat.succ_sub (Nat.le_refl _), Nat.sub_self,
    List.getElem?_cons_succ, List.head?_eq_getElem?]

/-- The message of a header has the first line behind it that is no refused header, unless that one
is a header as well. -/
theorem described_heeded_getElem? {front behind : List Text} {line : Text} {start : Nat} {h : Header}
    (found : header? (bare line) = some (start, h)) (admissible : h.Admissible) :
    (described (heeded (front ++ line :: behind)))[front.countP isAdmitted]? =
      some (h.above start (behind.find? fun l => !isRefused l)) := by
  have kept := isRefused_eq_false.mpr ((refusal?_of_header found).mpr admissible)
  rw [heeded_append, heeded_cons_of_not_refused behind kept]
  have here : (heeded front ++ line :: heeded behind)[(heeded front).length]? = some line := by simp
  have place := described_getElem? here found
  rwa [List.take_left, getElem?_behind, heeded, List.countP_filter, heeded, List.head?_filter]
    at place

/-- What is around a message, if anything is, is the first line behind its header. -/
def Attributed (behind : List Text) (start : Nat) (m : Message) : Prop :=
  ∀ c ∈ m.context, ∃ next, behind.head? = some next ∧ isHeader next = false ∧
    c = ⟨m.line, [unindented start (bare next)]⟩

theorem isHeader_of_isRefused {line : Text} (refused : isRefused line = true) :
    isHeader line = true := by
  obtain ⟨e, reason⟩ := Option.isSome_iff_exists.mp refused
  obtain ⟨start, h, found, _⟩ := refusal?_eq_some.mp reason
  rw [isHeader, found]
  rfl

theorem above_context (h : Header) (start : Nat) (next : Option Text) :
    (h.above start next).context =
      (next.filter fun line => !isHeader line).map fun line =>
        ⟨(h.above start next).line, [unindented start (bare line)]⟩ := rfl

/-- A message has no wrong line, unless refused headers stand between its own header and a line that
is no header. -/
theorem attributed_above_iff (behind : List Text) (start : Nat) (h : Header) :
    Attributed behind start (h.above start (behind.find? fun l => !isRefused l)) ↔
      ∀ next ∈ behind.head?, isRefused next = true →
        ∀ later ∈ behind.find? fun l => !isRefused l, isHeader later = true := by
  rw [Attributed, above_context]
  cases behind with
  | nil => simp
  | cons next rest =>
    rw [List.head?_cons]
    cases refused : isRefused next with
    | false =>
      rw [List.find?_cons_of_pos (by rw [refused]; rfl)]
      refine ⟨fun _ => ?_, fun _ c around => ?_⟩
      · rintro _ ⟨⟩ again
        rw [refused] at again
        cases again
      · obtain ⟨other, shown, rfl⟩ := Option.map_eq_some_iff.mp around
        obtain ⟨same, idle⟩ := Option.filter_eq_some_iff.mp shown
        cases same
        exact ⟨next, rfl, by simpa using idle, rfl⟩
    | true =>
      -- The line behind the header is a header, so nothing may be around the message.
      have header := isHeader_of_isRefused refused
      constructor
      · rintro attributed _ ⟨⟩ _ later first
        by_contra idle
        obtain ⟨_, same, other, _⟩ := attributed _ (Option.mem_map_of_mem _
          (Option.mem_filter_iff.mpr ⟨first, by simpa using idle⟩))
        cases same
        rw [header] at other
        cases other
      · intro bare c around
        obtain ⟨later, shown, rfl⟩ := Option.map_eq_some_iff.mp around
        obtain ⟨first, idle⟩ := Option.filter_eq_some_iff.mp shown
        rw [bare next rfl refused later first] at idle
        cases idle

/-! ## Asking less often -/

theorem answers_mono {calls more : Nat} (s : Scanner) (fewer : calls ≤ more) :
    s.answers calls <+: s.answers more := by
  induction calls generalizing s more with
  | zero => exact List.nil_prefix
  | succ calls ih =>
    obtain ⟨more, rfl⟩ := Nat.exists_eq_add_one_of_ne_zero (Nat.ne_of_gt (Nat.zero_lt_of_lt fewer))
    rw [Scanner.answers, Scanner.answers]
    dsimp only
    rw [List.cons_prefix_cons]
    refine ⟨rfl, ?_⟩
    split
    · exact List.nil_prefix
    · exact ih _ (Nat.le_of_succ_le_succ fewer)

/-- However often a scanner is asked, what it gives are the first of the messages of the admitted
headers, and all of these if it is asked often enough. Each has the first line behind its header
that is no refused header, unless that one is a header as well; this is the line right behind its
header, or none, but where that one is a refused header before a line that is no header. -/
theorem answers_attributed_iff (lines : List Text) :
    ∃ found : List Message,
      (∀ calls, (Scanner.answers calls (.ofLines lines)).filterMap (·.1.message?) <+: found) ∧
      (∀ calls, lines.length < calls →
        (Scanner.answers calls (.ofLines lines)).filterMap (·.1.message?) = found) ∧
      found.length = lines.countP isAdmitted ∧
      ∀ front line behind start h, lines = front ++ line :: behind →
        header? (bare line) = some (start, h) → h.Admissible →
        ∃ m, found[front.countP isAdmitted]? = some m ∧
          m = h.above start (behind.find? fun l => !isRefused l) ∧
          (Attributed behind start m ↔
            ∀ next ∈ behind.head?, isRefused next = true →
              ∀ later ∈ behind.find? fun l => !isRefused l, isHeader later = true) := by
  refine ⟨described (heeded lines), fun calls => ?_, fun calls enough => (answers_heeded enough).1,
    ?_, ?_⟩
  · rw [← (answers_heeded (Nat.lt_add_of_pos_left (Nat.succ_pos calls))).1]
    exact (answers_mono _ (by omega)).filterMap _
  · rw [length_described, heeded, List.countP_filter]
    rfl
  · rintro front line behind start h rfl found admissible
    exact ⟨_, described_heeded_getElem? found admissible, rfl, attributed_above_iff behind start h⟩

/-- A header, a refused one behind it, and the line of the refused one. -/
def misleadingLog : List Text :=
  ["a.c:1:1: error: one".toList, "b.c:0:1: error: two".toList, "x".toList]

/-- The message of the first header gets the line of the second one. -/
theorem answers_misleadingLog :
    ∃ m, (Scanner.answers 4 (.ofLines misleadingLog)).filterMap (·.1.message?) = [m] ∧
      m = ⟨"a.c".toList, .error, ⟨"one".toList, some 1, some 1⟩, some ⟨1, ["x".toList]⟩, []⟩ ∧
      ¬ Attributed (misleadingLog.drop 1) 0 m := by
  obtain ⟨found, _, all, size, placed⟩ := answers_attributed_iff misleadingLog
  obtain ⟨m, first, same, attributed⟩ := placed [] "a.c:1:1: error: one".toList
    (misleadingLog.drop 1) 0 ⟨"a.c".toList, ['1'], ['1'], .error, "one".toList⟩ rfl
    (by decide +kernel) (by decide +kernel)
  have one : found.length = 1 := by
    rw [size]
    decide +kernel
  obtain ⟨only, rfl⟩ := List.length_eq_one_iff.mp one
  cases first
  refine ⟨m, all 4 (by decide), ?_, ?_⟩
  · rw [same]
    decide +kernel
  · rw [attributed]
    intro bare
    have idle := bare "b.c:0:1: error: two".toList rfl (by decide +kernel) "x".toList
      (by decide +kernel)
    exact absurd idle (by decide +kernel)

end Diagnostics.Log
