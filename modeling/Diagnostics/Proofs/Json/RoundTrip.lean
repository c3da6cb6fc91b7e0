import Diagnostics.Proofs.Json.Strings
import Diagnostics.Proofs.Number.Numeral
import Diagnostics.Proofs.Text.Run

/-!
Documents written and read back. A value without real numbers, whose integers may be written and
whose objects have one member of each name, is read from its text wherever there is room for its
nesting.
-/
namespace Diagnostics

namespace Json

/-! ## Numbers -/

/-- The text behind a value does not go on as a number. -/
def Ends (rest : Text) : Prop :=
  ∀ c ∈ rest.head?, Text.isPlainDigit c = false ∧ c ≠ '.' ∧ c ≠ 'e' ∧ c ≠ 'E'

theorem digitRun_append {digits rest : Text} (each : ∀ c ∈ digits, Text.isPlainDigit c = true)
    (ends : Ends rest) : digitRun (digits ++ rest) = (digits, rest) :=
  Text.span_eq_iff.mpr ⟨rfl, each, fun c first => (ends c first).1⟩

theorem fraction?_of_ends {rest : Text} (ends : Ends rest) : fraction? rest = none := by
  cases rest with
  | nil => rfl
  | cons c rest =>
    rw [fraction?]
    rintro _ same
    cases same
    exact (ends '.' rfl).2.1 rfl

theorem exponent?_of_ends {rest : Text} (ends : Ends rest) : exponent? rest = none := by
  cases rest with
  | nil => rfl
  | cons c rest =>
    obtain ⟨-, -, small, capital⟩ := ends c rfl
    unfold exponent?
    exact if_neg (not_or.mpr ⟨small, capital⟩)

theorem readNumber_numeral {n : Nat} {rest : Text} (negative : Bool)
    (writable : Number.isWritable n = true) (ends : Ends rest) :
    readNumber negative (Number.numeral n ++ rest) =
      .ok (.integer (if negative then -(n : Int) else n), rest) := by
  have after : readNumberAfter negative (Number.numeral n) rest =
      .ok (.integer (if negative then -(n : Int) else n), rest) := by
    simp only [readNumberAfter, fraction?_of_ends ends, exponent?_of_ends ends,
      Number.readDigits_numeral writable, Option.getD_none, List.isEmpty_nil, Option.isNone_none,
      Bool.and_self, if_true]
  by_cases zero : n = 0
  · subst zero
    rw [Number.numeral_of_lt (by decide)] at after ⊢
    exact after
  · obtain ⟨d, whole, same, -, other⟩ := Number.exists_numeral_eq_cons n
    have run := digitRun_append (Number.isPlainDigit_of_mem_numeral n) ends
    rw [same, List.cons_append] at run
    rw [same] at after
    rw [same, List.cons_append, readNumber]
    · rw [run]
      exact after
    · intro _ zeros
      cases zeros
      exact other zero rfl

theorem readScalar_of_digit {d : Char} (rest : Text) (digit : Text.isPlainDigit d = true) :
    readScalar (d :: rest) = readNumber false (d :: rest) ∧
      readScalar ('-' :: d :: rest) = readNumber true (d :: rest) := by
  constructor
  · rw [readScalar]
    all_goals
      intro _ same
      cases same
      exact absurd digit (by decide)
  · rw [readScalar]
    intro _ same
    cases same
    exact absurd digit (by decide)

theorem readScalar_integerText {n : Int} {rest : Text}
    (writable : Number.isWritable n.natAbs = true) (ends : Ends rest) :
    readScalar (Number.integerText n ++ rest) = .ok (.integer n, rest) := by
  cases n with
  | ofNat k =>
    obtain ⟨d, tail, same, digit, -⟩ := Number.exists_numeral_eq_cons k
    have read := readNumber_numeral false writable ends
    rw [Int.natAbs_ofNat', same] at read
    rw [Number.integerText, same, List.cons_append, (readScalar_of_digit _ digit).1]
    exact read
  | negSucc k =>
    obtain ⟨d, tail, same, digit, -⟩ := Number.exists_numeral_eq_cons (k + 1)
    have read := readNumber_numeral true writable ends
    rw [Int.natAbs_negSucc, same] at read
    rw [Number.integerText, same, List.cons_append, List.cons_append,
      (readScalar_of_digit _ digit).2]
    exact read

/-- Where a value is told from others. -/
def marks : List Char := ['"', '[', ']', '{', ' ', '\t', '\n', '\r']

theorem exists_integerText_eq_cons (n : Int) :
    ∃ c rest, Number.integerText n = c :: rest ∧ c ∉ marks := by
  have other {d : Char} (digit : Text.isPlainDigit d = true) : d ∉ marks := by
    have none : (marks.all fun mark => !Text.isPlainDigit mark) = true := by decide
    intro member
    have absent := List.all_eq_true.mp none d member
    rw [digit] at absent
    cases absent
  cases n with
  | ofNat k =>
    obtain ⟨d, rest, same, digit, -⟩ := Number.exists_numeral_eq_cons k
    exact ⟨d, rest, same, other digit⟩
  | negSucc k => exact ⟨'-', Number.numeral (k + 1), rfl, by decide⟩

/-! ## Rows -/

theorem skipSpace_newRow (depth : Nat) (text : Text) :
    skipSpace (newRow depth ++ text) = skipSpace text := by
  refine List.dropWhile_append_of_pos fun c member => ?_
  rcases List.mem_cons.mp member with rfl | blank
  · rfl
  · rw [List.eq_of_mem_replicate blank]
    rfl

theorem skipSpace_of_not_space {c : Char} (rest : Text) (other : isSpace c = false) :
    skipSpace (c :: rest) = c :: rest :=
  List.dropWhile_cons_of_neg (by simp [other])

theorem isSpace_of_not_mem_marks {c : Char} (other : c ∉ marks) : isSpace c = false := by
  rw [← Bool.not_eq_true]
  intro space
  simp only [isSpace, Bool.or_eq_true, beq_iff_eq] at space
  rcases space with ((rfl | rfl) | rfl) | rfl <;> exact other (by decide)

theorem ends_of_starts {c : Char} {rest : Text} (starts : c = ',' ∨ c = '\n') :
    Ends (c :: rest) := by
  rintro _ ⟨⟩
  rcases starts with rfl | rfl <;> decide

theorem ends_writeItems (depth : Nat) (items : List Value) (rest : Text) :
    Ends (writeItems depth items ++ rest) := by
  cases items with
  | nil => exact ends_of_starts (.inr rfl)
  | cons value items => exact ends_of_starts (.inl rfl)

theorem ends_writeMembers (depth : Nat) (members : Members) (rest : Text) :
    Ends (writeMembers depth members ++ rest) := by
  cases members with
  | nil => exact ends_of_starts (.inr rfl)
  | cons member members => exact ends_of_starts (.inl rfl)

/-! ## Values -/

/-- A value that comes back from its text where there is some room. -/
inductive Lasting : Room → Value → Prop where
  | null (room : Room) : Lasting room .null
  | flag (room : Room) (b : Bool) : Lasting room (.flag b)
  | text (room : Room) (t : Text) : Lasting room (.text t)
  | integer (room : Room) {n : Int} (writable : Number.isWritable n.natAbs = true) :
    Lasting room (.integer n)
  | list {room : Room} {items : List Value} (each : ∀ item ∈ items, Lasting room item) :
    Lasting (room + 1) (.list items)
  | object {room : Room} {members : Members} (distinct : (members.map Prod.fst).Nodup)
    (each : ∀ member ∈ members, Lasting room member.2) : Lasting (room + 1) (.object members)

/-- The text of a value starts with a character that stands behind blanks and ends no list. -/
theorem exists_writeAt_eq_cons {room : Room} {value : Value} (lasting : Lasting room value)
    (depth : Nat) : ∃ c rest, writeAt depth value = c :: rest ∧ isSpace c = false ∧ c ≠ ']' := by
  cases lasting with
  | null => exact ⟨'n', _, rfl, rfl, by decide⟩
  | flag room b =>
    cases b with
    | true => exact ⟨'t', _, rfl, rfl, by decide⟩
    | false => exact ⟨'f', _, rfl, rfl, by decide⟩
  | text room t => exact ⟨'"', _, rfl, rfl, by decide⟩
  | @integer room n writable =>
    obtain ⟨c, rest, same, other⟩ := exists_integerText_eq_cons n
    refine ⟨c, rest, same, ?_, fun mark => other (mark ▸ by decide)⟩
    exact isSpace_of_not_mem_marks other
  | @list room items each =>
    cases items with
    | nil => exact ⟨'[', _, rfl, rfl, by decide⟩
    | cons first items => exact ⟨'[', _, rfl, rfl, by decide⟩
  | @object room members distinct each =>
    cases members with
    | nil => exact ⟨'{', _, rfl, rfl, by decide⟩
    | cons first members => exact ⟨'{', _, rfl, rfl, by decide⟩

/-- A value is read from its text, wherever it stands and whatever stands behind it. -/
def Returns (room : Room) (value : Value) : Prop :=
  ∀ depth fuel rest, Ends rest → (writeAt depth value).length ≤ fuel →
    readValue fuel room (writeAt depth value ++ rest) = .ok (value, rest)

/-- There is always a step left to start with a value. -/
theorem returns_of_succ {room : Room} {value : Value} (lasting : Lasting room value)
    (step : ∀ depth fuel rest, Ends rest → (writeAt depth value).length ≤ fuel + 1 →
      readValue (fuel + 1) room (writeAt depth value ++ rest) = .ok (value, rest)) :
    Returns room value := by
  intro depth fuel rest ends short
  cases fuel with
  | zero =>
    obtain ⟨c, tail, same, -⟩ := exists_writeAt_eq_cons lasting depth
    rw [same] at short
    exact absurd short (Nat.not_succ_le_zero _)
  | succ fuel => exact step depth fuel rest ends short

theorem readValue_scalar {c : Char} (fuel : Nat) (room : Room) (rest : Text) (other : c ∉ marks) :
    readValue (fuel + 1) room (c :: rest) = readScalar (c :: rest) := by
  have differs {mark : Char} {tail : Text} (member : mark ∈ marks) : c :: rest ≠ mark :: tail :=
    fun same => other ((List.cons.inj same).1 ▸ member)
  rw [readValue]
  · exact fun _ => differs (by decide)
  · exact fun _ same _ => differs (by decide) same
  · exact fun _ _ same _ => differs (by decide) same
  · exact fun _ same _ => differs (by decide) same
  · exact fun _ _ same _ => differs (by decide) same

theorem returns_scalar {room : Room} {value : Value} (lasting : Lasting room value)
    (flat : ∀ depth, writeAt depth value = writeScalar value)
    (starts : ∃ c rest, writeScalar value = c :: rest ∧ c ∉ marks)
    (read : ∀ rest, Ends rest → readScalar (writeScalar value ++ rest) = .ok (value, rest)) :
    Returns room value := by
  refine returns_of_succ lasting fun depth fuel rest ends _ => ?_
  obtain ⟨c, tail, same, other⟩ := starts
  rw [flat, ← read rest ends, same, List.cons_append]
  exact readValue_scalar fuel room _ other

theorem returns_text (room : Room) (t : Text) : Returns room (.text t) := by
  refine returns_of_succ (.text room t) fun depth fuel rest _ _ => ?_
  have whole : writeString t ++ rest = '"' :: (t.flatMap writeChar ++ '"' :: rest) := by
    rw [writeString, List.cons_append, List.append_assoc, List.singleton_append]
  change readValue (fuel + 1) room (writeString t ++ rest) = _
  rw [whole, readValue, readChars_writeString]
  rfl

/-! ## Lists and objects -/

/-- A value on a row of its own is what comes next. -/
theorem skipSpace_row {room : Room} {value : Value} (lasting : Lasting room value) (depth : Nat)
    (rest : Text) :
    skipSpace (newRow depth ++ (writeAt depth value ++ rest)) = writeAt depth value ++ rest := by
  obtain ⟨c, tail, same, other, -⟩ := exists_writeAt_eq_cons lasting depth
  rw [skipSpace_newRow, same, List.cons_append, skipSpace_of_not_space _ other]

theorem readItems_writeItems {room : Room} {first : Value} {items : List Value}
    (each : ∀ item ∈ first :: items, Lasting room item ∧ Returns room item) {depth fuel : Nat}
    (rest : Text) (short : (writeAt (depth + 1) first ++ writeItems depth items).length < fuel) :
    readItems fuel room (writeAt (depth + 1) first ++ (writeItems depth items ++ rest)) =
      .ok (first :: items, rest) := by
  -- Every item takes one step, and has a comma and a row of its own, so the length bounds the steps.
  induction items generalizing first fuel with
  | nil =>
    cases fuel with
    | zero => exact absurd short (Nat.not_lt_zero _)
    | succ fuel =>
      rw [List.length_append] at short
      have read := (each first List.mem_cons_self).2 (depth + 1) fuel _
        (ends_writeItems depth [] rest) (by omega)
      have behind : skipSpace (writeItems depth [] ++ rest) = ']' :: rest := by
        rw [writeItems, List.append_assoc, skipSpace_newRow]
        rfl
      rw [readItems, read]
      simp only [bind, Except.bind, behind]
  | cons second items ih =>
    cases fuel with
    | zero => exact absurd short (Nat.not_lt_zero _)
    | succ fuel =>
      obtain ⟨one, others⟩ := List.forall_mem_cons.mp each
      rw [List.length_append] at short
      have read := one.2 (depth + 1) fuel _ (ends_writeItems depth (second :: items) rest)
        (by omega)
      have behind : skipSpace (writeItems depth (second :: items) ++ rest) =
          ',' :: (newRow (depth + 1) ++
            (writeAt (depth + 1) second ++ (writeItems depth items ++ rest))) := by
        rw [writeItems]
        simp only [List.cons_append, List.append_assoc]
        exact skipSpace_of_not_space _ (by decide)
      have left : (writeAt (depth + 1) second ++ writeItems depth items).length < fuel := by
        simp only [writeItems, List.length_cons, List.length_append] at short ⊢
        omega
      rw [readItems, read]
      simp only [bind, Except.bind, behind,
        skipSpace_row (others second List.mem_cons_self).1, ih others left]

theorem put_of_fresh {key : Text} {value : Value} {members : Members}
    (fresh : key ∉ members.map Prod.fst) :
    Members.put key value members = members ++ [(key, value)] := by
  induction members with
  | nil => rfl
  | cons member members ih =>
    rw [List.map_cons, List.mem_cons, not_or] at fresh
    rw [Members.put, if_neg (Ne.symm fresh.1), ih fresh.2, List.cons_append]

/-- A member: its name and its value. -/
def writeMember (depth : Nat) (member : Text × Value) : Text :=
  writeString member.1 ++ ':' :: ' ' :: writeAt depth member.2

theorem skipSpace_memberRow (depth : Nat) (member : Text × Value) (rest : Text) :
    skipSpace (newRow depth ++ (writeMember depth member ++ rest)) =
      writeMember depth member ++ rest := by
  rw [skipSpace_newRow]
  exact skipSpace_of_not_space _ (by decide)

theorem length_writeMember (depth : Nat) (member : Text × Value) :
    (writeMember depth member).length =
      (writeString member.1).length + (writeAt depth member.2).length + 2 := by
  simp only [writeMember, List.length_append, List.length_cons]
  omega

theorem fresh_of_distinct {first : Text × Value} {before members : Members}
    (distinct : ((before ++ first :: members).map Prod.fst).Nodup) :
    first.1 ∉ before.map Prod.fst := by
  rw [List.map_append, List.map_cons, List.nodup_append] at distinct
  exact fun member => distinct.2.2 _ member _ List.mem_cons_self rfl

/-- What is read behind some members. -/
def membersAfter (fuel : Nat) (room : Room) (members : Members) (tail : Text) :
    Except Fault (Members × Text) :=
  match skipSpace tail with
  | '}' :: rest => .ok (members, rest)
  | ',' :: rest => readMembers fuel room members (skipSpace rest)
  | _ => .error .malformed

theorem readMembers_member {room : Room} {member : Text × Value} {before : Members}
    {depth fuel : Nat} {tail : Text} (lasting : Lasting room member.2)
    (read : readValue fuel room (writeAt depth member.2 ++ tail) = .ok (member.2, tail))
    (fresh : member.1 ∉ before.map Prod.fst) :
    readMembers (fuel + 1) room before (writeMember depth member ++ tail) =
      membersAfter fuel room (before ++ [member]) tail := by
  obtain ⟨key, value⟩ := member
  have whole : writeMember depth (key, value) ++ tail = '"' :: (key.flatMap writeChar ++
      '"' :: ':' :: ' ' :: (writeAt depth value ++ tail)) := by
    simp [writeMember, writeString]
  have colon (rest : Text) : skipSpace (':' :: rest) = ':' :: rest :=
    skipSpace_of_not_space _ (by decide)
  have start : skipSpace (' ' :: (writeAt depth value ++ tail)) = writeAt depth value ++ tail := by
    obtain ⟨c, behind, same, other, -⟩ := exists_writeAt_eq_cons lasting depth
    rw [same]
    exact skipSpace_of_not_space _ other
  rw [whole, readMembers, readChars_writeString]
  simp only [bind, Except.bind, colon, start, read, put_of_fresh fresh]
  rfl

theorem readMembers_writeMembers {room : Room} {first : Text × Value} {members before : Members}
    (each : ∀ member ∈ first :: members, Lasting room member.2 ∧ Returns room member.2)
    (distinct : ((before ++ first :: members).map Prod.fst).Nodup) {depth fuel : Nat} (rest : Text)
    (short : (writeMember (depth + 1) first ++ writeMembers depth members).length < fuel) :
    readMembers fuel room before
        (writeMember (depth + 1) first ++ (writeMembers depth members ++ rest)) =
      .ok (before ++ first :: members, rest) := by
  induction members generalizing first before fuel with
  | nil =>
    cases fuel with
    | zero => exact absurd short (Nat.not_lt_zero _)
    | succ fuel =>
      obtain ⟨lasting, returns⟩ := each first List.mem_cons_self
      rw [List.length_append, length_writeMember] at short
      have read := returns (depth + 1) fuel _ (ends_writeMembers depth [] rest) (by omega)
      have behind : skipSpace (writeMembers depth [] ++ rest) = '}' :: rest := by
        rw [writeMembers, List.append_assoc, skipSpace_newRow]
        rfl
      simp only [readMembers_member lasting read (fresh_of_distinct distinct), membersAfter, behind]
  | cons second members ih =>
    cases fuel with
    | zero => exact absurd short (Nat.not_lt_zero _)
    | succ fuel =>
      obtain ⟨⟨lasting, returns⟩, others⟩ := List.forall_mem_cons.mp each
      rw [List.length_append, length_writeMember] at short
      have read := returns (depth + 1) fuel _ (ends_writeMembers depth (second :: members) rest)
        (by omega)
      have behind : skipSpace (writeMembers depth (second :: members) ++ rest) =
          ',' :: (newRow (depth + 1) ++
            (writeMember (depth + 1) second ++ (writeMembers depth members ++ rest))) := by
        rw [writeMembers, writeMember]
        simp only [List.cons_append, List.append_assoc]
        exact skipSpace_of_not_space _ (by decide)
      have left : (writeMember (depth + 1) second ++ writeMembers depth members).length < fuel := by
        rw [List.length_append, length_writeMember]
        simp only [writeMembers, List.length_cons, List.length_append] at short
        omega
      have fresh := fresh_of_distinct distinct
      rw [List.append_cons] at distinct
      simp only [readMembers_member lasting read fresh, membersAfter, behind,
        skipSpace_memberRow, ih others distinct left]
      rw [← List.append_cons]

theorem returns_list {room : Room} {items : List Value}
    (each : ∀ item ∈ items, Lasting room item ∧ Returns room item) :
    Returns (room + 1) (.list items) := by
  refine returns_of_succ (.list fun item member => (each item member).1) fun depth fuel rest _ short => ?_
  cases items with
  | nil => rfl
  | cons first items =>
    have lasting := (each first List.mem_cons_self).1
    have whole : writeAt depth (.list (first :: items)) ++ rest = '[' :: (newRow (depth + 1) ++
        (writeAt (depth + 1) first ++ (writeItems depth items ++ rest))) := by
      rw [writeAt]
      simp only [List.cons_append, List.append_assoc]
    have left : (writeAt (depth + 1) first ++ writeItems depth items).length < fuel := by
      simp only [writeAt, newRow, List.length_cons, List.length_append] at short ⊢
      omega
    obtain ⟨c, tail, same, -, other⟩ := exists_writeAt_eq_cons lasting (depth + 1)
    have read := readItems_writeItems each rest left
    rw [same, List.cons_append] at read
    rw [whole, readValue, skipSpace_row lasting, same, List.cons_append]
    split
    next found => exact absurd (List.cons.inj found).1 other
    next =>
      rw [read]
      rfl

theorem returns_object {room : Room} {members : Members} (distinct : (members.map Prod.fst).Nodup)
    (each : ∀ member ∈ members, Lasting room member.2 ∧ Returns room member.2) :
    Returns (room + 1) (.object members) := by
  refine returns_of_succ (.object distinct fun member found => (each member found).1)
    fun depth fuel rest _ short => ?_
  cases members with
  | nil => rfl
  | cons first members =>
    have whole : writeAt depth (.object (first :: members)) ++ rest =
        '{' :: (newRow (depth + 1) ++
          (writeMember (depth + 1) first ++ (writeMembers depth members ++ rest))) := by
      rw [writeAt, writeMember]
      simp only [List.cons_append, List.append_assoc]
    have left : (writeMember (depth + 1) first ++ writeMembers depth members).length < fuel := by
      rw [List.length_append, length_writeMember]
      simp only [writeAt, newRow, List.length_cons, List.length_append] at short
      omega
    have read : readMembers fuel room []
        (writeMember (depth + 1) first ++ (writeMembers depth members ++ rest)) =
        .ok ([] ++ first :: members, rest) := readMembers_writeMembers each distinct rest left
    rw [whole, readValue, skipSpace_memberRow]
    split
    next found => exact absurd (List.cons.inj found).1 (by decide)
    next =>
      rw [read]
      rfl

theorem returns_of_lasting {room : Room} {value : Value} (lasting : Lasting room value) :
    Returns room value := by
  -- The hypothesis for a list or an object is about all its parts at once.
  induction lasting with
  | null room =>
    exact returns_scalar (.null room) (fun _ => rfl) ⟨'n', _, rfl, by decide⟩ fun _ _ => rfl
  | flag room b =>
    cases b with
    | true =>
      exact returns_scalar (.flag room true) (fun _ => rfl) ⟨'t', _, rfl, by decide⟩ fun _ _ => rfl
    | false =>
      exact returns_scalar (.flag room false) (fun _ => rfl) ⟨'f', _, rfl, by decide⟩ fun _ _ => rfl
  | text room t => exact returns_text room t
  | @integer room n writable =>
    exact returns_scalar (.integer room writable) (fun _ => rfl) (exists_integerText_eq_cons n)
      fun _ ends => readScalar_integerText writable ends
  | list each ih => exact returns_list fun item member => ⟨each item member, ih item member⟩
  | object distinct each ih =>
    exact returns_object distinct fun member found => ⟨each member found, ih member found⟩

/-- A value is read from its text if there is room for it behind the outer steps. -/
theorem read_write {room : Room} {value : Value} (lasting : Lasting (room - outerSteps) value) :
    read room (write value) = .ok value := by
  obtain ⟨c, rest, same, other, -⟩ := exists_writeAt_eq_cons lasting 0
  have start : skipSpace (write value) = write value := by
    rw [write, same]
    exact skipSpace_of_not_space _ other
  have whole := returns_of_lasting lasting 0 (2 * (write value).length + 2) [] nofun
    (show (write value).length ≤ _ by omega)
  rw [List.append_nil] at whole
  rw [read, start]
  change (readValue _ _ (writeAt 0 value)).bind _ = _
  rw [whole]
  rfl

/-! ## The characters that are written -/

theorem visible_numeral (n : Nat) : Visible (Number.numeral n) := by
  rw [visible_iff]
  intro c member
  have digit := Number.isPlainDigit_of_mem_numeral n c member
  simp only [Text.isPlainDigit, Bool.and_eq_true, decide_eq_true_eq] at digit
  have low : 0x30 ≤ c.toNat := digit.1
  have high : c.toNat ≤ 0x39 := digit.2
  simp only [isVisible, Bool.or_eq_true, Bool.and_eq_true, decide_eq_true_eq]
  exact .inr ⟨by omega, by omega⟩

theorem visible_newRow (depth : Nat) : Visible (newRow depth) := by
  refine visible_cons.mpr ⟨by decide, visible_iff.mpr fun c member => ?_⟩
  rw [List.eq_of_mem_replicate member]
  decide

theorem visible_row {text rest : Text} (depth : Nat) (row : Visible text) (behind : Visible rest) :
    Visible (newRow depth ++ text ++ rest) :=
  visible_append.mpr ⟨visible_append.mpr ⟨visible_newRow depth, row⟩, behind⟩

theorem visible_memberRow {text rest : Text} (depth : Nat) (key : Text) (value : Visible text)
    (behind : Visible rest) :
    Visible (newRow depth ++ writeString key ++ ':' :: ' ' :: text ++ rest) :=
  visible_append.mpr ⟨visible_append.mpr
    ⟨visible_append.mpr ⟨visible_newRow depth, visible_writeString key⟩,
      visible_cons.mpr ⟨by decide, visible_cons.mpr ⟨by decide, value⟩⟩⟩, behind⟩

theorem visible_writeItems {items : List Value} (depth : Nat)
    (each : ∀ item ∈ items, ∀ depth, Visible (writeAt depth item)) :
    Visible (writeItems depth items) := by
  induction items with
  | nil => exact visible_append.mpr ⟨visible_newRow depth, by decide⟩
  | cons first items ih =>
    obtain ⟨one, others⟩ := List.forall_mem_cons.mp each
    exact visible_cons.mpr ⟨by decide, visible_row _ (one (depth + 1)) (ih others)⟩

theorem visible_writeMembers {members : Members} (depth : Nat)
    (each : ∀ member ∈ members, ∀ depth, Visible (writeAt depth member.2)) :
    Visible (writeMembers depth members) := by
  induction members with
  | nil => exact visible_append.mpr ⟨visible_newRow depth, by decide⟩
  | cons first members ih =>
    obtain ⟨one, others⟩ := List.forall_mem_cons.mp each
    exact visible_cons.mpr
      ⟨by decide, visible_memberRow _ first.1 (one (depth + 1)) (ih others)⟩

theorem visible_writeAt {room : Room} {value : Value} (lasting : Lasting room value) (depth : Nat) :
    Visible (writeAt depth value) := by
  induction lasting generalizing depth with
  | null room => exact (by decide : Visible "null".toList)
  | flag room b =>
    cases b with
    | true => exact (by decide : Visible "true".toList)
    | false => exact (by decide : Visible "false".toList)
  | text room t => exact visible_writeString t
  | @integer room n writable =>
    cases n with
    | ofNat k => exact visible_numeral k
    | negSucc k => exact visible_cons.mpr ⟨by decide, visible_numeral (k + 1)⟩
  | @list room items each ih =>
    cases items with
    | nil => exact (by decide : Visible "[]".toList)
    | cons first items =>
      obtain ⟨one, others⟩ := List.forall_mem_cons.mp ih
      exact visible_cons.mpr
        ⟨by decide, visible_row _ (one (depth + 1)) (visible_writeItems depth others)⟩
  | @object room members distinct each ih =>
    cases members with
    | nil => exact (by decide : Visible "{}".toList)
    | cons first members =>
      obtain ⟨one, others⟩ := List.forall_mem_cons.mp ih
      exact visible_cons.mpr ⟨by decide,
        visible_memberRow _ first.1 (one (depth + 1)) (visible_writeMembers depth others)⟩

end Json
end Diagnostics
