import Diagnostics.Log.Header
import Diagnostics.Proofs.Text.Run
import Mathlib.Data.Nat.Find

/-!
The grammar of headers, and the search for one. At any place of a text at most one header starts,
and the search finds the first place where one does.
-/
namespace Diagnostics.Log

/-! ## The parts of a header -/

/-- Some characters of a class, one at least. -/
def Run (inClass : Char → Bool) (text : Text) : Prop := text ≠ [] ∧ ∀ c ∈ text, inClass c = true

instance (inClass : Char → Bool) (text : Text) : Decidable (Run inClass text) :=
  decidable_of_iff (text ≠ [] ∧ text.all inClass = true) (and_congr_right fun _ => List.all_eq_true)

theorem field?_eq_some_iff {inClass : Char → Bool} (colon : inClass ':' = false)
    {text run rest : Text} :
    field? inClass text = some (run, rest) ↔ Run inClass run ∧ text = run ++ ':' :: rest := by
  constructor
  · intro found
    unfold field? at found
    split at found
    · cases found
    · rename_i after nonempty
      cases found
      refine ⟨⟨nonempty, fun c member => List.mem_takeWhile_imp member⟩, ?_⟩
      rw [← after, List.takeWhile_append_dropWhile]
    · cases found
  · rintro ⟨⟨nonempty, within⟩, rfl⟩
    -- The colon is outside of the class, so no longer run and no shorter one can be meant.
    have stops : Text.Stops inClass (':' :: rest) := Text.stops_cons.mpr colon
    rw [field?, Text.takeWhile_run within stops, Text.dropWhile_run within stops]
    cases run with
    | nil => contradiction
    | cons c run => rfl

theorem level?_name (level : Level) (rest : Text) :
    level? (level.name ++ ':' :: ' ' :: rest) = some (level, rest) := by
  cases level <;> rfl

theorem level?_eq_some_iff {text rest : Text} {level : Level} :
    level? text = some (level, rest) ↔ text = level.name ++ ':' :: ' ' :: rest := by
  constructor
  · intro found
    unfold level? at found
    split at found <;> cases found <;> rfl
  · rintro rfl
    exact level?_name level rest

/-! ## Texts that start with a header -/

/-- A text starts with a header: each part of the header is made of the characters that belong
there, and the message goes up to the next line feed or to the end of the text. -/
structure Starts (text : Text) (h : Header) : Prop where
  file : Run isFileChar h.file
  line : Run Text.isPlainDigit h.line
  column : Run Text.isPlainDigit h.column
  message : '\n' ∉ h.message
  written : ∃ rest, text = h.text ++ rest ∧ ∀ c ∈ rest.head?, c = '\n'

theorem stops_feed_iff {rest : Text} :
    Text.Stops (· != '\n') rest ↔ ∀ c ∈ rest.head?, c = '\n' := by
  simp [Text.Stops]

theorem takeWhile_message {message rest : Text} (noFeed : '\n' ∉ message)
    (stops : ∀ c ∈ rest.head?, c = '\n') : (message ++ rest).takeWhile (· != '\n') = message := by
  refine Text.takeWhile_run (fun c member => ?_) (stops_feed_iff.mpr stops)
  simpa using ne_of_mem_of_not_mem member noFeed

theorem headerAt?_eq_some_iff {text : Text} {h : Header} :
    headerAt? text = some h ↔ Starts text h := by
  have colonFile : isFileChar ':' = false := by decide
  have colonDigit : Text.isPlainDigit ':' = false := by decide
  constructor
  · intro found
    simp only [headerAt?, Option.bind_eq_bind, Option.bind_eq_some_iff, Prod.exists,
      field?_eq_some_iff colonFile, field?_eq_some_iff colonDigit] at found
    obtain ⟨file, _, ⟨hfile, rfl⟩, line, _, ⟨hline, rfl⟩, column, after, ⟨hcolumn, rfl⟩, found⟩ :=
      found
    split at found
    · simp only [Option.bind_eq_some_iff, Prod.exists, level?_eq_some_iff] at found
      obtain ⟨level, behind, rfl, made⟩ := found
      cases made
      refine ⟨hfile, hline, hcolumn, fun feed => by simpa using List.mem_takeWhile_imp feed,
        behind.dropWhile (· != '\n'), ?_, stops_feed_iff.mp (Text.stops_dropWhile _ behind)⟩
      simp [Header.text, List.takeWhile_append_dropWhile]
    · cases found
  · rintro ⟨hfile, hline, hcolumn, noFeed, rest, rfl, stops⟩
    obtain ⟨file, line, column, level, message⟩ := h
    have inParts : (Header.mk file line column level message).text ++ rest =
        file ++ ':' :: (line ++ ':' :: (column ++ ':' :: ' ' ::
          (level.name ++ ": ".toList ++ (message ++ rest)))) := by
      simp [Header.text]
    simp [inParts, headerAt?, (field?_eq_some_iff colonFile).mpr ⟨hfile, rfl⟩,
      (field?_eq_some_iff colonDigit).mpr ⟨hline, rfl⟩,
      (field?_eq_some_iff colonDigit).mpr ⟨hcolumn, rfl⟩, level?_name,
      takeWhile_message noFeed stops]

section Starting
variable {text : Text} {g h : Header}

theorem Starts.unique (first : Starts text g) (second : Starts text h) : g = h :=
  Option.some.inj
    ((headerAt?_eq_some_iff.mpr first).symm.trans (headerAt?_eq_some_iff.mpr second))

theorem not_starts_nil : ¬ Starts [] h := by
  rintro ⟨⟨nonempty, _⟩, _, _, _, rest, written, _⟩
  simp [Header.text] at written

theorem Starts.file_eq (starts : Starts text h) : h.file = text.takeWhile isFileChar := by
  obtain ⟨⟨_, within⟩, _, _, _, rest, rfl, _⟩ := starts
  have colon : Text.Stops isFileChar (':' :: h.line ++ ':' :: h.column ++ ": ".toList ++
      h.level.name ++ ": ".toList ++ h.message ++ rest) := Text.stops_cons.mpr (by decide)
  rw [← Text.takeWhile_run within colon]
  simp [Header.text]

/-- A header with one more character before it that may stand in a file is a header as well. -/
theorem Starts.cons {c : Char} (starts : Starts text h) (inFile : isFileChar c = true) :
    Starts (c :: text) { h with file := c :: h.file } := by
  obtain ⟨⟨_, within⟩, line, column, message, rest, rfl, stops⟩ := starts
  exact ⟨⟨List.cons_ne_nil _ _, List.forall_mem_cons.mpr ⟨inFile, within⟩⟩, line, column, message,
    rest, by simp [Header.text], stops⟩

end Starting

/-! ## The search -/

/-- A header starts at some place of a text, and none does before it. -/
structure First (text : Text) (start : Nat) (h : Header) : Prop where
  starts : Starts (text.drop start) h
  least : ∀ p < start, ∀ g, ¬ Starts (text.drop p) g

section Search
variable {c : Char} {text rest : Text} {start : Nat} {g h : Header}

theorem not_first_nil : ¬ First [] start h := fun first =>
  not_starts_nil (List.drop_nil ▸ first.starts)

theorem first_of_starts (here : Starts text g) : First text start h ↔ start = 0 ∧ h = g := by
  constructor
  · rintro ⟨starts, least⟩
    cases start with
    | zero => exact ⟨rfl, starts.unique here⟩
    | succ start => exact absurd here (least 0 (Nat.zero_lt_succ start) g)
  · rintro ⟨rfl, rfl⟩
    exact ⟨here, nofun⟩

theorem first_succ_iff (noneHere : ∀ g, ¬ Starts (c :: rest) g) :
    First (c :: rest) (start + 1) h ↔ First rest start h := by
  constructor
  · rintro ⟨starts, least⟩
    exact ⟨starts, fun p before => least (p + 1) (Nat.succ_lt_succ before)⟩
  · rintro ⟨starts, least⟩
    refine ⟨starts, ?_⟩
    rintro (_ | p) before
    · exact noneHere
    · exact least p (Nat.lt_of_succ_lt_succ before)

theorem header?_eq_some_iff : header? text = some (start, h) ↔ First text start h := by
  induction text generalizing start with
  | nil => simp [header?, not_first_nil]
  | cons c rest ih =>
    -- A header at this very place is the first one, and else the first one of the rest is.
    rw [header?]
    cases here : headerAt? (c :: rest) with
    | some g =>
      rw [first_of_starts (headerAt?_eq_some_iff.mp here)]
      simp [eq_comm]
    | none =>
      have noneHere : ∀ g, ¬ Starts (c :: rest) g := by
        simp [← headerAt?_eq_some_iff, here]
      cases start with
      | zero => simpa using fun first : First (c :: rest) 0 h => noneHere h first.starts
      | succ start => simp [first_succ_iff noneHere, ← ih]

theorem exists_first_iff : (∃ p h, First text p h) ↔ ∃ p h, Starts (text.drop p) h := by
  classical
  constructor
  · rintro ⟨p, h, first⟩
    exact ⟨p, h, first.starts⟩
  · intro somewhere
    obtain ⟨h, starts⟩ := Nat.find_spec somewhere
    exact ⟨Nat.find somewhere, h, starts, fun p before g earlier =>
      Nat.find_min somewhere before ⟨g, earlier⟩⟩

/-- Before the first header stands no character that could belong to its file. -/
theorem First.not_isFileChar (first : First text start h) :
    ∀ c ∈ (text.take start).getLast?, isFileChar c = false := by
  intro c last
  rw [← Bool.not_eq_true]
  intro inFile
  obtain ⟨front, taken⟩ := List.getLast?_eq_some_iff.mp last
  have before : front.length < start := by
    have size := congrArg List.length taken
    rw [List.length_take, List.length_append, List.length_singleton] at size
    omega
  have earlier : text.drop front.length = c :: text.drop start := by
    conv => lhs; rw [← List.take_append_drop start text, taken]
    simp
  exact first.least front.length before _ (earlier ▸ first.starts.cons inFile)

end Search

/-- The search finds a header exactly if one starts somewhere. It gives the first place and the one
header that starts there, whose file is the longest that can be read around that place. -/
theorem header?_first (text : Text) :
    (∀ start h, header? text = some (start, h) ↔ First text start h) ∧
    ((header? text).isSome = true ↔ ∃ p h, Starts (text.drop p) h) ∧
    (∀ p g h, Starts (text.drop p) g → Starts (text.drop p) h → g = h) ∧
    ∀ start h, First text start h → h.file = (text.drop start).takeWhile isFileChar ∧
      ∀ c ∈ (text.take start).getLast?, isFileChar c = false := by
  refine ⟨fun start h => header?_eq_some_iff, ?_, fun p g h => Starts.unique,
    fun start h first => ⟨first.starts.file_eq, first.not_isFileChar⟩⟩
  simp only [Option.isSome_iff_exists, Prod.exists, header?_eq_some_iff, exists_first_iff]

/-- Two places where a header almost starts, and two where one does. -/
def nearMisses : Text := "x:1:a.c:2:3: note: e.h:4:5: error: z\n:6".toList

theorem header?_nearMisses :
    First nearMisses 4 ⟨"a.c".toList, ['2'], ['3'], .note, "e.h:4:5: error: z".toList⟩ ∧
      isFileChar ':' = false := by
  obtain ⟨found, _, _, around⟩ := header?_first nearMisses
  have first := (found 4 ⟨"a.c".toList, ['2'], ['3'], .note, "e.h:4:5: error: z".toList⟩).mp
    (by decide +kernel)
  exact ⟨first, (around _ _ first).2 ':' (by decide)⟩

end Diagnostics.Log
