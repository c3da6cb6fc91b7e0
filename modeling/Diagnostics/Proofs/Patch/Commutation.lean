import Diagnostics.Proofs.Patch.RoundTrip
import Diagnostics.Proofs.Text.Exchange
import Diagnostics.Proofs.Text.Pieces

/-!
Two patches of one text. The patches of two messages that show windows of the text, each without the
line of the other message, can be applied in either order, and both orders give the same text, in
which both lines are fixed.
-/
namespace Diagnostics

/-! ## A window beside an exchanged line -/

namespace Patch
variable {source fixed otherFixed : Text} {number other : Nat}

theorem withLine_eq (inside : number - 1 < (Text.fileLines source).length) :
    withLine source number fixed =
      Text.joinLines ((Text.splitBreaks source).set (number - 1) fixed) := by
  have some : Text.fileLines source ≠ [] := List.ne_nil_of_length_pos (by omega)
  rw [withLine, Text.splitBreaks_eq_fileLines some, List.set_append, if_pos inside]
  split
  · rw [Text.joinLines_concat (by simpa using some)]
  · simp

theorem withLine_withLine (inside : number - 1 < (Text.fileLines source).length)
    (otherInside : other - 1 < (Text.fileLines (withLine source number fixed)).length)
    (plain : Text.Plain fixed) :
    withLine (withLine source number fixed) other otherFixed =
      Text.joinLines (((Text.resplit source).set (number - 1) fixed).set (other - 1) otherFixed) := by
  rw [withLine_eq otherInside, withLine_eq inside,
    Text.splitBreaks_joinLines_set (Text.splitBreaks_ne_nil source)
      (fun _ => Text.feed_not_mem_of_mem_splitBreaks) plain, Text.resplit]

end Patch

namespace Context
variable {c : Context} {source fixed : Text} {number : Nat}

theorem inside_of_standsIn {lines : List Text} (stands : c.StandsIn lines) (counted : 1 ≤ c.start)
    (first : c.start ≤ number) (last : number < c.start + c.lines.length) :
    number - 1 < lines.length := by
  have inside : number - c.start < c.lines.length := by omega
  have here := stands (number - c.start) inside
  rw [List.getElem?_eq_getElem inside] at here
  have place : c.start - 1 + (number - c.start) = number - 1 := by omega
  exact place ▸ (List.getElem?_eq_some_iff.mp here).1

/-- A window stays in its place when a line outside of it is exchanged. -/
theorem standsIn_withLine (stands : c.StandsIn (Text.fileLines source)) (counted : 1 ≤ c.start)
    (plain : ∀ line ∈ c.lines, Text.Plain line) (fixedPlain : Text.Plain fixed)
    (positive : 1 ≤ number) (outside : c.contains number = false)
    (inside : number - 1 < (Text.fileLines source).length) :
    c.StandsIn (Text.fileLines (Patch.withLine source number fixed)) := by
  intro k within
  have shown := stands k within
  rw [List.getElem?_eq_getElem within] at shown ⊢
  obtain ⟨here, behind⟩ := Text.getElem?_fileLines.mp shown
  have apart : number - 1 ≠ c.start - 1 + k := by
    simp only [contains, decide_eq_false_iff_not, not_and, not_lt] at outside
    omega
  have some := Text.splitBreaks_ne_nil source
  have noFeed : ∀ line ∈ Text.splitBreaks source, '\n' ∉ line :=
    fun _ => Text.feed_not_mem_of_mem_splitBreaks
  have noFeedSet := Text.feed_not_mem_set (i := number - 1) noFeed fixedPlain
  -- The line may be the last one of the file only if it is not empty, before and afterwards.
  rw [Patch.withLine_eq inside, Text.getElem?_fileLines]
  refine ⟨Text.getElem?_splitBreaks_joinLines noFeedSet (plain _ (List.getElem_mem within)) ?_, ?_⟩
  · rwa [List.getElem?_set_ne apart]
  · rwa [Text.length_splitBreaks_joinLines (by simpa using some) noFeedSet, List.length_set]

end Context

namespace Patch

/-! ## Messages about one text -/

/-- A message that shows lines of a text. Its window and its fixed line have no breaks. -/
structure Placed (m : Message) (c : Context) (source : Text) : Prop where
  valid : m.Valid
  around : m.context = some c
  named : m.file ≠ []
  stands : c.StandsIn (Text.fileLines source)
  plain : ∀ line ∈ c.lines, Text.Plain line
  fixed_plain : ∀ fixed, m.fixedLine = .ok fixed → Text.Plain fixed

/-- Why there is no patch: the time of the file cannot be had, or a number of the hunk cannot be
written. -/
def Unpatchable (files : Files) (clock : Clock) (m : Message) (c : Context) (e : Error) : Prop :=
  modifiedTime files m.file clock = .error e ∨
    e = .unwritable ∧ (Number.isWritable c.start && Number.isWritable c.lines.length) = false

section Placed
variable {m : Message} {c : Context} {source : Text}

theorem createIn_cases (files : Files) (clock : Clock) (valid : m.Valid) (around : m.context = some c)
    (named : m.file ≠ []) (plain : ∀ line ∈ c.lines, Text.Plain line)
    (fixedPlain : ∀ fixed, m.fixedLine = .ok fixed → Text.Plain fixed) :
    (∃ e, createIn files m clock = .error e ∧ Unpatchable files clock m c e) ∨
    ∃ patch fixed, createIn files m clock = .ok patch ∧ m.fixedLine = .ok fixed ∧
      Exchanges patch m.file c m.line fixed := by
  cases found : modifiedTime files m.file clock with
  | error e => exact .inl ⟨e, by rw [createIn_eq files clock around, found]; rfl, .inl found⟩
  | ok modified =>
    cases writable : Number.isWritable c.start && Number.isWritable c.lines.length with
    | true =>
      obtain ⟨startWritable, countWritable⟩ := Bool.and_eq_true_iff.mp writable
      exact .inr (exists_exchanges files clock found valid around named plain fixedPlain startWritable
        countWritable)
    | false =>
      obtain ⟨line, _, focus⟩ := Message.exists_focusLine valid around
      refine .inl ⟨.unwritable, ?_, .inr ⟨rfl, writable⟩⟩
      simp [createIn_eq files clock around, found, create, around,
        Message.fixedLine_of_focusLine focus, writable, Except.bind]

theorem Placed.createIn_cases (placed : Placed m c source) (files : Files) (clock : Clock) :
    (∃ e, createIn files m clock = .error e ∧ Unpatchable files clock m c e) ∨
    ∃ patch fixed, createIn files m clock = .ok patch ∧ m.fixedLine = .ok fixed ∧
      Exchanges patch m.file c m.line fixed :=
  Patch.createIn_cases files clock placed.valid placed.around placed.named placed.plain
    placed.fixed_plain

theorem Placed.positive (placed : Placed m c source) : 1 ≤ m.line := by
  obtain ⟨counted, first, _⟩ := placed.valid.context_around c placed.around
  exact Nat.le_trans counted first

theorem Placed.inside (placed : Placed m c source) :
    m.line - 1 < (Text.fileLines source).length := by
  obtain ⟨counted, first, last⟩ := placed.valid.context_around c placed.around
  exact Context.inside_of_standsIn placed.stands counted first last

/-- A message keeps its place when another line is exchanged. -/
theorem Placed.after {fixed : Text} {number : Nat} (placed : Placed m c source)
    (positive : 1 ≤ number) (inside : number - 1 < (Text.fileLines source).length)
    (outside : c.contains number = false) (fixedPlain : Text.Plain fixed) :
    Placed m c (withLine source number fixed) where
  valid := placed.valid
  around := placed.around
  named := placed.named
  stands := Context.standsIn_withLine placed.stands
    (placed.valid.context_around c placed.around).1 placed.plain fixedPlain positive outside inside
  plain := placed.plain
  fixed_plain := placed.fixed_plain

end Placed

/-! ## Two patches one after the other -/

/-- Two patches that can be applied to a text in either order, and both orders give the same text. -/
structure Commute (patch otherPatch source both : Text) : Prop where
  in_order : ∃ once, apply patch source = .ok once ∧ apply otherPatch once = .ok both
  reversed : ∃ once, apply otherPatch source = .ok once ∧ apply patch once = .ok both

/-- A text that has the lines of a source, two of them fixed. -/
structure BothFixed (source : Text) (number : Nat) (fixed : Text) (other : Nat) (otherFixed : Text)
    (both : Text) : Prop where
  count : (Text.splitOnChar '\n' both).length = (Text.splitBreaks source).length
  here : (Text.splitOnChar '\n' both)[number - 1]? = some fixed
  there : (Text.splitOnChar '\n' both)[other - 1]? = some otherFixed
  elsewhere : ∀ k line, k ≠ number - 1 → k ≠ other - 1 →
    (Text.splitBreaks source)[k]? = some line → Text.Plain line →
      (Text.splitOnChar '\n' both)[k]? = some line

theorem bothFixed_withLine {source fixed otherFixed : Text} {number other : Nat}
    (apart : number - 1 ≠ other - 1) (inside : number - 1 < (Text.fileLines source).length)
    (otherInside : other - 1 < (Text.fileLines (withLine source number fixed)).length)
    (within : other - 1 < (Text.fileLines source).length)
    (plain : Text.Plain fixed) (otherPlain : Text.Plain otherFixed) :
    BothFixed source number fixed other otherFixed
      (withLine (withLine source number fixed) other otherFixed) := by
  have pieces : Text.splitOnChar '\n' (withLine (withLine source number fixed) other otherFixed) =
      ((Text.resplit source).set (number - 1) fixed).set (other - 1) otherFixed := by
    rw [withLine_withLine inside otherInside plain]
    exact Text.splitOnChar_joinLines_of_not_mem (by simp [Text.resplit_ne_nil])
      (Text.feed_not_mem_set (Text.feed_not_mem_set Text.feed_not_mem_of_mem_resplit plain) otherPlain)
  have size := Text.length_resplit source
  have upTo := Text.length_fileLines_le source
  refine ⟨?_, ?_, ?_, fun k line notHere notThere given linePlain => ?_⟩ <;> rw [pieces]
  · simpa using size
  · rw [List.getElem?_set_ne apart.symm, List.getElem?_set_self (by omega)]
  · exact List.getElem?_set_self (by simpa using by omega)
  · rw [List.getElem?_set_ne notThere.symm, List.getElem?_set_ne notHere.symm]
    exact Text.getElem?_resplit linePlain given

/-- The patches of two messages about lines of one text, each outside of what the other message
shows, commute. -/
theorem createIn_commute (files : Files) (clock later : Clock) {m other : Message} {c d : Context}
    {source : Text} (placed : Placed m c source) (otherPlaced : Placed other d source)
    (outside : d.contains m.line = false) (otherOutside : c.contains other.line = false) :
    (∃ e, createIn files m clock = .error e ∧ Unpatchable files clock m c e) ∨
    (∃ e, createIn files other later = .error e ∧ Unpatchable files later other d e) ∨
    ∃ patch otherPatch fixed otherFixed both, createIn files m clock = .ok patch ∧
      createIn files other later = .ok otherPatch ∧ m.fixedLine = .ok fixed ∧
      other.fixedLine = .ok otherFixed ∧ Commute patch otherPatch source both ∧
      BothFixed source m.line fixed other.line otherFixed both := by
  rcases placed.createIn_cases files clock with refused | ⟨patch, fixed, made, carriedOut, exchanges⟩
  · exact .inl refused
  rcases otherPlaced.createIn_cases files later with
    refused | ⟨otherPatch, otherFixed, otherMade, otherCarriedOut, otherExchanges⟩
  · exact .inr (.inl refused)
  have plain := placed.fixed_plain fixed carriedOut
  have otherPlain := otherPlaced.fixed_plain otherFixed otherCarriedOut
  -- Each message keeps its place in what the patch of the other one leaves.
  have after := otherPlaced.after placed.positive placed.inside outside plain
  have otherAfter := placed.after otherPlaced.positive otherPlaced.inside otherOutside otherPlain
  have apart : m.line - 1 ≠ other.line - 1 := by
    obtain ⟨_, first, last⟩ := otherPlaced.valid.context_around d otherPlaced.around
    have positive := placed.positive
    have otherPositive := otherPlaced.positive
    simp only [Context.contains, decide_eq_false_iff_not] at outside
    omega
  have same : withLine (withLine source m.line fixed) other.line otherFixed =
      withLine (withLine source other.line otherFixed) m.line fixed := by
    rw [withLine_withLine placed.inside after.inside plain,
      withLine_withLine otherPlaced.inside otherAfter.inside otherPlain, List.set_comm _ _ apart]
  refine .inr (.inr ⟨patch, otherPatch, fixed, otherFixed, _, made, otherMade, carriedOut,
    otherCarriedOut, ⟨⟨_, exchanges.fits source placed.stands, ?_⟩,
      ⟨_, otherExchanges.fits source otherPlaced.stands, ?_⟩⟩,
    bothFixed_withLine apart placed.inside after.inside otherPlaced.inside plain otherPlain⟩)
  · exact otherExchanges.fits _ after.stands
  · rw [same]
    exact exchanges.fits _ otherAfter.stands

/-- A message about one line of a file with two lines of context. -/
def aboutLine (line start : Nat) (first second : Text) (hint : Hint) : Message where
  file := "a.c".toList
  level := .note
  location := ⟨"t".toList, some line, none⟩
  context := some ⟨start, [first, second]⟩
  hints := [hint]

/-- The windows share a line, the first break of the source is of two characters, and the last line
is emptied. -/
theorem createIn_commute_overlapping : ∃ patch otherPatch both,
    createIn .empty (aboutLine 1 1 "a".toList "b".toList (.insert 1 "X".toList)) noon = .ok patch ∧
    createIn .empty (aboutLine 3 2 "b".toList "c".toList (.remove ⟨1, 1⟩)) noon = .ok otherPatch ∧
    Commute patch otherPatch "a\r\nb\nc".toList both ∧
    Text.splitOnChar '\n' both = ["Xa".toList, "b".toList, []] := by
  have writable : (Number.isWritable 1 && Number.isWritable 2) = true := by decide +kernel
  have otherWritable : (Number.isWritable 2 && Number.isWritable 2) = true := by decide +kernel
  have possible {m : Message} {c : Context} {e : Error} (named : m.file = "a.c".toList)
      (short : (Number.isWritable c.start && Number.isWritable c.lines.length) = true) :
      ¬ Unpatchable .empty noon m c e := by
    rintro (failed | ⟨_, long⟩)
    · rw [named] at failed
      cases failed
    · rw [short] at long
      cases long
  have placed : Placed (aboutLine 1 1 "a".toList "b".toList (.insert 1 "X".toList))
      ⟨1, ["a".toList, "b".toList]⟩ "a\r\nb\nc".toList :=
    ⟨by decide, rfl, by decide, by decide, by decide,
      fun fixed carriedOut => by cases carriedOut; decide⟩
  have otherPlaced : Placed (aboutLine 3 2 "b".toList "c".toList (.remove ⟨1, 1⟩))
      ⟨2, ["b".toList, "c".toList]⟩ "a\r\nb\nc".toList :=
    ⟨by decide, rfl, by decide, by decide, by decide,
      fun fixed carriedOut => by cases carriedOut; decide⟩
  rcases createIn_commute .empty noon noon placed otherPlaced (by decide) (by decide) with
    ⟨e, _, failed⟩ | ⟨e, _, failed⟩ | ⟨patch, otherPatch, fixed, otherFixed, both, made, otherMade,
      carriedOut, otherCarriedOut, commute, bothFixed⟩
  · exact absurd failed (possible rfl writable)
  · exact absurd failed (possible rfl otherWritable)
  · cases carriedOut
    cases otherCarriedOut
    refine ⟨patch, otherPatch, both, made, otherMade, commute, List.ext_getElem? fun k => ?_⟩
    match k with
    | 0 => exact bothFixed.here
    | 1 => exact bothFixed.elsewhere 1 "b".toList (by decide) (by decide) rfl (by decide)
    | 2 => exact bothFixed.there
    | k + 3 =>
      have count : (Text.splitOnChar '\n' both).length = 3 := bothFixed.count
      simp [count]

/-- A message about the same file as `longName` and about the line behind. -/
def belowLongName : Message :=
  { longName with location := ⟨"t".toList, some 2, none⟩, context := some ⟨2, ["c".toList]⟩ }

/-- Lines beside each other, each outside of what the other message shows, but there is only a patch
if the file system can be asked about a name. -/
theorem createIn_longName_beside :
    Placed longName ⟨1, ["ab".toList]⟩ "ab\nc".toList ∧
      Placed belowLongName ⟨2, ["c".toList]⟩ "ab\nc".toList ∧
      (Context.mk 2 ["c".toList]).contains longName.line = false ∧
      (Context.mk 1 ["ab".toList]).contains belowLongName.line = false ∧
      createIn .empty longName noon = .error .pathTooLong := by
  refine ⟨⟨by decide +kernel, rfl, by decide, by decide, by decide, ?_⟩,
    ⟨by decide +kernel, rfl, by decide, by decide, by decide, ?_⟩, by decide, by decide,
    by decide +kernel⟩ <;>
  · rintro _ ⟨⟩
    decide

end Patch
end Diagnostics
