import Diagnostics.Proofs.Message.Outcomes
import Diagnostics.Proofs.Patch.Commutation
import Diagnostics.Proofs.Text.LineEnds

/-!
Messages that show a whole text. Their context is the text cut at its breaks, and a line feed at the
end of the text leaves an empty line there that is no line of the file. So their patches can be applied
to the text exactly if it does not end with a line feed.
-/
namespace Diagnostics

theorem Message.plain_of_fixedLine {m : Message} {c : Context} {fixed : Text} (valid : m.Valid)
    (around : m.context = some c) (plain : ∀ line ∈ c.lines, Text.Plain line)
    (texts : ∀ h ∈ m.hints, Text.Plain h.newText) (carriedOut : m.fixedLine = .ok fixed) :
    Text.Plain fixed := by
  obtain ⟨line, place, focus⟩ := exists_focusLine valid around
  have made := Message.fixedLine_of_focusLine focus
  rw [Hint.applyForwards_eq line m.hints valid.hints_valid valid.hints_spaced, carriedOut,
    Except.ok.injEq] at made
  have linePlain := plain line (List.mem_of_getElem? place)
  simp only [Text.Plain, List.any_eq_false] at linePlain texts ⊢
  intro c member
  rcases Hint.mem_of_mem_rewrite (made ▸ member) with old | ⟨h, among, new⟩
  · exact linePlain c old
  · exact texts h among c new

namespace Patch
variable {source fixed : Text} {number : Nat}

/-! ## A text as the context of its own lines -/

/-- The pieces of a text are the lines of its file if there is no empty piece behind the last feed. -/
theorem standsIn_pieces_iff (some : source ≠ []) :
    Context.StandsIn ⟨1, Text.splitBreaks source⟩ (Text.fileLines source) ↔
      Text.endsIn source ['\n'] = false := by
  rw [Context.standsIn_iff, Text.splitBreaks_eq_fileLines (mt Text.fileLines_eq_nil some)]
  cases Text.endsIn source ['\n'] with
  | false => simp
  | true =>
    simp only [Bool.true_eq_false, iff_false, if_true, Nat.sub_self, List.drop_zero]
    intro shorter
    simpa using shorter.length_le

theorem splitOnChar_feedsOnly (source : Text) :
    Text.splitOnChar '\n' (Text.feedsOnly source) = Text.splitBreaks source := by
  rw [← Text.joinLines_splitBreaks]
  exact Text.splitOnChar_joinLines_of_not_mem (Text.splitBreaks_ne_nil source)
    fun _ => Text.feed_not_mem_of_mem_splitBreaks

/-- What a patch makes of a text: line feeds for its breaks and another line in the place of one of
its lines, or nothing at all where the text ends with a line feed. -/
structure FixesOpenEnded (patch source : Text) (number : Nat) (fixed : Text) : Prop where
  open_ended : Text.endsIn source ['\n'] = false → apply patch source =
    .ok (Text.joinLines ((Text.splitOnChar '\n' (Text.feedsOnly source)).set (number - 1) fixed))
  ended : Text.endsIn source ['\n'] = true → ∃ e, apply patch source = .error (.patch e)

theorem fixesOpenEnded_of_exchanges {patch file : Text} (some : source ≠ []) (positive : 1 ≤ number)
    (last : number ≤ (Text.splitBreaks source).length)
    (exchanges : Exchanges patch file ⟨1, Text.splitBreaks source⟩ number fixed) :
    FixesOpenEnded patch source number fixed := by
  constructor
  · intro openEnded
    have pieces := Text.splitBreaks_eq_fileLines (mt Text.fileLines_eq_nil some)
    simp only [openEnded, Bool.false_eq_true, if_false, List.append_nil] at pieces
    have inside : number - 1 < (Text.fileLines source).length := by
      rw [pieces] at last
      omega
    rw [exchanges.fits source ((standsIn_pieces_iff some).mpr openEnded), withLine_eq inside,
      splitOnChar_feedsOnly]
  · intro ended
    apply exchanges.refuses
    rw [standsIn_pieces_iff some, ended]
    exact Bool.true_eq_false_eq_False

/-! ## Messages that show a whole text -/

structure ShowsAll (m : Message) (source : Text) : Prop where
  valid : m.Valid
  around : m.context = some ⟨1, Text.splitBreaks source⟩
  named : m.file ≠ []
  texts_plain : ∀ h ∈ m.hints, Text.Plain h.newText

theorem ShowsAll.withHints {shown m : Message} {hints : List Hint} (shows : ShowsAll shown source)
    (hinted : shown.withHints hints = .ok m) (valid : ∀ h ∈ hints, h.Valid)
    (plain : ∀ h ∈ hints, Text.Plain h.newText) : ShowsAll m source := by
  have made := (Message.withHints_eq_ok (Message.build_of_valid shows.valid)).mp hinted
  have checked := Message.valid_of_build shows.valid.location_valid shows.valid.one_le_start
    (List.forall_mem_append.mpr ⟨shows.valid.hints_valid, valid⟩) made
  obtain ⟨_, _, _, _, rfl⟩ := Message.build_eq_ok.mp made
  refine ⟨checked, shows.around, shows.named, fun h member => ?_⟩
  exact List.forall_mem_append.mpr ⟨shows.texts_plain, plain⟩ h (Hint.mem_sort.mp member)

theorem ShowsAll.createIn_cases {m : Message} (shows : ShowsAll m source) (some : source ≠ [])
    (paired : ¬ Text.LoneReturn source) (files : Files) (clock : Clock) :
    (∃ e, createIn files m clock = .error e ∧
      Unpatchable files clock m ⟨1, Text.splitBreaks source⟩ e) ∨
    ∃ patch fixed, createIn files m clock = .ok patch ∧ m.fixedLine = .ok fixed ∧
      FixesOpenEnded patch source m.line fixed := by
  obtain ⟨valid, around, named, texts⟩ := shows
  have plain := Text.plain_of_mem_splitBreaks paired
  rcases Patch.createIn_cases files clock valid around named plain
      fun fixed carriedOut => Message.plain_of_fixedLine valid around plain texts carriedOut with
    refused | ⟨patch, fixed, made, carriedOut, exchanges⟩
  · exact .inl refused
  · obtain ⟨_, first, last⟩ := valid.context_around _ around
    have within : m.line ≤ (Text.splitBreaks source).length := by
      dsimp only at last
      omega
    exact .inr ⟨patch, fixed, made, carriedOut, fixesOpenEnded_of_exchanges some first within exchanges⟩

/-- A message on a line of a text takes the whole text for its context. With any further hints it has a
patch that fixes the line in the text, but only if the text does not end with a line feed. -/
theorem withContextValues_wholeText (files : Files) (clock : Clock) {base : Message}
    (valid : base.Valid) (named : base.file ≠ []) (some : source ≠ [])
    (paired : ¬ Text.LoneReturn source) (last : base.line ≤ (Text.splitBreaks source).length)
    (texts : ∀ h ∈ base.hints, Text.Plain h.newText) :
    ∃ shown, base.withContextValues (.integer 1) (.text source) = .ok shown ∧
      ∀ hints m, shown.withHints hints = .ok m → (∀ h ∈ hints, h.Valid) →
        (∀ h ∈ hints, Text.Plain h.newText) →
          (∃ e, createIn files m clock = .error e ∧
            Unpatchable files clock m ⟨1, Text.splitBreaks source⟩ e) ∨
          ∃ patch fixed, createIn files m clock = .ok patch ∧ m.fixedLine = .ok fixed ∧
            FixesOpenEnded patch source m.line fixed := by
  have positive : 1 ≤ base.line := Message.one_le_line valid
  have read : Context.linesOf (.text source) = .ok (Text.splitBreaks source) := rfl
  have given : base.withContextValues (.integer 1) (.text source) =
      .ok { base with context := .some ⟨1, Text.splitBreaks source⟩ } := by
    rw [Message.withContextValues_eq read]
    exact Message.withContext_of_around valid (by decide) (by omega) (by omega)
  have shows : ShowsAll { base with context := .some ⟨1, Text.splitBreaks source⟩ } source := by
    refine ⟨?_, rfl, named, texts⟩
    rw [Message.withContextValues_eq read] at given
    exact Message.valid_of_withContext valid given
  exact ⟨_, given, fun hints m hinted hintsValid plain =>
    (shows.withHints hinted hintsValid plain).createIn_cases some paired files clock⟩

/-- The same line with the same hint, in a text that ends with its last line and in one that ends with
a line feed. -/
theorem withContextValues_wholeText_bothEnds :
    (∃ shown m patch, Message.unplaced.withContextValues (.integer 1) (.text "a\r\nb".toList) =
        .ok shown ∧ shown.withHints [.insert 1 "X".toList] = .ok m ∧
        createIn .empty m noon = .ok patch ∧ apply patch "a\r\nb".toList = .ok "Xa\nb".toList) ∧
      ∃ shown m patch e, Message.unplaced.withContextValues (.integer 1) (.text "a\r\nb\n".toList) =
        .ok shown ∧ shown.withHints [.insert 1 "X".toList] = .ok m ∧
        createIn .empty m noon = .ok patch ∧ apply patch "a\r\nb\n".toList = .error (.patch e) := by
  have possible {m : Message} {c : Context} {e : Error} (named : m.file = "a.c".toList)
      (short : (Number.isWritable c.start && Number.isWritable c.lines.length) = true) :
      ¬ Unpatchable .empty noon m c e := by
    rintro (failed | ⟨_, long⟩)
    · rw [named] at failed
      cases failed
    · rw [short] at long
      cases long
  have insertion : ∀ h ∈ [Hint.insert 1 "X".toList], h.Valid ∧ Text.Plain h.newText := by decide
  constructor
  · obtain ⟨shown, given, further⟩ := @withContextValues_wholeText "a\r\nb".toList .empty noon
      Message.unplaced (by decide) (by decide) (by decide) (by decide) (by decide) (by decide)
    cases given
    rcases further [.insert 1 "X".toList] _ rfl (fun h among => (insertion h among).1)
        (fun h among => (insertion h among).2) with
      ⟨e, _, failed⟩ | ⟨patch, fixed, made, carriedOut, fixes⟩
    · exact absurd failed (possible rfl (by decide +kernel))
    · cases carriedOut
      exact ⟨_, _, patch, rfl, rfl, made, fixes.open_ended (by decide)⟩
  · obtain ⟨shown, given, further⟩ := @withContextValues_wholeText "a\r\nb\n".toList .empty noon
      Message.unplaced (by decide) (by decide) (by decide) (by decide) (by decide) (by decide)
    cases given
    rcases further [.insert 1 "X".toList] _ rfl (fun h among => (insertion h among).1)
        (fun h among => (insertion h among).2) with
      ⟨e, _, failed⟩ | ⟨patch, fixed, made, carriedOut, fixes⟩
    · exact absurd failed (possible rfl (by decide +kernel))
    · obtain ⟨e, refused⟩ := fixes.ended (by decide)
      exact ⟨_, _, patch, e, rfl, rfl, made, refused⟩

end Patch
end Diagnostics
