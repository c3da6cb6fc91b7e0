import Diagnostics.Proofs.Message.Fix
import Diagnostics.Proofs.Message.Validity
import Diagnostics.Proofs.Patch.Application
import Diagnostics.Proofs.Patch.Written

/-!
The patch of a message, applied to any text. It names the file of the message, and it can be applied
exactly to the texts that have the context at its place; there it puts the fixed line in the place of
the line of the message. It is refused with an error of patches otherwise.
-/
namespace Diagnostics

/-- The lines of a context stand among some lines at the place that their numbers say. -/
def Context.StandsIn (c : Context) (source : List Text) : Prop :=
  ∀ k < c.lines.length, source[c.start - 1 + k]? = c.lines[k]?

instance (c : Context) (source : List Text) : Decidable (c.StandsIn source) :=
  inferInstanceAs (Decidable (∀ k < c.lines.length, source[c.start - 1 + k]? = c.lines[k]?))

theorem Context.standsIn_iff {c : Context} {source : List Text} :
    c.StandsIn source ↔ c.lines <+: source.drop (c.start - 1) := by
  rw [List.prefix_iff_getElem?]
  refine forall₂_congr fun k inside => ?_
  rw [List.getElem?_drop, List.getElem?_eq_getElem inside]

namespace Patch

/-! ## The rows of a patch -/

theorem marked_of_mem_bodyRows {expected : Text} {index : Nat} {lines : List Text} {row : Text}
    (member : row ∈ bodyRows expected index lines) : Marked row := by
  obtain ⟨marker, line, rfl, isMarker, _⟩ := exists_marker_of_mem_bodyRows member
  rw [marked_cons]
  rcases isMarker with rfl | rfl | rfl <;> decide

theorem filterMap_keep (side? : Text → Option Text) (keeps : ∀ line, side? (' ' :: line) = some line)
    (lines : List Text) : (lines.map (' ' :: ·)).filterMap side? = lines := by
  have same : side? ∘ (' ' :: ·) = some := funext keeps
  rw [List.filterMap_map, same, List.filterMap_some]

/-- The rows are about the lines of the context. -/
theorem filterMap_oldLine?_bodyRows (expected : Text) (index : Nat) (lines : List Text) :
    (bodyRows expected index lines).filterMap oldLine? = lines := by
  induction lines generalizing index with
  | nil => rw [bodyRows]; rfl
  | cons line rest ih =>
    cases index with
    | zero =>
      rw [bodyRows, List.filterMap_append, filterMap_keep oldLine? fun _ => rfl]
      split <;> rfl
    | succ index => exact congrArg (line :: ·) (ih index)

/-- They leave these lines with the expected one at the focus. -/
theorem filterMap_newLine?_bodyRows (expected : Text) (index : Nat) (lines : List Text) :
    (bodyRows expected index lines).filterMap newLine? = lines.set index expected := by
  induction lines generalizing index with
  | nil => rw [bodyRows]; rfl
  | cons line rest ih =>
    cases index with
    | zero =>
      rw [bodyRows, List.filterMap_append, filterMap_keep newLine? fun _ => rfl]
      split
      · rename_i same
        rw [same]
        rfl
      · rfl
    | succ index => exact congrArg (line :: ·) (ih index)

/-! ## The one hunk of a patch -/

/-- Lines with one of them exchanged, where they stand in a source, are the source with that one
exchanged. -/
theorem take_append_set_append_drop {source lines : List Text} {position index : Nat} {line : Text}
    (stands : lines <+: source.drop position) (inside : index < lines.length) :
    source.take position ++ lines.set index line ++ source.drop (position + lines.length) =
      source.set (position + index) line := by
  obtain ⟨rest, whole⟩ := stands
  have behind : source.drop (position + lines.length) = rest := by
    rw [← List.drop_drop, ← whole, List.drop_left]
  have front : (source.take position).length = position := by
    have size := congrArg List.length whole
    rw [List.length_append, List.length_drop] at size
    rw [List.length_take]
    omega
  have further : source.set (position + index) line =
      source.take position ++ (source.drop position).set index line := by
    conv => lhs; rw [← List.take_append_drop position source]
    rw [List.set_append_right _ _ (by omega), front, Nat.add_sub_cancel_left]
  rw [behind, further, ← whole, List.set_append_left _ _ inside, List.append_assoc]

theorem Hunk.start_of_some {h : Hunk} (some : 0 < h.oldCount) : h.start = h.oldStart - 1 :=
  if_neg (Nat.ne_of_gt some)

/-- The hunk of a context fits to the sources that have the context at its place. -/
theorem fits_bodyRows_iff {source : List Text} {c : Context} {index : Nat} (expected : Text)
    (inside : index < c.lines.length) :
    Hunk.Fits ⟨c.start, c.lines.length, bodyRows expected index c.lines⟩ source ↔
      c.StandsIn source := by
  have start := Hunk.start_of_some (h := ⟨c.start, c.lines.length, bodyRows expected index c.lines⟩)
    (Nat.zero_lt_of_lt inside)
  have olds := filterMap_oldLine?_bodyRows expected index c.lines
  rw [Context.standsIn_iff, List.prefix_iff_eq_take]
  constructor
  · intro fits
    have stands := fits.stands
    rwa [Hunk.oldLines, olds, start] at stands
  · intro stands
    have size := congrArg List.length stands
    rw [List.length_take, List.length_drop] at size
    refine ⟨fun row member => marked_of_mem_bodyRows member, congrArg List.length olds, ?_, ?_⟩
    · rw [Hunk.oldLines, olds, start]
      exact stands
    · rw [start]
      dsimp only
      omega

/-- The hunk of a context replaces a line of the source, or does not fit it. -/
theorem applyHunks_bodyRows {source : List Text} {c : Context} {index : Nat} (expected : Text)
    (inside : index < c.lines.length) :
    (c.StandsIn source →
      applyHunks source 0 [⟨c.start, c.lines.length, bodyRows expected index c.lines⟩] =
        .ok (source.set (c.start - 1 + index) expected)) ∧
    (¬ c.StandsIn source → ∃ e,
      applyHunks source 0 [⟨c.start, c.lines.length, bodyRows expected index c.lines⟩] =
        .error (.patch e)) := by
  have start := Hunk.start_of_some (h := ⟨c.start, c.lines.length, bodyRows expected index c.lines⟩)
    (Nat.zero_lt_of_lt inside)
  rw [← fits_bodyRows_iff expected inside]
  rcases applyHunks_cases source 0 [⟨c.start, c.lines.length, bodyRows expected index c.lines⟩] with
    ⟨ready, applied⟩ | ⟨unready, refused⟩
  · obtain ⟨fits, _⟩ := ready_cons_iff.mp ready
    refine ⟨fun _ => ?_, fun differs => absurd fits differs⟩
    have stands := Context.standsIn_iff.mp ((fits_bodyRows_iff expected inside).mp fits)
    rw [applied, List.drop_zero, ← take_append_set_append_drop stands inside]
    simp only [exchanged, List.foldr_cons, List.foldr_nil, Hunk.exchange, Hunk.stop, Hunk.newLines,
      start, filterMap_newLine?_bodyRows]
  · refine ⟨fun fits => absurd ?_ unready, fun _ => refused⟩
    exact ready_cons_iff.mpr ⟨fits, Nat.zero_le _, nofun, .nil, nofun⟩

/-! ## From a message to the patched text -/

/-- A text with one of its lines exchanged, and with a line feed at its end if it had one. -/
def withLine (source : Text) (number : Nat) (line : Text) : Text :=
  Text.joinLines ((Text.fileLines source).set (number - 1) line) ++
    (if Text.endsIn source ['\n'] then ['\n'] else [])

/-- A patch of a file exchanges one line of the texts that have a context at its place, and is
refused for all other texts. -/
structure Exchanges (patch file : Text) (c : Context) (number : Nat) (line : Text) : Prop where
  names_file : target patch = .ok file
  fits : ∀ source, c.StandsIn (Text.fileLines source) →
    apply patch source = .ok (withLine source number line)
  refuses : ∀ source, ¬ c.StandsIn (Text.fileLines source) → ∃ e,
    apply patch source = .error (.patch e)

theorem apply_eq {patch file : Text} {h : Hunk} (named : target patch = .ok file)
    (one : hunks patch = .ok [h]) (source : Text) :
    apply patch source = (applyHunks (Text.fileLines source) 0 [h]).map fun lines =>
      Text.joinLines lines ++ (if Text.endsIn source ['\n'] then ['\n'] else []) := by
  rw [apply, named, one]
  dsimp only [bind, Except.bind]
  cases applyHunks (Text.fileLines source) 0 [h] <;> rfl

theorem plain_of_solid {file : Text} (solid : file.any Text.isBlank = false) : Text.Plain file := by
  rw [Text.Plain, List.any_eq_false]
  rw [List.any_eq_false] at solid
  exact fun c member isBreak => solid c member (Message.isBlank_of_isBreak isBreak)

theorem exchanges_written {file fixed : Text} {c : Context} {number : Nat} (modified now : Timestamp)
    (solid : file.any Text.isBlank = false) (named : file ≠ [])
    (plain : ∀ line ∈ c.lines, Text.Plain line) (fixedPlain : Text.Plain fixed)
    (startWritable : Number.isWritable c.start = true)
    (countWritable : Number.isWritable c.lines.length = true)
    (counted : 1 ≤ c.start) (first : c.start ≤ number) (last : number < c.start + c.lines.length) :
    Exchanges (written file c modified now fixed (number - c.start)) file c number fixed := by
  have filePlain := plain_of_solid solid
  have noBlank : ' ' ∉ file := fun member =>
    absurd (List.any_eq_false.mp solid ' ' member) (by decide)
  have names := target_written modified now (number - c.start) filePlain plain fixedPlain noBlank named
  have one := hunks_written modified now (number - c.start) filePlain plain fixedPlain startWritable
    countWritable
  have inside : number - c.start < c.lines.length := by omega
  have place : c.start - 1 + (number - c.start) = number - 1 := by omega
  refine ⟨names, fun source stands => ?_, fun source differs => ?_⟩
  · rw [apply_eq names one, (applyHunks_bodyRows fixed inside).1 stands, place]
    rfl
  · obtain ⟨e, refused⟩ := (applyHunks_bodyRows fixed inside).2 differs
    exact ⟨e, by rw [apply_eq names one, refused]; rfl⟩

theorem create_eq_written {m : Message} {c : Context} {fixed : Text} (modified now : Timestamp)
    (around : m.context = some c) (carriedOut : m.fixedLine = .ok fixed)
    (startWritable : Number.isWritable c.start = true)
    (countWritable : Number.isWritable c.lines.length = true) :
    create m modified now = .ok (written m.file c modified now fixed (m.line - c.start)) := by
  rw [create, around]
  dsimp only
  rw [carriedOut, startWritable, countWritable]
  rfl

section Messages
variable (files : Files) (clock : Clock) {m : Message} {c : Context}

theorem createIn_eq (around : m.context = some c) :
    createIn files m clock =
      (modifiedTime files m.file clock).bind fun modified => create m modified clock.now := by
  rw [createIn, around]

theorem exists_exchanges {modified : Timestamp} (found : modifiedTime files m.file clock = .ok modified)
    (valid : m.Valid) (around : m.context = some c) (named : m.file ≠ [])
    (plain : ∀ line ∈ c.lines, Text.Plain line)
    (fixedPlain : ∀ fixed, m.fixedLine = .ok fixed → Text.Plain fixed)
    (startWritable : Number.isWritable c.start = true)
    (countWritable : Number.isWritable c.lines.length = true) :
    ∃ patch fixed, createIn files m clock = .ok patch ∧ m.fixedLine = .ok fixed ∧
      Exchanges patch m.file c m.line fixed := by
  obtain ⟨line, _, focus⟩ := Message.exists_focusLine valid around
  have carriedOut := Message.fixedLine_of_focusLine focus
  obtain ⟨counted, first, last⟩ := valid.context_around c around
  refine ⟨_, _, ?_, carriedOut, exchanges_written modified clock.now valid.file_solid named plain
    (fixedPlain _ carriedOut) startWritable countWritable counted first last⟩
  rw [createIn_eq files clock around, found]
  exact create_eq_written modified clock.now around carriedOut startWritable countWritable

end Messages

/-- A message has a patch unless its file's time cannot be had, and the patch exchanges the line of
the message for the fixed line. -/
theorem createIn_exchanges (files : Files) (clock : Clock) {m : Message} {c : Context}
    (valid : m.Valid) (around : m.context = some c) (named : m.file ≠ [])
    (plain : ∀ line ∈ c.lines, Text.Plain line)
    (fixedPlain : ∀ fixed, m.fixedLine = .ok fixed → Text.Plain fixed)
    (startWritable : Number.isWritable c.start = true)
    (countWritable : Number.isWritable c.lines.length = true) :
    (∀ e, modifiedTime files m.file clock = .error e → createIn files m clock = .error e) ∧
    (∀ modified, modifiedTime files m.file clock = .ok modified → ∃ patch fixed,
      createIn files m clock = .ok patch ∧ m.fixedLine = .ok fixed ∧
        Exchanges patch m.file c m.line fixed) := by
  constructor
  · intro e failed
    rw [createIn_eq files clock around, failed]
    rfl
  · intro modified found
    exact exists_exchanges files clock found valid around named plain fixedPlain startWritable
      countWritable

def noon : Clock := ⟨⟨2020, 1, 2, 12, 0, 0⟩, fun _ => 0⟩

/-- A message whose context looks like rows of a patch, about the second line of it. -/
def betweenMarkers : Message where
  file := "a.c".toList
  level := .error
  location := ⟨"t".toList, some 3, none⟩
  context := some ⟨2, ["-- a".toList, "+x".toList, []]⟩
  hints := [.insert 2 ";".toList]

theorem createIn_betweenMarkers :
    ∃ patch, createIn .empty betweenMarkers noon = .ok patch ∧ target patch = .ok "a.c".toList ∧
      apply patch "y\r\n-- a\n+x\n\n".toList = .ok "y\n-- a\n+;x\n\n".toList ∧
      ∃ e, apply patch "y\n-- a\n+x".toList = .error (.patch e) := by
  have found : modifiedTime .empty betweenMarkers.file noon = .ok noon.now := by rfl
  obtain ⟨patch, fixed, made, carriedOut, exchanges⟩ :=
    (createIn_exchanges .empty noon (m := betweenMarkers) (by decide) rfl (by decide) (by decide)
      (fun fixed carriedOut => by cases carriedOut; decide) (by decide +kernel)
      (by decide +kernel)).2 noon.now found
  cases carriedOut
  exact ⟨patch, made, exchanges.names_file, exchanges.fits _ (by decide),
    exchanges.refuses _ (by decide)⟩

/-- A message about a file with a longer name than file systems allow. -/
def longName : Message where
  file := List.replicate 256 'a'
  level := .note
  location := ⟨"t".toList, none, none⟩
  context := some ⟨1, ["ab".toList]⟩
  hints := []

/-- No patch is made if the time of the file cannot be asked for. -/
theorem createIn_longName :
    longName.Valid ∧ longName.context = some ⟨1, ["ab".toList]⟩ ∧ longName.file ≠ [] ∧
      longName.fixedLine = .ok "ab".toList ∧ Text.Plain "ab".toList ∧
      Number.isWritable 1 = true ∧ createIn .empty longName noon = .error .pathTooLong :=
  ⟨by decide +kernel, rfl, by decide, rfl, by decide, by decide +kernel, by decide +kernel⟩

end Patch
end Diagnostics
