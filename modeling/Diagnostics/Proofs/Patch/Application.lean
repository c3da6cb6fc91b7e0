import Diagnostics.Proofs.Patch.Hunks
import Mathlib.Data.List.Chain

/-!
Patches applied to any text. A patch applies exactly if each of its hunks fits to the source and they
are in order, and then the lines of each hunk are exchanged for its new ones. Everything else is
refused with an error of patches.
-/
namespace Diagnostics.Patch

/-! ## Rows -/

/-- A row is empty or starts with a marker. -/
def Marked : Text → Prop
  | [] => True
  | c :: _ => c ∈ [' ', '-', '+', '\\']

instance : (row : Text) → Decidable (Marked row)
  | [] => isTrue trivial
  | c :: _ => inferInstanceAs (Decidable (c ∈ [' ', '-', '+', '\\']))

/-- The line of the source that a row is about. -/
def oldLine? : Text → Option Text
  | [] => some []
  | marker :: line => if marker = ' ' ∨ marker = '-' then some line else none

/-- The line that is there after a row. -/
def newLine? : Text → Option Text
  | [] => some []
  | marker :: line => if marker = ' ' ∨ marker = '+' then some line else none

theorem marked_cons {c : Char} {line : Text} : Marked (c :: line) ↔ c ∈ [' ', '-', '+', '\\'] :=
  Iff.rfl

theorem ofText_of_not_marked {row : Text} (unmarked : ¬ Marked row) : Row.ofText row = .invalid := by
  unfold Row.ofText
  split
  · exact absurd trivial unmarked
  · exact absurd (marked_cons.mpr (by decide)) unmarked
  · exact absurd (marked_cons.mpr (by decide)) unmarked
  · exact absurd (marked_cons.mpr (by decide)) unmarked
  · exact absurd (marked_cons.mpr (by decide)) unmarked
  · rfl

theorem cons_prefix_drop_iff {source rest : List Text} {line : Text} {position : Nat} :
    line :: rest <+: source.drop position ↔
      source[position]? = some line ∧ rest <+: source.drop (position + 1) := by
  have tail : source.drop (position + 1) = (source.drop position).drop 1 := by rw [List.drop_drop]
  rw [tail, ← List.head?_drop]
  cases source.drop position with
  | nil => simp
  | cons first others => simp [List.cons_prefix_cons, eq_comm]

/-- The old lines of rows stand in a source from a position on. -/
def Stand (source : List Text) (position : Nat) (rows : List Text) : Prop :=
  (∀ row ∈ rows, Marked row) ∧ rows.filterMap oldLine? <+: source.drop position

section Rows
variable {source rest : List Text} {position : Nat} {row line : Text}

theorem stand_cons_old (old : oldLine? row = some line) :
    Stand source position (row :: rest) ↔
      Marked row ∧ source[position]? = some line ∧ Stand source (position + 1) rest := by
  rw [Stand, Stand, List.forall_mem_cons, List.filterMap_cons_some old, cons_prefix_drop_iff]
  constructor
  · rintro ⟨⟨marked, others⟩, here, further⟩
    exact ⟨marked, here, others, further⟩
  · rintro ⟨marked, here, others, further⟩
    exact ⟨⟨marked, others⟩, here, further⟩

theorem stand_cons_other (none : oldLine? row = none) :
    Stand source position (row :: rest) ↔ Marked row ∧ Stand source position rest := by
  rw [Stand, Stand, List.forall_mem_cons, List.filterMap_cons_none none, and_assoc]

/-- What rows make of a source, behind a row that leaves a line or none. -/
def leaving (row : Text) : List Text × Nat → List Text × Nat
  | (lines, stop) => ((newLine? row).toList ++ lines, stop)

theorem leaving_filterMap (row : Text) (rest : List Text) (stop : Nat) :
    leaving row (rest.filterMap newLine?, stop) = ((row :: rest).filterMap newLine?, stop) := by
  cases new : newLine? row with
  | none => rw [leaving, new, List.filterMap_cons_none new]; rfl
  | some line => rw [leaving, new, List.filterMap_cons_some new]; rfl

theorem map_leaving_nothing {made : Outcome (List Text × Nat)} (none : newLine? row = none) :
    made.map (leaving row) = made := by
  have same : leaving row = id := funext fun ⟨lines, stop⟩ => by rw [leaving, none]; rfl
  rw [same]
  cases made <;> rfl

theorem applyRows_other (marked : Marked row) (none : oldLine? row = none) :
    applyRows source position (row :: rest) = (applyRows source position rest).map (leaving row) := by
  cases row with
  | nil => cases none
  | cons marker line =>
    simp only [marked_cons, List.mem_cons, List.not_mem_nil, or_false] at marked
    rcases marked with rfl | rfl | rfl | rfl
    · cases none
    · cases none
    · rw [applyRows, Row.ofText]; rfl
    · rw [map_leaving_nothing rfl, applyRows, Row.ofText]

theorem applyRows_old (marked : Marked row) (old : oldLine? row = some line) :
    applyRows source position (row :: rest) =
      if source[position]? = some line then
        (applyRows source (position + 1) rest).map (leaving row)
      else .error (.patch (.mismatch (position + 1))) := by
  cases row with
  | nil =>
    cases old
    rw [applyRows, Row.ofText]; rfl
  | cons marker text =>
    simp only [marked_cons, List.mem_cons, List.not_mem_nil, or_false] at marked
    rcases marked with rfl | rfl | rfl | rfl
    · cases old
      rw [applyRows, Row.ofText]; rfl
    · cases old
      rw [map_leaving_nothing rfl, applyRows, Row.ofText]
    · cases old
    · cases old

end Rows

/-- Rows either read their old lines and leave the new ones, or are refused. -/
theorem applyRows_cases (source : List Text) (position : Nat) (rows : List Text) :
    (Stand source position rows ∧ applyRows source position rows =
      .ok (rows.filterMap newLine?, position + (rows.filterMap oldLine?).length)) ∨
    (¬ Stand source position rows ∧ ∃ e, applyRows source position rows = .error (.patch e)) := by
  induction rows generalizing position with
  | nil => exact .inl ⟨⟨nofun, List.nil_prefix⟩, rfl⟩
  | cons row rest ih =>
    by_cases marked : Marked row
    · cases old : oldLine? row with
      | none =>
        rw [stand_cons_other old, applyRows_other marked old, List.filterMap_cons_none old,
          ← leaving_filterMap]
        rcases ih position with ⟨stand, applied⟩ | ⟨differ, e, refused⟩
        · exact .inl ⟨⟨marked, stand⟩, by rw [applied]; rfl⟩
        · exact .inr ⟨fun stand => differ stand.2, e, by rw [refused]; rfl⟩
      | some line =>
        have further : position + (line :: rest.filterMap oldLine?).length =
            position + 1 + (rest.filterMap oldLine?).length := by rw [List.length_cons]; omega
        rw [stand_cons_old old, applyRows_old marked old, List.filterMap_cons_some old,
          ← leaving_filterMap, further]
        by_cases here : source[position]? = some line
        · rw [if_pos here]
          rcases ih (position + 1) with ⟨stand, applied⟩ | ⟨differ, e, refused⟩
          · exact .inl ⟨⟨marked, here, stand⟩, by rw [applied]; rfl⟩
          · exact .inr ⟨fun stand => differ stand.2.2, e, by rw [refused]; rfl⟩
        · rw [if_neg here]
          exact .inr ⟨fun stand => here stand.2.1, _, rfl⟩
    · refine .inr ⟨fun stand => marked (stand.1 row List.mem_cons_self), .invalidRow row, ?_⟩
      rw [applyRows, ofText_of_not_marked marked]

/-! ## One hunk -/

namespace Hunk

/-- The lines of the source that a hunk is about. -/
def oldLines (h : Hunk) : List Text := h.rows.filterMap oldLine?

/-- The lines that are in their place afterwards. -/
def newLines (h : Hunk) : List Text := h.rows.filterMap newLine?

def stop (h : Hunk) : Nat := h.start + h.oldCount

/-- A hunk can be applied to a source: its rows say something, and its old lines are as many as it
says and those of the source at its place. -/
structure Fits (h : Hunk) (source : List Text) : Prop where
  marked : ∀ row ∈ h.rows, Marked row
  counted : h.oldLines.length = h.oldCount
  stands : h.oldLines = (source.drop h.start).take h.oldCount
  inside : h.start ≤ source.length

/-- Lines with the new lines of a hunk in the place of its old ones. -/
def exchange (h : Hunk) (lines : List Text) : List Text :=
  lines.take h.start ++ h.newLines ++ lines.drop h.stop

theorem fits_iff_stand {h : Hunk} {source : List Text} (inside : h.start ≤ source.length) :
    h.Fits source ↔ Stand source h.start h.rows ∧ h.oldLines.length = h.oldCount := by
  constructor
  · intro fits
    refine ⟨⟨fits.marked, ?_⟩, fits.counted⟩
    have stands := fits.stands
    rw [← fits.counted] at stands
    exact List.prefix_iff_eq_take.mpr stands
  · rintro ⟨⟨marked, stands⟩, counted⟩
    refine ⟨marked, counted, ?_, inside⟩
    rw [← counted]
    exact List.prefix_iff_eq_take.mp stands

end Hunk

theorem applyHunk_cases {h : Hunk} {source : List Text} (inside : h.start ≤ source.length) :
    (h.Fits source ∧ applyHunk source h = .ok (h.newLines, h.stop)) ∨
    (¬ h.Fits source ∧ ∃ e, applyHunk source h = .error (.patch e)) := by
  rw [Hunk.fits_iff_stand inside, applyHunk]
  rcases applyRows_cases source h.start h.rows with ⟨stand, applied⟩ | ⟨differ, e, refused⟩
  · rw [applied]
    simp only [Except.bind, Nat.add_sub_cancel_left]
    by_cases counted : h.oldLines.length = h.oldCount
    · refine .inl ⟨⟨stand, counted⟩, ?_⟩
      rw [← Hunk.oldLines, if_pos counted, counted]
      rfl
    · exact .inr ⟨fun fits => counted fits.2, _, if_neg counted⟩
  · exact .inr ⟨fun fits => differ fits.1, e, by rw [refused]; rfl⟩

/-! ## All hunks in order -/

def After (h next : Hunk) : Prop := h.stop ≤ next.start

/-- Lines with those of all hunks exchanged. It is done from the last one to the first one, so no
hunk moves the lines of another one. -/
def exchanged (found : List Hunk) (source : List Text) : List Text := found.foldr Hunk.exchange source

/-- Hunks can be applied to what is left of a source behind some lines. -/
structure Ready (source : List Text) (cursor : Nat) (found : List Hunk) : Prop where
  fits : ∀ h ∈ found, h.Fits source
  in_order : found.IsChain After
  behind : ∀ first ∈ found.head?, cursor ≤ first.start

theorem ready_cons_iff {source : List Text} {cursor : Nat} {h : Hunk} {rest : List Hunk} :
    Ready source cursor (h :: rest) ↔ h.Fits source ∧ cursor ≤ h.start ∧ Ready source h.stop rest := by
  constructor
  · rintro ⟨fits, inOrder, behind⟩
    rw [List.forall_mem_cons] at fits
    rw [List.isChain_cons] at inOrder
    exact ⟨fits.1, behind h rfl, fits.2, inOrder.2, inOrder.1⟩
  · rintro ⟨fits, behind, others, inOrder, further⟩
    exact ⟨List.forall_mem_cons.mpr ⟨fits, others⟩, List.isChain_cons.mpr ⟨further, inOrder⟩,
      by rintro _ ⟨⟩; exact behind⟩

theorem Ready.mono {source : List Text} {cursor further : Nat} {found : List Hunk}
    (ready : Ready source further found) (before : cursor ≤ further) : Ready source cursor found :=
  ⟨ready.fits, ready.in_order, fun first head => before.trans (ready.behind first head)⟩

theorem exchanged_cons {source : List Text} {h : Hunk} {rest : List Hunk}
    (untouched : (exchanged rest source).take h.start = source.take h.start) :
    exchanged (h :: rest) source =
      source.take h.start ++ (h.newLines ++ (exchanged rest source).drop h.stop) := by
  rw [← untouched, ← List.append_assoc]
  rfl

theorem take_exchanged {found : List Hunk} {source : List Text} {cursor : Nat}
    (ready : Ready source cursor found) :
    (exchanged found source).take cursor = source.take cursor := by
  induction found generalizing cursor with
  | nil => rfl
  | cons h rest ih =>
    obtain ⟨fits, before, others⟩ := ready_cons_iff.mp ready
    have untouched := ih (others.mono (Nat.le_add_right h.start h.oldCount))
    have reach : cursor ≤ (source.take h.start).length := by
      rw [List.length_take, Nat.min_eq_left fits.inside]
      exact before
    rw [exchanged_cons untouched, List.take_append_of_le_length reach, List.take_take,
      Nat.min_eq_left before]

theorem applyHunks_cases (source : List Text) (cursor : Nat) (found : List Hunk) :
    (Ready source cursor found ∧
      applyHunks source cursor found = .ok ((exchanged found source).drop cursor)) ∨
    (¬ Ready source cursor found ∧ ∃ e, applyHunks source cursor found = .error (.patch e)) := by
  induction found generalizing cursor with
  | nil => exact .inl ⟨⟨nofun, .nil, nofun⟩, rfl⟩
  | cons h rest ih =>
    rw [applyHunks, ready_cons_iff]
    by_cases outside : h.start < cursor ∨ source.length < h.start
    · rw [if_pos outside]
      refine .inr ⟨?_, _, rfl⟩
      rintro ⟨fits, before, _⟩
      have inside := fits.inside
      omega
    · rw [not_or, Nat.not_lt, Nat.not_lt] at outside
      obtain ⟨before, inside⟩ := outside
      rw [if_neg (by omega)]
      rcases applyHunk_cases inside with ⟨fits, applied⟩ | ⟨differs, e, refused⟩
      -- The rest of the source starts behind this hunk, so what it becomes has the lines before it.
      · rw [applied]
        simp only [bind, Except.bind]
        rcases ih h.stop with ⟨others, made⟩ | ⟨unready, e, refused⟩
        · refine .inl ⟨⟨fits, before, others⟩, ?_⟩
          have untouched := take_exchanged (others.mono (Nat.le_add_right h.start h.oldCount))
          have reach : cursor ≤ (source.take h.start).length := by
            rw [List.length_take, Nat.min_eq_left inside]
            exact before
          rw [made, exchanged_cons untouched, List.drop_append_of_le_length reach,
            ← List.append_assoc]
          rfl
        · exact .inr ⟨fun ready => unready ready.2.2, e, by rw [refused]⟩
      · exact .inr ⟨fun ready => differs ready.1, e, by rw [refused]; rfl⟩

/-! ## Whole patches -/

/-- The first line of a patch is the header of a file with a name. -/
def NamesFile (patch : Text) : Prop :=
  ∃ c rest, (Text.fileLines patch).head? = some ("--- ".toList ++ c :: rest) ∧ c ≠ ' '

theorem target_cases (patch : Text) :
    (NamesFile patch ∧ ∃ file, target patch = .ok file) ∨
    (¬ NamesFile patch ∧ ∃ e, target patch = .error (.patch e)) := by
  rw [target, NamesFile]
  cases first : (Text.fileLines patch).head?.bind (behind? "--- ".toList) with
  | none =>
    refine .inr ⟨?_, _, rfl⟩
    rintro ⟨c, rest, head, _⟩
    rw [head, Option.bind_some, behind?_append] at first
    cases first
  | some rest =>
    obtain ⟨line, head, named⟩ := Option.bind_eq_some_iff.mp first
    rw [behind?_eq_some_iff] at named
    subst named
    dsimp only
    cases rest with
    | nil =>
      refine .inr ⟨?_, _, rfl⟩
      rintro ⟨c, rest, other, _⟩
      cases head.symm.trans other
    | cons c rest =>
      by_cases blank : c = ' '
      · subst blank
        refine .inr ⟨?_, _, rfl⟩
        rintro ⟨c, rest, other, solid⟩
        cases head.symm.trans other
        exact solid rfl
      · rw [List.takeWhile_cons_of_pos (by simpa using blank)]
        exact .inl ⟨⟨c, rest, head, blank⟩, _, rfl⟩

/-- A patch that applies to a source, and its hunks. -/
structure Applies (patch : Text) (source : List Text) (found : List Hunk) : Prop where
  names_file : NamesFile patch
  starts_hunk : ∃ line, (Text.fileLines patch)[2]? = some line ∧ IsHeader line
  consists : Consists ((Text.fileLines patch).drop 2) found
  fits : ∀ h ∈ found, h.Fits source
  in_order : found.IsChain After

/-- A source with the lines of hunks exchanged. It ends with a line feed if and only if it did so. -/
def patched (found : List Hunk) (source : Text) : Text :=
  Text.joinLines (exchanged found (Text.fileLines source)) ++
    (if Text.endsIn source ['\n'] then ['\n'] else [])

section Applying
variable {patch : Text}

theorem applies_iff_ready {source : List Text} {found : List Hunk} :
    Applies patch source found ↔ NamesFile patch ∧
      (found ≠ [] ∧ Consists ((Text.fileLines patch).drop 2) found) ∧ Ready source 0 found := by
  constructor
  · rintro ⟨named, starts, consists, fits, inOrder⟩
    rw [← List.head?_drop] at starts
    obtain ⟨others, some, also⟩ := exists_consists_iff.mpr starts
    rw [consists.unique also]
    rw [consists.unique also] at fits inOrder
    exact ⟨named, ⟨some, also⟩, fits, inOrder, fun first _ => Nat.zero_le _⟩
  · rintro ⟨named, consists, ready⟩
    refine ⟨named, ?_, consists.2, ready.fits, ready.in_order⟩
    rw [← List.head?_drop]
    exact exists_consists_iff.mp ⟨found, consists⟩

theorem apply_cases
    (readable : ∀ line ∈ (Text.fileLines patch).drop 2, ∀ old, Announces line old → old.Readable)
    (source : Text) :
    (∃ found, Applies patch (Text.fileLines source) found ∧
      apply patch source = .ok (patched found source)) ∨
    ((¬ ∃ found, Applies patch (Text.fileLines source) found) ∧
      ∃ e, apply patch source = .error (.patch e)) := by
  simp only [applies_iff_ready]
  rw [apply]
  rcases target_cases patch with ⟨named, file, found⟩ | ⟨unnamed, e, refused⟩
  · rw [found]
    by_cases some : ∃ found, found ≠ [] ∧ Consists ((Text.fileLines patch).drop 2) found
    · obtain ⟨found, some, consists⟩ := some
      rw [hunks_of_consists some readable consists]
      rcases applyHunks_cases (Text.fileLines source) 0 found with
        ⟨ready, applied⟩ | ⟨unready, e, refused⟩
      · refine .inl ⟨found, ⟨named, ⟨some, consists⟩, ready⟩, ?_⟩
        simp only [bind, Except.bind, applied]
        rfl
      · refine .inr ⟨?_, e, by simp only [bind, Except.bind, refused]⟩
        rintro ⟨others, _, ⟨_, also⟩, ready⟩
        exact unready (consists.unique also ▸ ready)
    · obtain ⟨e, refused⟩ := hunks_refused some
      refine .inr ⟨?_, e, by rw [refused]; rfl⟩
      rintro ⟨found, _, consists, _⟩
      exact some ⟨found, consists⟩
  · refine .inr ⟨?_, e, by rw [refused]; rfl⟩
    rintro ⟨found, named, _⟩
    exact unnamed named

theorem target_eq_of_sameOld {other : Text}
    (same : List.Forall₂ SameOld (Text.fileLines patch) (Text.fileLines other)) :
    target patch = target other := by
  have heads : (Text.fileLines patch).head?.bind (behind? "--- ".toList) =
      (Text.fileLines other).head?.bind (behind? "--- ".toList) := by
    generalize Text.fileLines patch = lines, Text.fileLines other = others at same
    cases same with
    | nil => rfl
    | cons first _ =>
      rcases first with rfl | ⟨old, ⟨_, _, _, _, rfl⟩, ⟨_, _, _, _, rfl⟩⟩
      · rfl
      · rfl
  rw [target, heads, ← target]

theorem apply_eq_of_sameOld {other : Text}
    (same : List.Forall₂ SameOld (Text.fileLines patch) (Text.fileLines other)) (source : Text) :
    apply patch source = apply other source := by
  have hunksSame : hunks patch = hunks other := by
    rw [hunks, hunks, group_eq_of_sameOld (List.forall₂_drop 2 same)]
  rw [apply, apply, target_eq_of_sameOld same, hunksSame]

/-- A patch is applied to a source exactly if it names a file, consists of hunks, and all of them fit
to the source in their order, and it is refused with an error of patches otherwise. Only the old
sides of its headers matter. -/
theorem apply_eq_ok_iff_applies
    (readable : ∀ line ∈ (Text.fileLines patch).drop 2, ∀ old, Announces line old → old.Readable)
    (source : Text) :
    (∀ result, apply patch source = .ok result ↔
      ∃ found, Applies patch (Text.fileLines source) found ∧ result = patched found source) ∧
    ((∃ result, apply patch source = .ok result) ∨ ∃ e, apply patch source = .error (.patch e)) ∧
    ∀ other, List.Forall₂ SameOld (Text.fileLines patch) (Text.fileLines other) →
      apply other source = apply patch source := by
  refine ⟨fun result => ?_, ?_, fun other same => (apply_eq_of_sameOld same source).symm⟩
  · rcases apply_cases readable source with ⟨found, applies, applied⟩ | ⟨none, e, refused⟩
    · rw [applied, Except.ok.injEq]
      constructor
      · rintro rfl
        exact ⟨found, applies, rfl⟩
      · rintro ⟨others, also, rfl⟩
        rw [applies.consists.unique also.consists]
    · rw [refused]
      exact ⟨nofun, fun ⟨found, applies, _⟩ => absurd ⟨found, applies⟩ none⟩
  · rcases apply_cases readable source with ⟨found, _, applied⟩ | ⟨_, refused⟩
    · exact .inl ⟨_, applied⟩
    · exact .inr refused

end Applying

/-- A patch with an old line exchanged, an insertion, a comment, and an empty row for an empty line. -/
def threeHunks : Text :=
  "--- a.c\n+++ b\n@@ -1 +1,2 @@\n-a\n+A\n\\ no feed\n+x\n@@ -2,0 +4 @@\n+y\n@@ -4,2 +6,2 @@ f\n d\n\n".toList

theorem apply_threeHunks :
    apply threeHunks "a\nb\nc\nd\n\ne\n".toList = .ok "A\nx\nb\ny\nc\nd\n\ne\n".toList := by
  have short : ∀ line ∈ (Text.fileLines threeHunks).drop 2, line.length ≤ Number.digitLimit := by
    decide +kernel
  have readable : ∀ line ∈ (Text.fileLines threeHunks).drop 2, ∀ old, Announces line old →
      old.Readable := fun line member old announces => announces.readable (short line member)
  have grouped : group ((Text.fileLines threeHunks).drop 2) = ([],
      [(⟨"1".toList, none⟩, ["-a".toList, "+A".toList, "\\ no feed".toList, "+x".toList]),
        (⟨"2".toList, some "0".toList⟩, ["+y".toList]),
        (⟨"4".toList, some "2".toList⟩, [" d".toList, []])]) := by decide +kernel
  have starts : header? "@@ -1 +1,2 @@".toList = some ⟨"1".toList, none⟩ := by decide +kernel
  obtain ⟨_, _, rest, cut, consists⟩ := consists_of_group ((Text.fileLines threeHunks).drop 2)
  rw [grouped, List.nil_append] at cut
  rw [grouped, ← cut] at consists
  refine ((apply_eq_ok_iff_applies readable _).1 _).mpr ⟨_, ⟨⟨'a', ".c".toList, rfl, by decide⟩,
    ⟨_, rfl, _, header?_eq_some_iff.mp starts⟩, consists, ?_, ?_⟩, ?_⟩
  · intro h member
    simp only [List.map_cons, List.map_nil, List.mem_cons, List.not_mem_nil, or_false] at member
    rcases member with rfl | rfl | rfl <;> exact ⟨by decide, by decide, by decide, by decide⟩
  · simp only [List.map_cons, List.map_nil, List.isChain_cons_cons, List.isChain_singleton, After]
    decide
  · decide +kernel

end Diagnostics.Patch
