import Diagnostics.Proofs.Toml.Faults

/-!
Faults of strings, keys, dates, times and numbers. The deepest of them is a code point in hexadecimal
digits, which stands in a string, which may stand in a key. Only a decimal number can be too long, and
its digits are those that it takes off the text.
-/
namespace Diagnostics.Toml
variable {room fuel : Nat} {text rest : Text}

/-! ## Strings -/

theorem reads_hexChar (room width : Nat) (text : Text) :
    Reads Prod.snd 3 room text (hexChar room width text) := by
  rw [hexChar]
  refine .bind (reads_need _ (by omega)) fun _ => .bind (reads_need _ (by omega)) fun _ =>
    .bind (reads_need _ (by omega)) fun _ => ?_
  split
  · exact .malformed
  split
  · exact .malformed
  split
  · exact List.drop_suffix width text
  · exact .malformed

theorem reads_lineContinuation (room : Nat) (text : Text) :
    Reads id 0 room text (lineContinuation text) := by
  have blanks := skipSpace_suffix text
  unfold lineContinuation
  split
  next rest found =>
    rw [found] at blanks
    exact (List.dropWhile_suffix _).trans ((List.suffix_cons _ rest).trans blanks)
  next => exact List.nil_suffix
  next => exact .malformed

theorem reads_basicChars (room : Nat) (rows : Bool) (fuel : Nat) (text : Text) :
    Reads Prod.snd (escapeSteps rows + 3) room text (basicChars room rows fuel text) := by
  have three : 3 ≤ escapeSteps rows := by cases rows <;> decide
  induction fuel generalizing text with
  | zero => exact .malformed
  | succ fuel ih =>
    unfold basicChars
    split
    next => exact .malformed
    next rest =>
      have behind : rest <:+ '"' :: rest := List.suffix_cons _ _
      split
      next =>
        refine .bind (reads_need _ (by omega)) fun _ => ?_
        dsimp only
        split
        next last => exact List.suffix_append [_, _, _] last
        next => exact .map ((ih rest).part behind (by omega)) fun _ => rfl
      next => exact behind
    next c rest =>
      have behind : rest <:+ '\\' :: c :: rest := List.suffix_append [_, _] rest
      refine .bind (reads_need _ (by omega)) fun _ => ?_
      dsimp only
      split
      next =>
        refine .bind (reads_need _ (by omega)) fun _ => ?_
        have continued := reads_lineContinuation room (c :: rest)
        exact .bind (continued.part (List.suffix_cons _ _) (by omega)) ih
      next =>
        split
        next =>
          refine .bind ((reads_hexChar (room - escapeSteps rows) _ rest).part behind (by omega)) ?_
          rintro ⟨char, rest⟩
          exact .bind (ih rest) fun _ => List.suffix_refl _
        next =>
          split
          · exact .malformed
          · exact .map ((ih rest).part behind (by omega)) fun _ => rfl
    next c rest _ _ =>
      split
      · exact .malformed
      · exact .map ((ih rest).part (List.suffix_cons _ _) (by omega)) fun _ => rfl

theorem reads_basicString (room : Nat) (text : Text) :
    Reads Prod.snd 6 room text (basicString room text) :=
  .bind (reads_need _ (by omega)) fun _ => reads_basicChars room false _ text

theorem reads_basicRows (room : Nat) (text : Text) :
    Reads Prod.snd 7 room text (basicRows room text) :=
  .bind (reads_need _ (by omega)) fun _ => reads_basicChars room true _ text

theorem reads_literalString (room : Nat) (text : Text) :
    Reads Prod.snd 3 room text (literalString room text) := by
  rw [literalString]
  refine .bind (reads_need _ (by omega)) fun _ => .bind (reads_need _ (by omega)) fun _ => ?_
  have behind : (text.span (· != '\'')).2 <:+ text := by
    rw [List.span_eq_takeWhile_dropWhile]
    exact List.dropWhile_suffix _
  split
  next chars rest cut =>
    rw [cut] at behind
    split
    · exact .malformed
    · exact (List.suffix_cons _ rest).trans behind
  next => exact .malformed

theorem reads_literalRows (room : Nat) (text : Text) :
    Reads Prod.snd 0 room text (literalRows text) := by
  fun_induction literalRows text with
  | case1 rest => exact List.suffix_append [_, _, _] rest
  | case2 => exact .malformed
  | case3 => exact .malformed
  | case4 c rest _ _ ih => exact .map (ih.part (List.suffix_cons _ _) (by omega)) fun _ => rfl

theorem reads_literalText (room : Nat) (text : Text) :
    Reads Prod.snd 3 room text (literalText room text) :=
  .bind (reads_need _ (by omega)) fun _ => (reads_literalRows room text).more (by omega)

theorem extraQuotes_suffix (quote : Char) (found : Text × Text) :
    (extraQuotes quote found).2 <:+ found.2 := by
  unfold extraQuotes
  split
  · split
    · split
      · exact List.suffix_append [_, _] _
      · exact List.suffix_cons _ _
    · exact List.suffix_refl _
  · split
    · exact List.nil_suffix
    · exact List.suffix_refl _
  · exact List.suffix_refl _

theorem reads_string? {found : Except Fault (Text × Text)}
    (opened : string? room text = some found) : Reads Prod.snd 7 room text found := by
  unfold string? at opened
  split at opened
  next rest =>
    cases opened
    refine .shrink ?_ (extraQuotes_suffix _)
    have inner := reads_basicRows room (skipFeed rest)
    exact inner.part ((skipFeed_suffix rest).trans (List.suffix_append [_, _, _] rest)) (by omega)
  next rest _ =>
    cases opened
    exact (reads_basicString room rest).part (List.suffix_cons _ _) (by omega)
  next rest =>
    cases opened
    refine .shrink ?_ (extraQuotes_suffix _)
    have inner := reads_literalText room (skipFeed rest)
    exact inner.part ((skipFeed_suffix rest).trans (List.suffix_append [_, _, _] rest)) (by omega)
  next rest _ =>
    cases opened
    exact (reads_literalString room rest).part (List.suffix_cons _ _) (by omega)
  next => cases opened

/-! ## Keys -/

theorem reads_keyPart (room : Nat) (text : Text) :
    Reads Prod.snd 6 room text (keyPart room text) := by
  unfold keyPart
  split
  next rest => exact (reads_basicString room rest).part (List.suffix_cons _ _) (by omega)
  next rest => exact (reads_literalString room rest).part (List.suffix_cons _ _) (by omega)
  next =>
    refine .bind (reads_need _ (by omega)) fun _ => ?_
    have behind : (text.span isBareChar).2 <:+ text := by
      rw [List.span_eq_takeWhile_dropWhile]
      exact List.dropWhile_suffix _
    split
    next => exact .malformed
    next name rest _ cut =>
      rw [cut] at behind
      exact behind

theorem reads_key (room fuel : Nat) (text : Text) :
    Reads Prod.snd 8 room text (key room fuel text) := by
  induction fuel generalizing text with
  | zero => exact .malformed
  | succ fuel ih =>
    rw [key]
    refine .bind ((reads_keyPart (room - 2) text).more (by omega)) ?_
    rintro ⟨part, rest⟩
    have blanks := skipSpace_suffix rest
    dsimp only
    split
    next behind found =>
      rw [found] at blanks
      have later := (ih (skipSpace behind)).part
        ((skipSpace_suffix behind).trans ((List.suffix_cons _ behind).trans blanks)) (Nat.le_refl _)
      exact .bind later fun _ => List.suffix_refl _
    next => exact blanks

/-! ## Dates and times -/

theorem twoDigits?_suffix {low high n : Nat} (found : twoDigits? low high text = some (n, rest)) :
    rest <:+ text := by
  unfold twoDigits? at found
  split at found
  next a b behind =>
    dsimp only at found
    split at found
    · split at found
      · cases found
        exact List.suffix_append [a, b] rest
      · cases found
    · cases found
  next => cases found

theorem behindChar?_suffix {c : Char} (found : behindChar? c text = some rest) : rest <:+ text := by
  unfold behindChar? at found
  split at found
  next d behind =>
    split at found
    · cases found
      exact List.suffix_cons d rest
    · cases found
  next => cases found

theorem behindTime?_suffix (found : behindTime? text = some rest) : rest <:+ text := by
  simp only [behindTime?, Option.bind_eq_bind, Option.bind_eq_some_iff, Prod.exists] at found
  obtain ⟨_, hours, atHours, minutes, toMinutes, _, seconds, atMinutes, last, toSeconds, _, behind,
    atSeconds, found⟩ := found
  have within : behind <:+ text :=
    (twoDigits?_suffix atSeconds).trans ((behindChar?_suffix toSeconds).trans
      ((twoDigits?_suffix atMinutes).trans ((behindChar?_suffix toMinutes).trans
        (twoDigits?_suffix atHours))))
  split at found
  next =>
    split at found
    · cases found
      exact (List.dropWhile_suffix _).trans ((List.suffix_append [_, _] _).trans within)
    · cases found
      exact within
  next =>
    cases found
    exact within

theorem getD_suffix {found : Option Text} {default : Text} (absent : default <:+ text)
    (there : ∀ behind, found = some behind → behind <:+ text) : found.getD default <:+ text := by
  cases found with
  | none => exact absent
  | some behind => exact there behind rfl

theorem behindZone_suffix (text : Text) : behindZone text <:+ text := by
  unfold behindZone
  split
  next c rest =>
    split
    · exact List.suffix_cons c rest
    split
    · refine getD_suffix (List.suffix_refl _) fun behind offset => ?_
      simp only [Option.bind_eq_bind, Option.bind_eq_some_iff, Prod.exists, Option.pure_def,
        Option.some.injEq] at offset
      obtain ⟨_, hours, atHours, minutes, toMinutes, _, last, atMinutes, rfl⟩ := offset
      exact (twoDigits?_suffix atMinutes).trans ((behindChar?_suffix toMinutes).trans
        ((twoDigits?_suffix atHours).trans (List.suffix_cons c rest)))
    · exact List.suffix_refl _
  next => exact List.suffix_refl _

theorem date?_suffix {year month day : Nat} (found : date? text = some (year, month, day, rest)) :
    rest <:+ text := by
  simp only [date?, Option.bind_eq_bind, Option.bind_eq_some_iff, Prod.exists, Option.pure_def,
    Option.some.injEq, Prod.mk.injEq] at found
  obtain ⟨_, years, atCentury, _, months, atYear, monthDigits, toMonth, _, days, atMonth, dayDigits,
    toDay, _, last, atDay, -, -, -, rfl⟩ := found
  exact (twoDigits?_suffix atDay).trans ((behindChar?_suffix toDay).trans
    ((twoDigits?_suffix atMonth).trans ((behindChar?_suffix toMonth).trans
      ((twoDigits?_suffix atYear).trans (twoDigits?_suffix atCentury)))))

theorem behindDateTime_suffix (text : Text) : behindDateTime text <:+ text := by
  unfold behindDateTime
  split
  next c rest =>
    split
    · split
      next behind found =>
        exact (behindZone_suffix behind).trans
          ((behindTime?_suffix found).trans (List.suffix_cons c rest))
      next => exact List.suffix_refl _
    · exact List.suffix_refl _
  next => exact List.suffix_refl _

theorem reads_moment? {found : Except Fault (Value × Text)} (there : moment? text = some found) :
    Reads Prod.snd 0 room text found := by
  unfold moment? at there
  dsimp only at there
  split at there
  next year month day rest date =>
    split at there
    · cases there
      exact .malformed
    · cases there
      exact (behindDateTime_suffix rest).trans (date?_suffix date)
  next =>
    obtain ⟨rest, time, rfl⟩ := Option.map_eq_some_iff.mp there
    exact behindTime?_suffix time

/-! ## Numbers -/

/-- Digits are what a run holds besides low lines. -/
theorem moreDigits_run {isDigit : Char → Bool} (noLine : isDigit '_' = false) (text : Text) :
    ∃ run, text = run ++ (moreDigits isDigit text).2 ∧ (∀ c ∈ run, isDigit c = true ∨ c = '_') ∧
      run.filter isDigit = (moreDigits isDigit text).1 := by
  fun_induction moreDigits isDigit text with
  | case1 d rest digit digits behind more ih =>
    obtain ⟨run, whole, among, same⟩ := ih
    rw [more] at whole same
    refine ⟨'_' :: d :: run, by rw [whole]; rfl, ?_, ?_⟩
    · exact List.forall_mem_cons.mpr ⟨.inr rfl, List.forall_mem_cons.mpr ⟨.inl digit, among⟩⟩
    · rw [List.filter_cons_of_neg (by simp [noLine]), List.filter_cons_of_pos digit, same]
  | case2 d rest other => exact ⟨[], rfl, by simp, rfl⟩
  | case3 d rest _ digit digits behind more ih =>
    obtain ⟨run, whole, among, same⟩ := ih
    rw [more] at whole same
    refine ⟨d :: run, by rw [whole]; rfl, List.forall_mem_cons.mpr ⟨.inl digit, among⟩, ?_⟩
    rw [List.filter_cons_of_pos digit, same]
  | case4 d rest _ other => exact ⟨[], rfl, by simp, rfl⟩
  | case5 => exact ⟨[], rfl, by simp, rfl⟩

theorem digits?_run {isDigit : Char → Bool} (noLine : isDigit '_' = false) {digits : Text}
    (found : digits? isDigit text = some (digits, rest)) :
    ∃ run, text = run ++ rest ∧ (∀ c ∈ run, isDigit c = true ∨ c = '_') ∧
      run.filter isDigit = digits := by
  unfold digits? at found
  split at found
  next d behind =>
    split at found
    next digit =>
      obtain ⟨run, whole, among, same⟩ := moreDigits_run noLine behind
      cases found
      refine ⟨d :: run, congrArg (d :: ·) whole, List.forall_mem_cons.mpr ⟨.inl digit, among⟩, ?_⟩
      rw [List.filter_cons_of_pos digit, same]
    next => cases found
  next => cases found

theorem digits?_suffix {isDigit : Char → Bool} (noLine : isDigit '_' = false) {digits : Text}
    (found : digits? isDigit text = some (digits, rest)) : rest <:+ text := by
  obtain ⟨run, rfl, -⟩ := digits?_run noLine found
  exact List.suffix_append run rest

theorem wholeDigits?_run {digits : Text} (found : wholeDigits? text = some (digits, rest)) :
    ∃ run, text = run ++ rest ∧ (∀ c ∈ run, Text.isPlainDigit c = true ∨ c = '_') ∧
      run.filter Text.isPlainDigit = digits := by
  unfold wholeDigits? at found
  split at found
  next =>
    cases found
    exact ⟨['0'], rfl, List.forall_mem_singleton.mpr (.inl (by decide)), by decide⟩
  next => exact digits?_run (by decide) found

theorem basedInteger?_suffix {found : Value} (there : basedInteger? text = some (found, rest)) :
    rest <:+ text := by
  have read (base : Nat) {isDigit : Char → Bool} (noLine : isDigit '_' = false) {behind : Text}
      (inner : basedInteger?.read base (digits? isDigit behind) = some (found, rest)) :
      rest <:+ behind := by
    obtain ⟨⟨digits, last⟩, taken, same⟩ := Option.map_eq_some_iff.mp inner
    cases same
    exact digits?_suffix noLine taken
  unfold basedInteger? at there
  split at there
  · exact (read 16 (by decide) there).trans (List.suffix_append [_, _] _)
  · exact (read 2 (by decide) there).trans (List.suffix_append [_, _] _)
  · exact (read 8 (by decide) there).trans (List.suffix_append [_, _] _)
  · cases there

theorem sign_suffix (text : Text) : (sign text).2 <:+ text := by
  unfold sign
  split
  · exact List.suffix_cons _ _
  · exact List.suffix_cons _ _
  · exact List.suffix_refl _

/-- A fraction may be absent. -/
theorem behindFraction_suffix (text : Text) : ((fraction? text).getD ([], text)).2 <:+ text := by
  cases found : fraction? text with
  | none => exact List.suffix_refl text
  | some fraction =>
    unfold fraction? at found
    split at found
    next behind => exact (digits?_suffix (by decide) found).trans (List.suffix_cons _ behind)
    next => cases found

/-- An exponent may be absent. -/
theorem behindExponent_suffix (text : Text) : ((exponent? text).getD (0, text)).2 <:+ text := by
  cases found : exponent? text with
  | none => exact List.suffix_refl text
  | some exponent =>
    unfold exponent? at found
    split at found
    next c behind =>
      split at found
      · obtain ⟨⟨digits, last⟩, taken, same⟩ := Option.map_eq_some_iff.mp found
        cases same
        exact (digits?_suffix (by decide) taken).trans
          ((sign_suffix behind).trans (List.suffix_cons c behind))
      · cases found
    next => cases found

/-- A number with too many digits stands in the text with all of them. -/
theorem accounts_readDigits (room : Nat) {behind digits : Text} {e : Number.IntegerError}
    (within : behind <:+ text) (found : wholeDigits? behind = some (digits, rest))
    (long : Number.readDigits digits = .error e) :
    Accounts 0 room text (.integer e) := by
  obtain ⟨run, rfl, among, rfl⟩ := wholeDigits?_run found
  rw [Number.readDigits] at long
  split at long
  next => cases long
  next above =>
    cases long
    have stands : run <:+: text := (List.prefix_append run rest).isInfix.trans within.isInfix
    exact ⟨_, rfl, by omega, run, stands, among, List.countP_eq_length_filter⟩

theorem reads_decimal? {found : Except Fault (Value × Text)} (there : decimal? text = some found) :
    Reads Prod.snd 0 room text found := by
  have unsigned := sign_suffix text
  obtain ⟨⟨whole, rest⟩, digits, rfl⟩ := Option.map_eq_some_iff.mp there
  obtain ⟨run, split, -⟩ := wholeDigits?_run digits
  have behind : rest <:+ text := (split ▸ List.suffix_append run rest).trans unsigned
  dsimp only
  split
  next =>
    split
    next => exact behind
    next e long => exact accounts_readDigits room unsigned digits long
  next =>
    exact (behindExponent_suffix _).trans ((behindFraction_suffix rest).trans behind)

theorem special?_suffix {found : Value} (there : special? text = some (found, rest)) :
    rest <:+ text := by
  have unsigned := sign_suffix text
  unfold special? at there
  dsimp only at there
  split at there
  next behind same =>
    cases there
    rw [same] at unsigned
    exact (List.suffix_append [_, _, _] rest).trans unsigned
  next behind same =>
    cases there
    rw [same] at unsigned
    exact (List.suffix_append [_, _, _] rest).trans unsigned
  next => cases there

/-! ## Values that hold no others -/

theorem reads_needDigits (room : Nat) (text : Text) :
    Reads (fun _ => text) 4 room text (needDigits room text) := by
  rw [needDigits]
  refine .bind (reads_need _ (by omega)) fun _ => ?_
  split
  · exact .bind (reads_need _ (by omega)) fun _ => reads_need _ (by omega)
  · exact List.suffix_refl text

theorem reads_digital? {found : Except Fault (Value × Text)} (there : digital? text = some found) :
    Reads Prod.snd 0 room text found := by
  unfold digital? at there
  split at there
  next moment =>
    cases there
    exact reads_moment? moment
  next =>
    split at there
    next based =>
      cases there
      exact basedInteger?_suffix based
    next => exact reads_decimal? there

theorem reads_scalar (room : Nat) (text : Text) :
    Reads Prod.snd 7 room text (scalar room text) := by
  unfold scalar
  split
  next found opened => exact (reads_string? opened).map fun _ => rfl
  next =>
    split
    next => exact List.suffix_append "true".toList _
    next => exact List.suffix_append "false".toList _
    next =>
      split
      next found there =>
        have read : Reads Prod.snd 0 room text found := reads_digital? there
        exact .bind ((reads_needDigits room text).more (by omega)) fun _ => read.more (by omega)
      next found there => exact special?_suffix there
      next => exact .malformed

end Diagnostics.Toml
