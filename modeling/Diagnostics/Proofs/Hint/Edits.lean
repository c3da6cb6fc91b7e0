import Diagnostics.Message.Fix

/-!
Hints carried out on a line, from the first to the last and from the last to the first. Inside the
line both directions do the same. Behind its end they need not: a hint there edits what later hints
have added if these come first, and goes behind the end if they come last. Main statements: what a
line becomes in each direction, and the columns for which the direction does not matter.
-/
namespace Diagnostics.Hint

/-- The number of characters before a hint. -/
def start (h : Hint) : Nat := h.index - 1

/-- The number of characters before what goes on behind a hint: a hint that removes or replaces goes
on behind its columns, any other one where it starts. -/
def resume : Hint → Nat
  | .mark span => span.index - 1
  | .insert column _ => column - 1
  | .remove span => span.index - 1 + span.length
  | .replace span _ => span.index - 1 + span.length

theorem start_le_resume (h : Hint) : h.start ≤ h.resume := by
  cases h <;> simp [start, index, span, resume]

theorem resume_le_start {h later : Hint} (apart : h.span.stop < later.index) :
    h.resume ≤ later.start := by
  cases h <;> simp only [resume, start, span, Span.stop] at * <;> omega

/-- Any hint puts its text between what stands before it and what goes on behind it. -/
theorem applyAt_eq (h : Hint) (valid : h.Valid) (line : Text) {offset : Int} {before behind : Nat}
    (starts : (h.start : Int) + offset = before) (goesOn : (h.resume : Int) + offset = behind) :
    h.applyAt line offset = line.take before ++ h.newText ++ line.drop behind := by
  have first : (h.span.index : Int) - 1 + offset = before := by
    have : 1 ≤ h.span.index := valid
    simp only [start, index] at starts
    omega
  have last : h.kind = .remove ∨ h.kind = .replace →
      (before : Int) + h.span.length = behind := by
    intro cuts
    rw [← goesOn, ← starts]
    cases h <;> simp [kind, start, index, span, resume] at cuts ⊢ <;> omega
  have same : h.kind = .mark ∨ h.kind = .insert → behind = before := by
    intro keeps
    have : h.resume = h.start := by cases h <;> simp [kind] at keeps <;> rfl
    omega
  cases h with
  | mark span => simp [applyAt, newText, text?, same (.inl rfl)]
  | insert column text =>
    simp only [applyAt, first, Text.before_natCast, Text.since_natCast, same (.inr rfl)]
    rfl
  | remove span =>
    simp only [applyAt, first, last (.inl rfl), Text.before_natCast, Text.since_natCast, newText,
      text?, Option.getD_none, List.append_nil]
  | replace span text =>
    simp only [applyAt, first, last (.inr rfl), Text.before_natCast, Text.since_natCast]
    rfl

theorem apply_eq (h : Hint) (valid : h.Valid) (line : Text) :
    h.apply line = line.take h.start ++ h.newText ++ line.drop h.resume :=
  applyAt_eq h valid line (Int.add_zero _) (Int.add_zero _)

/-! ## The first hint first -/

/-- A line from behind some characters on, with hints carried out that start there or later. -/
def rewrite (line : Text) : Nat → List Hint → Text
  | done, [] => line.drop done
  | done, h :: rest =>
    (line.drop done).take (h.start - done) ++ h.newText ++ rewrite line h.resume rest

/-- Behind the part of a line that has been rewritten, columns are shifted by what it has grown. -/
theorem take_drop_shifted (line front : Text) {done n m : Nat} {grown : Int} (behind : done ≤ n)
    (length : ((front ++ line.drop done).length : Int) = line.length + grown)
    (shifted : (n : Int) + grown = m) :
    (front ++ line.drop done).take m = front ++ (line.drop done).take (n - done) ∧
      (front ++ line.drop done).drop m = line.drop n := by
  rw [List.length_append, List.length_drop] at length
  by_cases inside : done ≤ line.length
  · have place : m = front.length + (n - done) := by omega
    rw [place, List.take_length_add_append, List.drop_length_add_append, List.drop_drop]
    exact ⟨rfl, congrArg line.drop (by omega)⟩
  · have nothing : line.drop done = [] := List.drop_of_length_le (by omega)
    have nothingLater : line.drop n = [] := List.drop_of_length_le (by omega)
    have place : front.length ≤ m := by omega
    simp only [nothing, nothingLater, List.append_nil, List.take_nil]
    exact ⟨List.take_of_length_le place, List.drop_of_length_le place⟩

/-- The offset in the loop is what the line has grown, so every hint finds its columns again. -/
theorem applyForwards_eq_rewrite (line : Text) (hints : List Hint) (valid : ∀ h ∈ hints, h.Valid)
    (spaced : Message.Spaced hints) (front : Text) (done : Nat) (grown : Int)
    (behind : ∀ h ∈ hints, done ≤ h.start)
    (length : ((front ++ line.drop done).length : Int) = line.length + grown) :
    applyForwards hints grown (front ++ line.drop done) = front ++ rewrite line done hints := by
  induction hints generalizing front done grown with
  | nil => rfl
  | cons h rest ih =>
    have hbehind := behind h List.mem_cons_self
    have hresume := start_le_resume h
    rw [Message.Spaced, List.pairwise_cons] at spaced
    -- The shifted start is not negative, since what has grown is at least what stands in front.
    obtain ⟨before, starts⟩ : ∃ n : Nat, (h.start : Int) + grown = n :=
      Int.eq_ofNat_of_zero_le (by rw [List.length_append, List.length_drop] at length; omega)
    obtain ⟨after, goesOn⟩ : ∃ n : Nat, (h.resume : Int) + grown = n :=
      Int.eq_ofNat_of_zero_le (by omega)
    have edited : h.applyAt (front ++ line.drop done) grown =
        (front ++ (line.drop done).take (h.start - done) ++ h.newText) ++ line.drop h.resume := by
      rw [applyAt_eq h (valid h List.mem_cons_self) _ starts goesOn,
        (take_drop_shifted line front hbehind length starts).1,
        (take_drop_shifted line front (Nat.le_trans hbehind hresume) length goesOn).2]
    rw [applyForwards, edited, ih (fun h hm => valid h (List.mem_cons_of_mem _ hm)) spaced.2]
    · simp only [rewrite, List.append_assoc]
    · exact fun later hm => resume_le_start (spaced.1 later hm)
    · omega

theorem applyForwards_eq (line : Text) (hints : List Hint) (valid : ∀ h ∈ hints, h.Valid)
    (spaced : Message.Spaced hints) : applyForwards hints 0 line = rewrite line 0 hints := by
  have started := applyForwards_eq_rewrite line hints valid spaced [] 0 0
    (fun _ _ => Nat.zero_le _) (by simp)
  rwa [List.drop_zero, List.nil_append, List.nil_append] at started

/-- Nothing comes in but the texts of hints. -/
theorem mem_of_mem_rewrite {line : Text} {done : Nat} {hints : List Hint} {c : Char}
    (member : c ∈ rewrite line done hints) : c ∈ line ∨ ∃ h ∈ hints, c ∈ h.newText := by
  induction hints generalizing done with
  | nil => exact .inl (List.mem_of_mem_drop member)
  | cons h rest ih =>
    rw [rewrite, List.mem_append, List.mem_append] at member
    rcases member with (kept | text) | later
    · exact .inl (List.mem_of_mem_drop (List.mem_of_mem_take kept))
    · exact .inr ⟨h, List.mem_cons_self, text⟩
    · obtain old | ⟨other, among, text⟩ := ih later
      · exact .inl old
      · exact .inr ⟨other, List.mem_cons_of_mem _ among, text⟩

/-- All texts of hints come in. -/
theorem mem_rewrite_of_mem_newText {line : Text} {done : Nat} {hints : List Hint} {h : Hint}
    {c : Char} (among : h ∈ hints) (text : c ∈ h.newText) : c ∈ rewrite line done hints := by
  induction hints generalizing done with
  | nil => cases among
  | cons first rest ih =>
    rw [rewrite, List.mem_append, List.mem_append]
    rcases List.mem_cons.mp among with rfl | later
    · exact .inl (.inr text)
    · exact .inr (ih later)

/-! ## Behind the end of the line -/

/-- What hints leave behind the end of a line of some length, the first one first: their texts. -/
def tailForwards (length : Nat) : List Hint → Text
  | [] => []
  | h :: rest =>
    if h.resume ≤ length then tailForwards length rest
    else h.newText ++ tailForwards length rest

/-- What hints leave behind the end of a line of some length, the last one first: each of them edits
what the later ones have left there. -/
def tailBackwards (length : Nat) : List Hint → Text
  | [] => []
  | h :: rest =>
    if h.resume ≤ length then tailBackwards length rest
    else (tailBackwards length rest).take (h.start - length) ++ h.newText ++
      (tailBackwards length rest).drop (h.resume - length)

/-- Both directions keep the same text up to the end of the line and differ in the tail alone. -/
theorem exists_kept (line : Text) (hints : List Hint) (valid : ∀ h ∈ hints, h.Valid)
    (spaced : Message.Spaced hints) (done : Nat) (behind : ∀ h ∈ hints, done ≤ h.start) :
    ∃ kept, rewrite line done hints = kept ++ tailForwards line.length hints ∧
      applyBackwards hints line = line.take done ++ kept ++ tailBackwards line.length hints ∧
      (line.length < done → kept = []) := by
  induction hints generalizing done with
  | nil =>
    refine ⟨line.drop done, ?_, ?_, fun beyond => List.drop_of_length_le (Nat.le_of_lt beyond)⟩
    · simp [rewrite, tailForwards]
    · simp [applyBackwards, tailBackwards]
  | cons h rest ih =>
    have hbehind := behind h List.mem_cons_self
    have hresume := start_le_resume h
    rw [Message.Spaced, List.pairwise_cons] at spaced
    obtain ⟨kept, forwards, backwards, none⟩ := ih (fun h hm => valid h (List.mem_cons_of_mem _ hm))
      spaced.2 h.resume (fun later hm => resume_le_start (spaced.1 later hm))
    have upToStart : line.take h.start = line.take done ++ (line.drop done).take (h.start - done) := by
      rw [← List.take_add, Nat.add_sub_cancel' hbehind]
    have step : applyBackwards (h :: rest) line = h.apply (applyBackwards rest line) := rfl
    rw [step, apply_eq h (valid h List.mem_cons_self), backwards, rewrite, forwards]
    by_cases inside : h.resume ≤ line.length
    · refine ⟨(line.drop done).take (h.start - done) ++ h.newText ++ kept, ?_, ?_, ?_⟩
      · simp only [tailForwards, if_pos inside, List.append_assoc]
      · have cut : (line.take h.resume).length = h.resume := by rw [List.length_take]; omega
        have first : (line.take h.resume).take h.start = line.take h.start := by
          rw [List.take_take, Nat.min_eq_left hresume]
        rw [List.append_assoc (line.take h.resume), List.take_append_of_le_length (by omega), first,
          List.drop_left' cut, upToStart]
        simp only [tailBackwards, if_pos inside, List.append_assoc]
      · intro beyond
        omega
    · -- The line ends before the hint does, so nothing of it is left for the later ones.
      have whole : line.take h.resume = line := List.take_of_length_le (by omega)
      have ended : kept = [] := none (by omega)
      have past : line.drop h.resume = [] := List.drop_of_length_le (by omega)
      refine ⟨(line.drop done).take (h.start - done), ?_, ?_, ?_⟩
      · simp only [tailForwards, if_neg inside, ended, List.nil_append, List.append_assoc]
      · rw [whole, ended, List.append_nil, List.take_append, List.drop_append, past, upToStart]
        simp only [tailBackwards, if_neg inside, List.nil_append, List.append_assoc]
      · intro beyond
        rw [List.drop_of_length_le (Nat.le_of_lt beyond), List.take_nil]

theorem applyForwards_eq_iff (line : Text) (hints : List Hint) (valid : ∀ h ∈ hints, h.Valid)
    (spaced : Message.Spaced hints) :
    applyForwards hints 0 line = applyBackwards hints line ↔
      tailForwards line.length hints = tailBackwards line.length hints := by
  obtain ⟨kept, forwards, backwards, _⟩ :=
    exists_kept line hints valid spaced 0 (fun _ _ => Nat.zero_le _)
  rw [applyForwards_eq line hints valid spaced, forwards, backwards, List.take_zero, List.nil_append,
    List.append_cancel_left_eq]

end Diagnostics.Hint
