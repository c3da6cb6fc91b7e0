import Diagnostics.Proofs.Toml.Documents
import Mathlib.Data.Nat.Find

/-!
Room limits what can be read, and nothing else: with more room a document is read as before, unless
the room was too little. So each text has a least room, from which on it is always read as the same.
-/
namespace Diagnostics.Toml
variable {α β : Type} {room wider : Nat}

/-- One way of reading runs out of room, or comes to the same as another. -/
def Widens (narrow wide : Except Fault α) : Prop :=
  (∃ nesting, narrow = .error (.tooDeep nesting)) ∨ narrow = wide

namespace Widens
variable {m wide : Except Fault α}

theorem refl (m : Except Fault α) : Widens m m := .inr rfl

theorem bind {next next' : α → Except Fault β} (first : Widens m wide)
    (second : ∀ found, Widens (next found) (next' found)) :
    Widens (m >>= next) (wide >>= next') := by
  rcases first with ⟨nesting, rfl⟩ | rfl
  · exact .inl ⟨nesting, rfl⟩
  · cases m with
    | ok found => exact second found
    | error fault => exact refl _

/-- Two ways of reading that go on alike. -/
theorem iteBind {c : Prop} [Decidable c] {other otherWide : Except Fault α}
    {next next' : α → Except Fault β} (first : Widens m wide) (second : Widens other otherWide)
    (third : ∀ found, Widens (next found) (next' found)) :
    Widens (if c then m >>= next else other >>= next)
      (if c then wide >>= next' else otherWide >>= next') := by
  split
  · exact first.bind third
  · exact second.bind third

theorem map (change : α → β) (first : Widens m wide) : Widens (m.map change) (wide.map change) := by
  rcases first with ⟨nesting, rfl⟩ | rfl
  · exact .inl ⟨nesting, rfl⟩
  · exact refl _

end Widens

section More
variable (more : room ≤ wider)
include more

theorem widens_need (steps : Nat) (nesting : Nesting) :
    Widens (need steps nesting room) (need steps nesting wider) := by
  unfold need
  split
  next => exact .inl ⟨nesting, rfl⟩
  next enough => exact .inr (if_neg fun short => enough (Nat.lt_of_le_of_lt more short)).symm

theorem widens_skipGaps (fuel : Nat) (text : Text) :
    Widens (skipGaps room fuel text) (skipGaps wider fuel text) := by
  induction fuel generalizing text with
  | zero => exact .refl _
  | succ fuel ih =>
    unfold skipGaps
    split
    next =>
      exact .bind (widens_need more _ _) fun _ => .bind (widens_need more _ _) fun _ =>
        .bind (.refl _) ih
    next => exact .refl _

/-! ## Scalars and keys -/

theorem widens_hexChar (width : Nat) (text : Text) :
    Widens (hexChar room width text) (hexChar wider width text) :=
  .bind (widens_need more _ _) fun _ => .bind (widens_need more _ _) fun _ =>
    .bind (widens_need more _ _) fun _ => .refl _

theorem widens_basicChars (rows : Bool) (fuel : Nat) (text : Text) :
    Widens (basicChars room rows fuel text) (basicChars wider rows fuel text) := by
  induction fuel generalizing text with
  | zero => exact .refl _
  | succ fuel ih =>
    unfold basicChars
    split
    next => exact .refl _
    next =>
      split
      next =>
        refine .bind (widens_need more _ _) fun _ => ?_
        dsimp only
        split
        next => exact .refl _
        next => exact .map _ (ih _)
      next => exact .refl _
    next =>
      refine .bind (widens_need more _ _) fun _ => ?_
      dsimp only
      split
      next => exact .bind (widens_need more _ _) fun _ => .bind (.refl _) ih
      next =>
        split
        next =>
          refine .bind (widens_hexChar (Nat.sub_le_sub_right more _) _ _) fun _ => ?_
          exact .bind (ih _) fun _ => .refl _
        next =>
          split
          next => exact .refl _
          next => exact .map _ (ih _)
    next =>
      split
      next => exact .refl _
      next => exact .map _ (ih _)

theorem widens_basicString (text : Text) :
    Widens (basicString room text) (basicString wider text) :=
  .bind (widens_need more _ _) fun _ => widens_basicChars more _ _ _

theorem widens_literalString (text : Text) :
    Widens (literalString room text) (literalString wider text) :=
  .bind (widens_need more _ _) fun _ => .bind (widens_need more _ _) fun _ => .refl _

theorem widens_keyPart (text : Text) : Widens (keyPart room text) (keyPart wider text) := by
  unfold keyPart
  split
  next => exact widens_basicString more _
  next => exact widens_literalString more _
  next => exact .bind (widens_need more _ _) fun _ => .refl _

theorem widens_key (fuel : Nat) (text : Text) :
    Widens (key room fuel text) (key wider fuel text) := by
  induction fuel generalizing text with
  | zero => exact .refl _
  | succ fuel ih =>
    unfold key
    refine .bind (widens_keyPart (Nat.sub_le_sub_right more _) _) fun _ => ?_
    dsimp only
    split
    next => exact .bind (ih _) fun _ => .refl _
    next => exact .refl _

theorem widens_needDigits (text : Text) :
    Widens (needDigits room text) (needDigits wider text) := by
  unfold needDigits
  refine .bind (widens_need more _ _) fun _ => ?_
  split
  next => exact .bind (widens_need more _ _) fun _ => widens_need more _ _
  next => exact .refl _

/-- A string is there in any room, or in none. -/
theorem widens_string? (text : Text) :
    Option.Rel Widens (string? room text) (string? wider text) := by
  unfold string?
  split
  next => exact .some (.map _ (.bind (widens_need more _ _) fun _ => widens_basicChars more _ _ _))
  next => exact .some (widens_basicString more _)
  next => exact .some (.map _ (.bind (widens_need more _ _) fun _ => .refl _))
  next => exact .some (widens_literalString more _)
  next => exact .none

theorem widens_scalar (text : Text) : Widens (scalar room text) (scalar wider text) := by
  have strings := widens_string? more text
  unfold scalar
  generalize string? room text = narrow, string? wider text = wide at strings
  cases strings with
  | some same => exact .map _ same
  | none =>
    dsimp only
    split
    next => exact .refl _
    next => exact .refl _
    next =>
      split
      next => exact .bind (widens_needDigits more _) fun _ => .refl _
      next => exact .refl _
      next => exact .refl _

/-! ## Documents -/

/-- What each of the readers of values does with some fuel. -/
structure WidensWithin (fuel : Nat) : Prop where
  value : ∀ {room wider}, room ≤ wider → ∀ text,
    Widens (value fuel room text) (value fuel wider text)
  items : ∀ {room wider}, room ≤ wider → ∀ text,
    Widens (items fuel room text) (items fuel wider text)
  entries : ∀ {room wider}, room ≤ wider → ∀ complete table text,
    Widens (entries fuel room complete table text) (entries fuel wider complete table text)
  pair : ∀ {room wider}, room ≤ wider → ∀ text,
    Widens (pair fuel room text) (pair fuel wider text)

section Values
variable {fuel : Nat} (within : WidensWithin fuel)
include within

theorem widens_value (text : Text) :
    Widens (value (fuel + 1) room text) (value (fuel + 1) wider text) := by
  unfold value
  split
  next =>
    refine .bind (widens_need more _ _) fun _ => .bind (widens_skipGaps more _ _) fun _ => ?_
    dsimp only
    split
    next => exact .refl _
    next => exact .map _ (within.items more _)
  next =>
    refine .bind (widens_need more _ _) fun _ => .bind (widens_need more _ _) fun _ =>
      .bind (widens_need more _ _) fun _ => ?_
    dsimp only
    split
    next => exact .refl _
    next => exact .map _ (within.entries (Nat.sub_le_sub_right more _) _ _ _)
  next => exact widens_scalar more _

theorem widens_items (text : Text) :
    Widens (items (fuel + 1) room text) (items (fuel + 1) wider text) := by
  unfold items
  refine .bind (within.value (Nat.sub_le_sub_right more _) _) fun _ =>
    .bind (widens_skipGaps more _ _) fun _ => ?_
  dsimp only
  split
  next => exact .refl _
  next =>
    refine .bind (widens_skipGaps more _ _) fun _ => ?_
    split
    next => exact .refl _
    next => exact .map _ (within.items more _)
  next => exact .refl _

theorem widens_entries (complete : List Path) (table : Members) (text : Text) :
    Widens (entries (fuel + 1) room complete table text)
      (entries (fuel + 1) wider complete table text) := by
  unfold entries
  refine .bind (within.pair more _) fun _ => ?_
  dsimp only
  split
  next => exact .refl _
  next =>
    refine .bind (.refl _) fun _ => ?_
    split
    next => exact .refl _
    next => exact within.entries more _ _ _
    next => exact .refl _

theorem widens_pair (text : Text) :
    Widens (pair (fuel + 1) room text) (pair (fuel + 1) wider text) := by
  unfold pair
  refine .bind (widens_key more _ _) fun _ => ?_
  dsimp only
  split
  next => exact .bind (within.value (Nat.sub_le_sub_right more _) _) fun _ => .refl _
  next => exact .refl _

end Values

omit more in
theorem widensWithin (fuel : Nat) : WidensWithin fuel := by
  induction fuel with
  | zero =>
    constructor
    all_goals intros
    · unfold value; exact .refl _
    · unfold items; exact .refl _
    · unfold entries; exact .refl _
    · unfold pair; exact .refl _
  | succ fuel ih =>
    exact ⟨(widens_value · ih), (widens_items · ih), (widens_entries · ih), (widens_pair · ih)⟩

theorem widens_statement (d : Draft) (text : Text) :
    Widens (statement room d text) (statement wider d text) := by
  unfold statement
  split
  next => exact .bind (widens_key more _ _) fun _ => .refl _
  next => exact .bind (widens_key more _ _) fun _ => .refl _
  next => exact .bind ((widensWithin _).pair more _) fun _ => .refl _

theorem widens_rows (fuel : Nat) (d : Draft) (text : Text) :
    Widens (rows room fuel d text) (rows wider fuel d text) := by
  induction fuel generalizing d text with
  | zero => exact .refl _
  | succ fuel ih =>
    unfold rows
    split
    next => exact .refl _
    next => exact ih d _
    next =>
      refine .iteBind (.refl _) (widens_statement more _ _) fun _ => .bind (.refl _) fun _ => ?_
      split
      next => exact .refl _
      next => exact ih _ _
      next => exact .refl _

/-- With more room a document is read as before, unless there was too little. -/
theorem widens_read (text : Text) : Widens (read room text) (read wider text) :=
  .map _ (widens_rows (Nat.sub_le_sub_right more _) _ _ _)

end More

/-! ## The least room -/

/-- A document is read in some room without running out of it. -/
def Suffices (room : Nat) (text : Text) : Prop :=
  ∀ nesting, read room text ≠ .error (.tooDeep nesting)

theorem suffices_roomFor (text : Text) : Suffices (roomFor text) text := fun _ short =>
  absurd (accounts_read short) (Nat.lt_irrefl _)

theorem Suffices.read_eq {text : Text} (enough : Suffices room text) (more : room ≤ wider) :
    read room text = read wider text :=
  (widens_read more text).resolve_left fun ⟨nesting, short⟩ => enough nesting short

/-- Each text has a least room: in less of it, reading runs out of room, and from there on the text is
read as the same. -/
theorem exists_leastRoom (text : Text) :
    ∃ least ≤ roomFor text,
      (∀ room < least, ∃ nesting, read room text = .error (.tooDeep nesting)) ∧
        ∀ room ≥ least, read room text = read (roomFor text) text := by
  classical
  have some : ∃ room, Suffices room text := ⟨roomFor text, suffices_roomFor text⟩
  have least := Nat.find_spec some
  have bound : Nat.find some ≤ roomFor text := Nat.find_le (suffices_roomFor text)
  refine ⟨Nat.find some, bound, fun room less => ?_, fun room more => ?_⟩
  · simpa [Suffices] using Nat.find_min some less
  · rw [← least.read_eq more, least.read_eq bound]

end Diagnostics.Toml
