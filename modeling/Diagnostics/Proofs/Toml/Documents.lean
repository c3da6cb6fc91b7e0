import Diagnostics.Proofs.Text.LineEnds
import Diagnostics.Proofs.Toml.Scalars

/-!
Faults of documents. Arrays and tables take their room from what stands inside them, so a fault deep
inside is accounted for by the brackets and braces in front of it.
-/
namespace Diagnostics.Toml
variable {room fuel : Nat} {text rest : Text}

theorem nestingRoom_array (rest : Text) : nestingRoom ('[' :: rest) = nestingRoom rest + 2 := by
  simp [nestingRoom]
  omega

theorem nestingRoom_table (rest : Text) : nestingRoom ('{' :: rest) = nestingRoom rest + 3 := by
  simp [nestingRoom]
  omega

theorem reads_orFault {α : Type} (room : Nat) (text : Text) (found : Option α) :
    Reads (fun _ => text) 0 room text (orFault found) := by
  cases found with
  | none => exact .malformed
  | some a => exact List.suffix_refl text

/-! ## Values inside each other -/

/-- What each of the readers of values does with some fuel. -/
structure ReadsWithin (fuel : Nat) : Prop where
  value : ∀ room text, Reads Prod.snd 7 room text (value fuel room text)
  items : ∀ room text, Reads Prod.snd 9 room text (items fuel room text)
  entries : ∀ room complete table text,
    Reads Prod.snd 8 room text (entries fuel room complete table text)
  pair : ∀ room text, Reads (fun found => found.2.2) 8 room text (pair fuel room text)

theorem reads_value (within : ReadsWithin fuel) (room : Nat) (text : Text) :
    Reads Prod.snd 7 room text (value (fuel + 1) room text) := by
  unfold value
  split
  next rest =>
    -- Two more steps around the items are paid for by the bracket.
    have opened := nestingRoom_array rest
    refine .bind (reads_need _ (by omega)) fun _ => ?_
    refine .mono ?_ (List.suffix_cons _ rest)
      (show room + (9 + nestingRoom rest) ≤ room + _ by omega)
    refine .bind ((reads_skipGaps room fuel rest).more (by omega)) fun inner => ?_
    dsimp only
    split
    next behind => exact List.suffix_cons _ behind
    next => exact (within.items room inner).map fun _ => rfl
  next rest =>
    -- Three more steps around the entries are paid for by the brace.
    have opened := nestingRoom_table rest
    have blanks := skipSpace_suffix rest
    refine .bind (reads_need _ (by omega)) fun _ => .bind (reads_need _ (by omega)) fun _ =>
      .bind (reads_need _ (by omega)) fun _ => ?_
    refine .mono ?_ (List.suffix_cons _ rest)
      (show room + (10 + nestingRoom rest) ≤ room + _ by omega)
    dsimp only
    split
    next behind found =>
      rw [found] at blanks
      exact (List.suffix_cons _ behind).trans blanks
    next =>
      refine .map ?_ fun _ => rfl
      exact (within.entries (room - 2) [] [] (skipSpace rest)).part blanks (by omega)
  next => exact reads_scalar room _

theorem reads_items (within : ReadsWithin fuel) (room : Nat) (text : Text) :
    Reads Prod.snd 9 room text (items (fuel + 1) room text) := by
  rw [items]
  refine .bind ((within.value (room - 2) text).more (by omega)) ?_
  rintro ⟨first, rest⟩
  refine .bind ((reads_skipGaps room fuel rest).more (by omega)) fun behind => ?_
  dsimp only
  split
  next rest => exact List.suffix_cons _ rest
  next rest =>
    have behind : rest <:+ ',' :: rest := List.suffix_cons _ rest
    refine .bind ((reads_skipGaps room fuel rest).part behind (by omega)) fun last => ?_
    split
    next rest => exact List.suffix_cons _ rest
    next => exact (within.items room last).map fun _ => rfl
  next => exact .malformed

theorem reads_pair (within : ReadsWithin fuel) (room : Nat) (text : Text) :
    Reads (fun found => found.2.2) 8 room text (pair (fuel + 1) room text) := by
  rw [pair]
  refine .bind (reads_key room _ text) ?_
  rintro ⟨path, rest⟩
  dsimp only
  split
  next behind =>
    have blanks := (skipSpace_suffix behind).trans (List.suffix_cons '=' behind)
    refine .bind ((within.value (room - 1) (skipSpace behind)).part blanks (by omega)) ?_
    rintro ⟨found, last⟩
    exact List.suffix_refl last
  next => exact .malformed

theorem reads_entries (within : ReadsWithin fuel) (room : Nat) (complete : List Path)
    (table : Members) (text : Text) :
    Reads Prod.snd 8 room text (entries (fuel + 1) room complete table text) := by
  rw [entries]
  refine .bind (within.pair room text) ?_
  rintro ⟨path, found, rest⟩
  dsimp only
  have blanks := skipSpace_suffix rest
  split
  next => exact .malformed
  next =>
    refine .bind ((reads_orFault room rest _).more (by omega)) fun table => ?_
    split
    next behind last =>
      rw [last] at blanks
      exact (List.suffix_cons _ behind).trans blanks
    next behind more =>
      rw [more] at blanks
      exact (within.entries room _ table _).part
        ((skipSpace_suffix behind).trans ((List.suffix_cons _ behind).trans blanks)) (Nat.le_refl _)
    next => exact .malformed

/-- By induction on the fuel, which all readers take from each other. -/
theorem readsWithin (fuel : Nat) : ReadsWithin fuel := by
  induction fuel with
  | zero =>
    constructor
    all_goals intros
    · rw [value]; exact .malformed
    · rw [items]; exact .malformed
    · rw [entries]; exact .malformed
    · rw [pair]; exact .malformed
  | succ fuel ih => exact ⟨reads_value ih, reads_items ih, reads_entries ih, reads_pair ih⟩

/-! ## Statements -/

theorem reads_enter (room : Nat) (text : Text) (d : Draft) (path : Path) (found : Value) :
    Reads (fun _ => text) 0 room text (d.enter path found) := by
  rw [Draft.enter]
  dsimp only
  split
  next => exact .malformed
  split
  next => exact .malformed
  exact .bind (reads_orFault room text _) fun _ => List.suffix_refl text

theorem reads_openTable (room : Nat) (text : Text) (d : Draft) (path : Path) :
    Reads (fun _ => text) 0 room text (d.openTable path) := by
  rw [Draft.openTable]
  dsimp only
  split
  next => exact .malformed
  exact .bind (reads_orFault room text _) fun _ => List.suffix_refl text

theorem reads_openItem (room : Nat) (text : Text) (d : Draft) (path : Path) :
    Reads (fun _ => text) 0 room text (d.openItem path) := by
  rw [Draft.openItem]
  dsimp only
  split
  next => exact .malformed
  exact .bind (reads_orFault room text _) fun _ => List.suffix_refl text

theorem reads_statement (room : Nat) (d : Draft) (text : Text) :
    Reads Prod.snd 8 room text (statement room d text) := by
  unfold statement
  split
  next rest =>
    have blanks : skipSpace rest <:+ '[' :: '[' :: rest :=
      (skipSpace_suffix rest).trans (List.suffix_append [_, _] rest)
    refine .bind ((reads_key room _ (skipSpace rest)).part blanks (Nat.le_refl _)) ?_
    rintro ⟨path, rest⟩
    refine .bind ((reads_openItem room rest d path).more (by omega)) fun d => ?_
    split
    next behind => exact List.suffix_append [_, _] behind
    next => exact .malformed
  next rest _ =>
    have blanks := (skipSpace_suffix rest).trans (List.suffix_cons '[' rest)
    refine .bind ((reads_key room _ (skipSpace rest)).part blanks (Nat.le_refl _)) ?_
    rintro ⟨path, rest⟩
    refine .bind ((reads_openTable room rest d path).more (by omega)) fun d => ?_
    split
    next behind => exact List.suffix_cons _ behind
    next => exact .malformed
  next =>
    refine .bind ((readsWithin _).pair room text) ?_
    rintro ⟨path, found, rest⟩
    refine .bind ((reads_enter room rest d path found).more (by omega)) fun d => ?_
    exact List.suffix_refl rest

/-! ## Documents -/

theorem reads_rows (room fuel : Nat) (d : Draft) (text : Text) :
    Reads (fun _ => []) 8 room text (rows room fuel d text) := by
  induction fuel generalizing d text with
  | zero => exact .malformed
  | succ fuel ih =>
    have blanks := skipSpace_suffix text
    unfold rows
    split
    next => exact List.nil_suffix
    next rest found =>
      rw [found] at blanks
      exact (ih d rest).part ((List.suffix_cons _ rest).trans blanks) (Nat.le_refl _)
    next =>
      -- A row starts with a comment, or with a statement that a comment may follow.
      have comment : Reads Prod.snd 8 room text (.ok (d, skipSpace text)) := blanks
      have stated := (reads_statement room d (skipSpace text)).part blanks (Nat.le_refl _)
      refine .iteBind comment stated fun found => ?_
      refine .bind ((reads_skipComment room (skipSpace found.2)).part (skipSpace_suffix _) (by omega))
        fun behind => ?_
      split
      next => exact List.nil_suffix
      next rest => exact (ih found.1 rest).part (List.suffix_cons _ rest) (Nat.le_refl _)
      next => exact .malformed

/-! ## Line ends -/

theorem holdsDigits_of_feedsOnly {digits : Nat} {text : Text}
    (holds : HoldsDigits digits (Text.feedsOnly text)) : HoldsDigits digits text := by
  obtain ⟨run, stands, among, count⟩ := holds
  have noFeed : '\n' ∉ run := fun member => by
    rcases among _ member with digit | line
    · exact absurd digit (by decide)
    · exact absurd line (by decide)
  exact ⟨run, Text.infix_of_infix_feedsOnly noFeed stands, among, count⟩

/-- The room in which a text can be read, whatever stands in it. -/
def roomFor (text : Text) : Nat := 12 + nestingRoom text

/-- A text accounts for each fault of the document that it should be. -/
theorem accounts_read {room : Nat} {text : Text} {fault : Fault}
    (failed : read room text = .error fault) : Accounts 12 room text fault := by
  have reads := reads_rows (room - outerSteps) ((Text.feedsOnly text).length + 1) ⟨[], [], [], [], []⟩
    (Text.feedsOnly text)
  unfold read at failed
  dsimp only at failed
  cases found : rows (room - outerSteps) ((Text.feedsOnly text).length + 1) ⟨[], [], [], [], []⟩
    (Text.feedsOnly text) with
  | ok d =>
    rw [found] at failed
    cases failed
  | error f =>
    rw [found] at failed reads
    cases failed
    have fewer := nestingRoom_le (Text.feedsOnly_sublist text)
    cases fault with
    | malformed => trivial
    | integer e =>
      obtain ⟨digits, same, long, holds⟩ := reads
      exact ⟨digits, same, long, holdsDigits_of_feedsOnly holds⟩
    | tooDeep nesting =>
      unfold Reads Accounts outerSteps at *
      omega

end Diagnostics.Toml
