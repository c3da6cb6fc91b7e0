import Diagnostics.Proofs.Hint.Edits

/-!
The hints for which the direction matters, told by what they do and where. Only hints that edit
behind the end of the line and stand before hints with a text can make a difference, and wherever
there are such hints, some texts do make one.
-/
namespace Diagnostics.Hint

/-- What a hint does and where, whatever text it carries. -/
def shape (h : Hint) : HintKind × Span := (h.kind, h.span)

/-- A hint leaves alone what later ones put behind the end of a line of some length. -/
def Spares (length : Nat) (h : Hint) : Prop :=
  h.resume ≤ length ∨ (h.kind.hasText = false ∧ h.resume = h.start)

/-- No hint that edits behind the end of a line of some length stands before one with a text. -/
def Settled (length : Nat) (hints : List Hint) : Prop :=
  hints.Pairwise fun h later => h.Spares length ∨ later.kind.hasText = false

/-- A hint with another text, if it carries one. -/
def withText (text : Text) : Hint → Hint
  | .mark span => .mark span
  | .insert column _ => .insert column text
  | .remove span => .remove span
  | .replace span _ => .replace span text

@[simp] theorem shape_withText (text : Text) (h : Hint) : (h.withText text).shape = h.shape := by
  cases h <;> rfl

@[simp] theorem start_withText (text : Text) (h : Hint) : (h.withText text).start = h.start := by
  cases h <;> rfl

@[simp] theorem resume_withText (text : Text) (h : Hint) :
    (h.withText text).resume = h.resume := by
  cases h <;> rfl

theorem newText_withText (text : Text) (h : Hint) :
    (h.withText text).newText = if h.kind.hasText then text else [] := by
  cases h <;> rfl

theorem newText_eq_nil {h : Hint} (bare : h.kind.hasText = false) : h.newText = [] := by
  cases h <;> simp [kind, HintKind.hasText, newText, text?] at bare ⊢

theorem shape_map_withText (text : Text) (hints : List Hint) :
    (hints.map (withText text)).map shape = hints.map shape := by
  rw [List.map_map]
  exact List.map_congr_left (fun h _ => shape_withText text h)

theorem tails_eq_nil (length : Nat) (hints : List Hint)
    (bare : ∀ h ∈ hints, h.kind.hasText = false) :
    tailForwards length hints = [] ∧ tailBackwards length hints = [] := by
  induction hints with
  | nil => exact ⟨rfl, rfl⟩
  | cons h rest ih =>
    obtain ⟨forwards, backwards⟩ := ih (fun later hm => bare later (List.mem_cons_of_mem _ hm))
    have text := newText_eq_nil (bare h List.mem_cons_self)
    simp [tailForwards, tailBackwards, forwards, backwards, text]

theorem tails_eq_of_settled (length : Nat) (hints : List Hint) (settled : Settled length hints) :
    tailForwards length hints = tailBackwards length hints := by
  induction hints with
  | nil => rfl
  | cons h rest ih =>
    rw [Settled, List.pairwise_cons] at settled
    have same := ih settled.2
    unfold tailForwards tailBackwards
    split
    · exact same
    · rename_i past
      by_cases spares : h.Spares length
      · rcases spares with inside | ⟨bare, keeps⟩
        · exact absurd inside past
        · rw [newText_eq_nil bare, keeps, List.append_nil, List.take_append_drop, List.nil_append]
          exact same
      · have none := tails_eq_nil length rest (fun later hm => (settled.1 later hm).resolve_left spares)
        rw [none.1, none.2, List.take_nil, List.drop_nil, List.nil_append]

/-- Hints can take away from the tail in one direction only. -/
theorem length_tailBackwards_le (length : Nat) (hints : List Hint) :
    (tailBackwards length hints).length ≤ (tailForwards length hints).length := by
  induction hints with
  | nil => exact Nat.le_refl _
  | cons h rest ih =>
    have := start_le_resume h
    unfold tailForwards tailBackwards
    split
    · exact ih
    · simp only [List.length_append, List.length_take, List.length_drop]
      omega

/-- Hints that are alike but for their texts. -/
abbrev SameShapes (hints others : List Hint) : Prop := others.map shape = hints.map shape

/-- What holds of hints one behind the other and does not look at texts holds of others of the same
shapes. -/
theorem pairwise_of_sameShapes {R : Hint → Hint → Prop} {hints others : List Hint}
    (textless : ∀ {h later other another : Hint}, h.shape = other.shape →
      later.shape = another.shape → R h later → R other another)
    (same : SameShapes hints others) (holds : hints.Pairwise R) : others.Pairwise R := by
  have shapes : (hints.map shape).Pairwise fun s t => ∃ h later : Hint,
      h.shape = s ∧ later.shape = t ∧ R h later :=
    List.pairwise_map.mpr (holds.imp fun r => ⟨_, _, rfl, rfl, r⟩)
  rw [← same] at shapes
  refine (List.pairwise_map.mp shapes).imp ?_
  rintro other another ⟨h, later, first, second, r⟩
  exact textless first second r

theorem spares_of_shape {length : Nat} {h other : Hint} (same : h.shape = other.shape)
    (spares : h.Spares length) : other.Spares length := by
  cases h <;> cases other <;> simp_all [shape, kind, span, Spares, resume, start, index]

theorem settled_of_sameShapes {length : Nat} {hints others : List Hint}
    (same : SameShapes hints others) (settled : Settled length hints) : Settled length others := by
  refine pairwise_of_sameShapes (@fun h later other another first second => ?_) same settled
  have kinds : later.kind = another.kind := congrArg Prod.fst second
  rintro (spares | bare)
  · exact .inl (spares_of_shape first spares)
  · exact .inr (kinds ▸ bare)

theorem agree_tail {length : Nat} {h : Hint} {rest : List Hint}
    (agree : ∀ others, SameShapes (h :: rest) others →
      tailForwards length others = tailBackwards length others)
    {others : List Hint} (same : SameShapes rest others) :
    tailForwards length others = tailBackwards length others := by
  have whole := agree (h.withText [] :: others) (by simp [SameShapes, same])
  have text : (h.withText []).newText = [] := by rw [newText_withText]; split <;> rfl
  simp only [tailForwards, tailBackwards, resume_withText, start_withText, text, List.nil_append,
    List.append_nil] at whole
  split at whole
  · exact whole
  · have part : ((tailBackwards length others).take (h.start - length) ++
        (tailBackwards length others).drop (h.resume - length)).Sublist
        (tailBackwards length others) := by
      have ordered : h.start - length ≤ h.resume - length :=
        Nat.sub_le_sub_right (start_le_resume h) length
      have dropped := List.drop_sublist_drop_left (tailBackwards length others) ordered
      simpa using (List.Sublist.refl ((tailBackwards length others).take (h.start - length))).append
        dropped
    rw [← whole] at part
    exact part.eq_of_length_le (length_tailBackwards_le length others)

/-- A tail of hints that all have one text of one letter is made of that letter. -/
theorem tailForwards_filled (length size : Nat) (hints : List Hint) :
    ∃ count, tailForwards length (hints.map (withText (List.replicate size 'b'))) =
        List.replicate count 'b' ∧
      ∀ h ∈ hints, length < h.resume → h.kind.hasText = true → size ≤ count := by
  induction hints with
  | nil => exact ⟨0, rfl, fun _ hm => absurd hm List.not_mem_nil⟩
  | cons h rest ih =>
    obtain ⟨count, filled, enough⟩ := ih
    simp only [List.map_cons, tailForwards, resume_withText, newText_withText, filled]
    split
    · rename_i inside
      refine ⟨count, rfl, fun other hm past text => ?_⟩
      rcases List.mem_cons.mp hm with rfl | hm
      · omega
      · exact enough other hm past text
    · cases text : h.kind.hasText with
      | false =>
        refine ⟨count, rfl, fun other hm past hasText => ?_⟩
        rcases List.mem_cons.mp hm with rfl | hm
        · rw [text] at hasText
          cases hasText
        · exact enough other hm past hasText
      | true =>
        refine ⟨size + count, ?_, fun _ _ _ _ => Nat.le_add_right _ _⟩
        simp only [if_true, List.replicate_append_replicate]

/-- Behind a hint that edits what later ones leave there, texts long enough show the direction. -/
theorem settled_of_agree (length : Nat) (hints : List Hint) (spaced : Message.Spaced hints)
    (agree : ∀ others, SameShapes hints others →
      tailForwards length others = tailBackwards length others) : Settled length hints := by
  induction hints with
  | nil => exact .nil
  | cons h rest ih =>
    rw [Message.Spaced, List.pairwise_cons] at spaced
    have agreeTail : ∀ others, SameShapes rest others →
        tailForwards length others = tailBackwards length others :=
      fun _ same => agree_tail agree same
    refine List.pairwise_cons.mpr ⟨fun later member => ?_, ih spaced.2 agreeTail⟩
    apply Classical.byContradiction
    intro edits
    rw [not_or, Spares, not_or, Bool.not_eq_false, Nat.not_le] at edits
    obtain ⟨⟨past, acts⟩, text⟩ := edits
    obtain ⟨count, filled, enough⟩ := tailForwards_filled length (h.start - length + 1) rest
    have long : h.start - length < count := by
      have := resume_le_start (spaced.1 later member)
      have := start_le_resume later
      exact enough later member (by omega) text
    have tail := agreeTail _ (shape_map_withText (List.replicate (h.start - length + 1) 'b') rest)
    have whole := agree (h.withText ['a'] ::
      rest.map (withText (List.replicate (h.start - length + 1) 'b')))
      (by simp only [SameShapes, List.map_cons, shape_withText, shape_map_withText])
    simp only [tailForwards, tailBackwards, resume_withText, start_withText,
      if_neg (Nat.not_le.mpr past), ← tail, filled] at whole
    by_cases cuts : h.start - length < h.resume - length
    · -- Some of the later text is gone.
      have sizes := congrArg List.length whole
      simp only [List.length_append, List.length_take, List.length_drop,
        List.length_replicate] at sizes
      omega
    · -- Nothing is gone, so the hint has a text, which the later text surrounds.
      have := start_le_resume h
      have hasText : h.kind.hasText = true := by
        rw [← Bool.not_eq_false]
        exact fun bare => acts ⟨bare, by omega⟩
      obtain ⟨before, hbefore⟩ : ∃ n, h.start - length = n + 1 :=
        Nat.exists_eq_succ_of_ne_zero (by omega)
      obtain ⟨others, hothers⟩ : ∃ n, count = n + 1 := Nat.exists_eq_succ_of_ne_zero (by omega)
      rw [newText_withText, hasText, hbefore, hothers, List.replicate_succ, List.take_succ_cons] at whole
      simp at whole

theorem settled_iff (length : Nat) (hints : List Hint) (spaced : Message.Spaced hints) :
    (∀ others, SameShapes hints others →
      tailForwards length others = tailBackwards length others) ↔ Settled length hints :=
  ⟨settled_of_agree length hints spaced, fun settled _ same =>
    tails_eq_of_settled length _ (settled_of_sameShapes same settled)⟩

end Diagnostics.Hint
