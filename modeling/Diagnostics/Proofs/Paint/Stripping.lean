import Diagnostics.Paint.Style
import Diagnostics.Proofs.Number.Numeral

/-!
Texts without their escape sequences. A text may be stripped piece by piece wherever no sequence
goes on from one piece into the next: where the first piece ends, or the second one starts, with a
character that no sequence has in it. What is painted strips like the bare text.
-/
namespace Diagnostics

namespace Sequences
variable {s : Sequences} {c : Char} {text rest : Text}

/-! ## Where sequences end -/

/-- Behind an escape character, no sequence goes on with this one. -/
def Breaks (s : Sequences) (c : Char) : Prop :=
  c ≠ '[' ∧ s.isParameter c = false ∧ s.isFinal c = false

instance (s : Sequences) (c : Char) : Decidable (s.Breaks c) :=
  inferInstanceAs (Decidable (_ ∧ _ ∧ _))

def Ends (s : Sequences) (rest : Text) : Prop := ∀ c ∈ rest.head?, s.Breaks c

theorem length?_of_ne (other : c ≠ '[') : s.length? (c :: text) = none := by
  unfold length?
  split
  · rename_i same
    cases same
    exact absurd rfl other
  · rfl

theorem length?_of_ends (ends : s.Ends rest) : s.length? rest = none := by
  cases rest with
  | nil => rfl
  | cons c rest => exact length?_of_ne (ends c rfl).1

theorem dropWhile_of_ends (ends : s.Ends rest) : rest.dropWhile s.isParameter = rest := by
  cases rest with
  | nil => rfl
  | cons c rest =>
    apply List.dropWhile_cons_of_neg
    rw [(ends c rfl).2.1]
    exact Bool.false_ne_true

theorem length_takeWhile_lt {p : Char → Bool} {others : Text}
    (behind : text.dropWhile p = c :: others) : (text.takeWhile p).length < text.length := by
  have whole := congrArg List.length (List.takeWhile_append_dropWhile (p := p) (l := text))
  rw [behind, List.length_append, List.length_cons] at whole
  omega

theorem length?_append (ends : s.Ends rest) : s.length? (text ++ rest) = s.length? text := by
  cases text with
  | nil => exact length?_of_ends ends
  | cons c text =>
    by_cases bracket : c = '['
    · subst bracket
      rw [List.cons_append, length?, length?, List.dropWhile_append, List.takeWhile_append]
      cases behind : text.dropWhile s.isParameter with
      | nil =>
        -- All of the text is parameters, and what follows is no final character.
        rw [List.isEmpty_nil, if_pos rfl, dropWhile_of_ends ends]
        cases rest with
        | nil => rfl
        | cons c rest =>
          dsimp only
          rw [(ends c rfl).2.2, if_neg Bool.false_ne_true]
      | cons d others =>
        have fewer := length_takeWhile_lt behind
        rw [List.isEmpty_cons, if_neg Bool.false_ne_true, if_neg (Nat.ne_of_lt fewer)]
        rfl
    · rw [List.cons_append, length?_of_ne bracket, length?_of_ne bracket]

theorem length?_le {n : Nat} (found : s.length? text = some n) : n ≤ text.length := by
  unfold length? at found
  split at found
  · rename_i rest
    split at found
    · rename_i c others behind
      split at found
      · cases found
        exact Nat.succ_le_succ (length_takeWhile_lt behind)
      · cases found
    · cases found
  · cases found

/-! ## Pieces -/

theorem stripAfter_append (ends : s.Ends rest) {skipped : Nat} (inside : skipped ≤ text.length) :
    s.stripAfter skipped (text ++ rest) = s.stripAfter skipped text ++ s.strip rest := by
  fun_induction s.stripAfter skipped text with
  | case1 skipped =>
    cases Nat.le_zero.mp inside
    rfl
  | case2 skipped c text ih =>
    rw [List.cons_append, stripAfter]
    exact ih (Nat.le_of_succ_le_succ inside)
  | case3 text n found ih =>
    rw [List.cons_append, stripAfter, if_pos rfl, length?_append ends, found]
    exact ih (length?_le found)
  | case4 text none ih =>
    rw [List.cons_append, stripAfter, if_pos rfl, length?_append ends, none]
    exact congrArg _ (ih (Nat.zero_le _))
  | case5 c text other ih =>
    rw [List.cons_append, stripAfter, if_neg other]
    exact congrArg _ (ih (Nat.zero_le _))

theorem strip_append_of_ends (ends : s.Ends rest) :
    s.strip (text ++ rest) = s.strip text ++ s.strip rest :=
  stripAfter_append ends (Nat.zero_le _)

theorem strip_cons (other : c ≠ escapeChar) : s.strip (c :: rest) = c :: s.strip rest :=
  if_neg other

theorem strip_append_of_free (free : escapeChar ∉ text) :
    s.strip (text ++ rest) = text ++ s.strip rest := by
  induction text with
  | nil => rfl
  | cons c text ih =>
    rw [List.mem_cons, not_or] at free
    rw [List.cons_append, strip_cons (Ne.symm free.1), ih free.2, List.cons_append]

theorem strip_of_free (free : escapeChar ∉ text) : s.strip text = text := by
  have whole : s.strip (text ++ []) = text ++ s.strip [] := strip_append_of_free free
  rw [List.append_nil] at whole
  exact whole.trans (List.append_nil text)

/-- No sequence has this character in it, and none starts with it. -/
def Outside (s : Sequences) (c : Char) : Prop := s.Breaks c ∧ c ≠ escapeChar

instance (s : Sequences) (c : Char) : Decidable (s.Outside c) := inferInstanceAs (Decidable (_ ∧ _))

def Closes (s : Sequences) (text : Text) : Prop := ∃ front c, text = front ++ [c] ∧ s.Outside c

theorem closes_of_outside (nonempty : text ≠ []) (outside : ∀ c ∈ text, s.Outside c) :
    s.Closes text := by
  have whole := List.dropLast_concat_getLast nonempty
  exact ⟨text.dropLast, text.getLast nonempty, whole.symm, outside _ (List.getLast_mem nonempty)⟩

theorem closes_append (closes : s.Closes rest) : s.Closes (text ++ rest) := by
  obtain ⟨front, c, rfl, outside⟩ := closes
  exact ⟨text ++ front, c, (List.append_assoc text front [c]).symm, outside⟩

theorem free_of_outside (outside : ∀ c ∈ text, s.Outside c) : escapeChar ∉ text :=
  fun member => (outside _ member).2 rfl

theorem strip_append_of_closes (closes : s.Closes text) :
    s.strip (text ++ rest) = s.strip text ++ s.strip rest := by
  obtain ⟨front, c, rfl, breaks, other⟩ := closes
  have ends (others : Text) : s.Ends (c :: others) := by
    rintro _ ⟨⟩
    exact breaks
  have last : s.strip [c] = [c] := strip_cons other
  rw [List.append_assoc, List.singleton_append, strip_append_of_ends (ends rest), strip_cons other,
    strip_append_of_ends (ends []), last, List.append_assoc, List.singleton_append]

theorem stripAfter_length (text rest : Text) :
    s.stripAfter text.length (text ++ rest) = s.strip rest := by
  induction text with
  | nil => rfl
  | cons c text ih => exact ih

theorem strip_sequence {codes : Text} (parameters : ∀ c ∈ codes, s.isParameter c = true)
    (final : s.isFinal c = true) (noParameter : s.isParameter c = false) :
    s.strip (escapeChar :: '[' :: (codes ++ c :: rest)) = s.strip rest := by
  have length : s.length? ('[' :: (codes ++ c :: rest)) = some (codes.length + 2) := by
    rw [length?, List.dropWhile_append_of_pos parameters, List.takeWhile_append_of_pos parameters,
      List.dropWhile_cons_of_neg (by simp [noParameter]),
      List.takeWhile_cons_of_neg (by simp [noParameter]), List.append_nil]
    exact if_pos final
  have whole : '[' :: (codes ++ c :: rest) = ('[' :: (codes ++ [c])) ++ rest := by simp
  have counted : codes.length + 2 = ('[' :: (codes ++ [c])).length := by simp
  rw [strip, stripAfter, if_pos rfl, length, whole, counted]
  exact stripAfter_length ('[' :: (codes ++ [c])) rest

end Sequences

/-! ## Painted texts -/

/-- A text as it is, or between the codes of a look and the code that ends it. -/
inductive Painted (text : Text) : Text → Prop
  | bare : Painted text text
  | wrapped {codes : Text} (parameters : ∀ c ∈ codes, Sequences.look.isParameter c = true) :
      Painted text (escapeChar :: '[' :: (codes ++ 'm' :: (text ++ [escapeChar, '[', '0', 'm'])))

namespace Painted
open Sequences
variable {text painted rest : Text}

theorem strip_append (shown : Painted text painted) (apart : look.Ends rest ∨ look.Closes text) :
    look.strip (painted ++ rest) = look.strip text ++ look.strip rest := by
  cases shown with
  | bare =>
    rcases apart with ends | closes
    · exact strip_append_of_ends ends
    · exact strip_append_of_closes closes
  | @wrapped codes parameters =>
    have behind : look.Ends (escapeChar :: '[' :: '0' :: 'm' :: rest) := by
      rintro _ ⟨⟩
      decide
    have zero : ∀ c ∈ ['0'], look.isParameter c = true := List.forall_mem_singleton.mpr rfl
    have reset : look.strip (escapeChar :: '[' :: '0' :: 'm' :: rest) = look.strip rest :=
      strip_sequence zero (by decide) (by decide)
    have opened : look.strip (escapeChar :: '[' :: (codes ++ 'm' ::
        (text ++ (escapeChar :: '[' :: '0' :: 'm' :: rest)))) = _ :=
      strip_sequence parameters (by decide) (by decide)
    simp only [List.cons_append, List.append_assoc, List.nil_append]
    rw [opened, strip_append_of_ends behind, reset]

theorem ne_nil (shown : Painted text painted) (nonempty : text ≠ []) : painted ≠ [] := by
  cases shown with
  | bare => exact nonempty
  | wrapped => exact List.cons_ne_nil _ _

end Painted

/-! ## Styles -/

theorem Text.mem_joinWith {separator : Text} {texts : List Text} {c : Char}
    (member : c ∈ joinWith separator texts) : c ∈ separator ∨ ∃ text ∈ texts, c ∈ text := by
  fun_induction joinWith separator texts with
  | case1 => cases member
  | case2 text => exact .inr ⟨text, List.mem_cons_self, member⟩
  | case3 text next rest ih =>
    rw [List.mem_append, List.mem_append] at member
    rcases member with (inText | inSeparator) | inRest
    · exact .inr ⟨text, List.mem_cons_self, inText⟩
    · exact .inl inSeparator
    · rcases ih inRest with inSeparator | ⟨other, among, inOther⟩
      · exact .inl inSeparator
      · exact .inr ⟨other, List.mem_cons_of_mem text among, inOther⟩

theorem Style.painted_render (style : Style) (text : Text) : Painted text (style.render text) := by
  unfold render
  split
  · exact .bare
  · rename_i codes _
    rw [List.append_assoc, List.cons_append]
    refine .wrapped fun c member => ?_
    rcases Text.mem_joinWith member with semicolon | ⟨numeral, among, inNumeral⟩
    · rw [List.mem_singleton.mp semicolon]
      decide
    · obtain ⟨code, _, rfl⟩ := List.mem_map.mp among
      exact Bool.or_eq_true_iff.mpr (.inl (Number.isPlainDigit_of_mem_numeral code c inNumeral))

end Diagnostics
