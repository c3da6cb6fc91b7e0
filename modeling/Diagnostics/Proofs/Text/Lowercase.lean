import Diagnostics.Text.Lowercase
import Mathlib.Data.List.Basic

/-!
Words that a text is lower-cased to. Letters beyond the first 128 code points have no small letter
among these, except for the Kelvin sign, which has k, and for the dotted capital I, which keeps its
dot. So a text has a word without k as its lower case exactly if it spells the word in plain letters.
-/
namespace Diagnostics.Text

/-- A small letter of the first 128 code points that has no capital beyond these. -/
def IsWordLetter (c : Char) : Prop := 'a' ≤ c ∧ c ≤ 'z' ∧ c ≠ 'k'

instance (c : Char) : Decidable (IsWordLetter c) := inferInstanceAs (Decidable (_ ∧ _))

theorem IsWordLetter.lt {c : Char} (letter : IsWordLetter c) : c.toNat < 128 := by
  have atMost : c.toNat ≤ 'z'.toNat := letter.2.1
  exact Nat.lt_of_le_of_lt atMost (by decide)

theorem not_isWordLetter_ofNat {code : Nat} (beyond : 128 ≤ code) :
    ¬ IsWordLetter (Char.ofNat code) := by
  intro letter
  by_cases valid : code.isValidChar
  · have same : (Char.ofNat code).toNat = code := by
      rw [Char.ofNat, dif_pos valid]
      rfl
    exact absurd (Nat.le_trans beyond (Nat.le_of_eq same.symm)) (Nat.not_le.mpr letter.lt)
  · rw [Char.ofNat, dif_neg valid] at letter
    exact absurd letter (by decide)

/-! ## The table -/

/-- The small letters of a run lie beyond the first 128 code points, where its capitals do. -/
def StaysBeyond (run : Nat × Nat × Nat × Int) : Prop :=
  run.2.1 < 128 ∨ 128 ≤ (run.1 : Int) + run.2.2.2 ∨ run.1 = 0x212A ∧ run.2.1 = 0x212A

instance (run : Nat × Nat × Nat × Int) : Decidable (StaysBeyond run) :=
  inferInstanceAs (Decidable (_ ∨ _))

theorem staysBeyond_capitalRuns : ∀ run ∈ capitalRuns, StaysBeyond run := by decide +kernel

theorem le_smallIn {runs : List (Nat × Nat × Nat × Int)} (stay : ∀ run ∈ runs, StaysBeyond run)
    {code : Nat} (beyond : 128 ≤ code) (other : code ≠ 0x212A) : 128 ≤ smallIn runs code := by
  fun_induction smallIn runs code with
  | case1 => exact beyond
  | case2 => exact beyond
  | case3 code low high step shift rest _ inside =>
    rw [Bool.and_eq_true, decide_eq_true_eq] at inside
    rcases stay _ List.mem_cons_self with within | shifted | sign
    · exact absurd (Nat.lt_of_le_of_lt inside.1 within) (Nat.not_lt.mpr beyond)
    · dsimp only at shifted
      omega
    · dsimp only at sign
      omega
  | case4 code low high step shift rest _ _ ih =>
    exact ih (fun run member => stay run (List.mem_cons_of_mem _ member)) beyond other

theorem lowerChar_ofNat : ∀ code < 128, lowerChar (Char.ofNat code) = [(Char.ofNat code).toLower] := by
  decide +kernel

theorem lowerChar_of_lt {c : Char} (within : c.toNat < 128) : lowerChar c = [c.toLower] := by
  have small := lowerChar_ofNat c.toNat within
  rwa [Char.ofNat_toNat] at small

theorem toLower_of_le {c : Char} (beyond : 128 ≤ c.toNat) : c.toLower = c := by
  have noCapital : ¬ c.val ≤ 'Z'.val := fun low =>
    absurd (Nat.le_trans beyond (UInt32.le_iff_toNat_le.mp low)) (by decide)
  exact dif_neg fun capital => noCapital capital.2

theorem lt_of_letters_lowerChar {c : Char} (letters : ∀ d ∈ lowerChar c, IsWordLetter d) :
    c.toNat < 128 := by
  by_contra beyond
  rw [Nat.not_lt] at beyond
  rw [lowerChar] at letters
  split at letters
  · exact absurd (letters '\u0307' (by decide)) (by decide)
  · have letter := letters _ List.mem_cons_self
    by_cases sign : c.toNat = 0x212A
    · rw [sign] at letter
      exact absurd letter (by decide +kernel)
    · exact not_isWordLetter_ofNat (le_smallIn staysBeyond_capitalRuns beyond sign) letter

/-! ## Words -/

/-- A text has such a word as its lower case if it spells the word. -/
theorem lowerAfter_eq_iff {text word : Text} {before : Bool} (letters : ∀ c ∈ word, IsWordLetter c) :
    lowerAfter before text = word ↔ text.map Char.toLower = word := by
  induction text generalizing before word with
  | nil => rfl
  | cons c rest ih =>
    rw [lowerAfter, List.map_cons]
    by_cases within : c.toNat < 128
    · have noSigma : ¬ (c == '\u03A3') = true := fun same => by
        rw [beq_iff_eq.mp same] at within
        exact absurd within (by decide)
      rw [if_neg noSigma, lowerChar_of_lt within, List.singleton_append]
      cases word with
      | nil => simp
      | cons d word =>
        rw [List.forall_mem_cons] at letters
        rw [List.cons.injEq, List.cons.injEq, ih letters.2]
    · constructor
      · rintro rfl
        split at letters
        · have sigma := letters _ (List.mem_append_left _ List.mem_cons_self)
          split at sigma <;> exact absurd sigma (by decide)
        · exact absurd
            (lt_of_letters_lowerChar fun d member => letters d (List.mem_append_left _ member)) within
      · rintro rfl
        rw [toLower_of_le (Nat.not_lt.mp within)] at letters
        exact absurd (letters c List.mem_cons_self).lt within

theorem lower_eq_iff {text word : Text} (letters : ∀ c ∈ word, IsWordLetter c) :
    lower text = word ↔ text.map Char.toLower = word :=
  lowerAfter_eq_iff letters

end Diagnostics.Text
