import Diagnostics.Number.Integer
import Mathlib.Data.Nat.Digits.Defs

/-!
Numbers written and read back: a numeral is made of plain digits, it is as long as its number is
great, and as long as it may be read, it is read as its number.
-/
namespace Diagnostics.Number

theorem digitValue?_digitChar {d : Nat} (small : d < 10) :
    Text.digitValue? (digitChar d) = some d := by
  revert d
  decide

theorem isPlainDigit_digitChar {d : Nat} (small : d < 10) :
    Text.isPlainDigit (digitChar d) = true := by
  revert d
  decide

theorem numeral_of_lt {n : Nat} (small : n < 10) : numeral n = [digitChar n] := by
  rw [numeral, if_pos small]

theorem numeral_of_le {n : Nat} (great : 10 ≤ n) :
    numeral n = numeral (n / 10) ++ [digitChar (n % 10)] := by
  rw [numeral, if_neg (Nat.not_lt.mpr great)]

theorem isPlainDigit_of_mem_numeral (n : Nat) : ∀ c ∈ numeral n, Text.isPlainDigit c = true := by
  induction n using Nat.strongRecOn with
  | ind n ih =>
    by_cases small : n < 10
    · rw [numeral_of_lt small]
      intro c member
      rw [List.mem_singleton.mp member]
      exact isPlainDigit_digitChar small
    · rw [numeral_of_le (Nat.not_lt.mp small)]
      intro c member
      rcases List.mem_append.mp member with front | last
      · exact ih (n / 10) (by omega) c front
      · rw [List.mem_singleton.mp last]
        exact isPlainDigit_digitChar (Nat.mod_lt n (by omega))

theorem numeral_ne_nil (n : Nat) : numeral n ≠ [] := by
  unfold numeral
  split <;> simp

theorem exists_numeral_eq_cons (n : Nat) : ∃ d rest, numeral n = d :: rest ∧
    Text.isPlainDigit d = true ∧ (n ≠ 0 → d ≠ '0') := by
  induction n using Nat.strongRecOn with
  | ind n ih =>
    by_cases small : n < 10
    · have zero : ∀ k < 10, k ≠ 0 → digitChar k ≠ '0' := by decide
      exact ⟨digitChar n, [], numeral_of_lt small, isPlainDigit_digitChar small, zero n small⟩
    · obtain ⟨d, rest, same, digit, other⟩ := ih (n / 10) (by omega)
      refine ⟨d, rest ++ [digitChar (n % 10)], ?_, digit, fun _ => other (by omega)⟩
      rw [numeral_of_le (Nat.not_lt.mp small), same, List.cons_append]

theorem ofDigitText_append_digit (digits : Text) {d : Nat} (small : d < 10) :
    ofDigitText (digits ++ [digitChar d]) = 10 * ofDigitText digits + d := by
  simp [ofDigitText, ofDigits, digitValue?_digitChar small]

theorem ofDigitText_numeral (n : Nat) : ofDigitText (numeral n) = n := by
  induction n using Nat.strongRecOn with
  | ind n ih =>
    by_cases small : n < 10
    · rw [numeral_of_lt small]
      simpa [ofDigitText, ofDigits] using ofDigitText_append_digit [] small
    · rw [numeral_of_le (Nat.not_lt.mp small), ofDigitText_append_digit _ (Nat.mod_lt n (by omega)),
        ih (n / 10) (by omega)]
      omega

theorem numeral_eq_digits {n : Nat} (positive : n ≠ 0) :
    numeral n = ((Nat.digits 10 n).map digitChar).reverse := by
  induction n using Nat.strongRecOn with
  | ind n ih =>
    by_cases small : n < 10
    · rw [numeral_of_lt small, Nat.digits_of_lt 10 n positive small]
      rfl
    · rw [numeral_of_le (Nat.not_lt.mp small), ih (n / 10) (by omega) (by omega),
        Nat.digits_def' (by decide) (Nat.pos_of_ne_zero positive), List.map_cons, List.reverse_cons]

theorem length_numeral {n : Nat} (positive : n ≠ 0) :
    (numeral n).length = (Nat.digits 10 n).length := by
  rw [numeral_eq_digits positive, List.length_reverse, List.length_map]

theorem length_numeral_le {n size : Nat} (positive : 0 < size) (below : n < Nat.pow 10 size) :
    (numeral n).length ≤ size := by
  induction size generalizing n with
  | zero => exact absurd positive (Nat.lt_irrefl 0)
  | succ size ih =>
    by_cases small : n < 10
    · rw [numeral_of_lt small]
      exact Nat.succ_le_succ (Nat.zero_le size)
    · change n < Nat.pow 10 size * 10 at below
      have shorter : n / 10 < Nat.pow 10 size := by omega
      have positive : 0 < size := by
        rw [Nat.pos_iff_ne_zero]
        rintro rfl
        change n / 10 < 1 at shorter
        omega
      rw [numeral_of_le (Nat.not_lt.mp small), List.length_append]
      exact Nat.succ_le_succ (ih positive shorter)

theorem readDigits_numeral {n : Nat} (writable : isWritable n = true) :
    readDigits (numeral n) = .ok n := by
  have short : (numeral n).length ≤ digitLimit :=
    length_numeral_le (by decide) (of_decide_eq_true writable)
  rw [readDigits, if_pos short, ofDigitText_numeral]

end Diagnostics.Number

namespace Diagnostics.Text

theorem isDecimalDigit_of_isPlainDigit {c : Char} (digit : isPlainDigit c = true) :
    isDecimalDigit c = true := by
  simp only [isPlainDigit, Bool.and_eq_true, decide_eq_true_eq] at digit
  have low : 0x30 ≤ c.toNat := digit.1
  have high : c.toNat ≤ 0x39 := digit.2
  simp only [isDecimalDigit, digitValue?, digitRanges, digitIn, if_neg (Nat.not_lt.mpr low),
    if_pos high, Option.isSome_some]

theorem isBreak_of_isPlainDigit {c : Char} (digit : isPlainDigit c = true) : isBreak c = false := by
  rw [← Bool.not_eq_true, isBreak, Bool.or_eq_true, beq_iff_eq, beq_iff_eq]
  rintro (rfl | rfl) <;> exact absurd digit (by decide)

end Diagnostics.Text
