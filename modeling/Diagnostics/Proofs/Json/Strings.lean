import Diagnostics.Json.Reader
import Diagnostics.Json.Writer

/-!
Strings written and read back: an escape of a 16-bit unit is read as the unit, a pair of units as
the character above U+FFFF that it stands for, and a written string up to its closing quote as its
text.
-/
namespace Diagnostics.Json

open Text (hexDigit hexField)

/-! ## Units -/

theorem hexValue?_hexDigit {d : Nat} (small : d < 16) : hexValue? (hexDigit d) = some d := by
  revert d
  decide

theorem hexField_four (n : Nat) :
    hexField 4 n = [hexDigit (n / 16 / 16 / 16 % 16), hexDigit (n / 16 / 16 % 16),
      hexDigit (n / 16 % 16), hexDigit (n % 16)] := rfl

theorem unit?_hexDigits {n : Nat} (small : n < 0x10000) :
    unit? (hexDigit (n / 16 / 16 / 16 % 16)) (hexDigit (n / 16 / 16 % 16)) (hexDigit (n / 16 % 16))
      (hexDigit (n % 16)) = some n := by
  have digit (k : Nat) : hexValue? (hexDigit (k % 16)) = some (k % 16) :=
    hexValue?_hexDigit (Nat.mod_lt k (by decide))
  have joined : n / 16 / 16 / 16 % 16 * 0x1000 + n / 16 / 16 % 16 * 0x100 + n / 16 % 16 * 0x10 +
      n % 16 = n := by omega
  simp only [unit?, digit, bind, Option.bind, pure, joined]

/-! ## Characters -/

/-- The number of a character is no surrogate, and not above U+10FFFF. -/
theorem toNat_valid (c : Char) : c.toNat < 0xD800 ∨ 0xE000 ≤ c.toNat ∧ c.toNat < 0x110000 := c.valid

/-- The units of a character above U+FFFF, put together. -/
theorem ofNat_units {c : Char} (high : 0x10000 ≤ c.toNat) :
    Char.ofNat (0x10000 + (0xD800 + (c.toNat - 0x10000) / 0x400 - 0xD800) * 0x400 +
      (0xDC00 + (c.toNat - 0x10000) % 0x400 - 0xDC00)) = c := by
  have joined : 0x10000 + (0xD800 + (c.toNat - 0x10000) / 0x400 - 0xD800) * 0x400 +
      (0xDC00 + (c.toNat - 0x10000) % 0x400 - 0xDC00) = c.toNat := by omega
  rw [joined, Char.ofNat_toNat]

theorem readChars_unit {unit : Nat} (rest : Text) (small : unit < 0x10000)
    (whole : ¬(0xD800 ≤ unit ∧ unit < 0xE000)) :
    readChars (unitEscape unit ++ rest) = charThen (Char.ofNat unit) (readChars rest) := by
  rw [unitEscape, hexField_four]
  simp only [List.cons_append, List.nil_append]
  rw [readChars, unit?_hexDigits small]
  dsimp only
  rw [if_neg (by omega), if_neg (by omega)]

theorem readChars_pair {high low : Nat} (rest : Text) (first : 0xD800 ≤ high ∧ high < 0xDC00)
    (second : 0xDC00 ≤ low ∧ low < 0xE000) :
    readChars (unitEscape high ++ (unitEscape low ++ rest)) =
      charThen (Char.ofNat (0x10000 + (high - 0xD800) * 0x400 + (low - 0xDC00)))
        (readChars rest) := by
  rw [unitEscape, unitEscape, hexField_four, hexField_four]
  simp only [List.cons_append, List.nil_append]
  rw [readChars, unit?_hexDigits (by omega)]
  dsimp only
  rw [if_pos first]
  simp only [unit?_hexDigits (show low < 0x10000 by omega), if_pos second]

theorem readChars_units (c : Char) (rest : Text) :
    readChars ((charUnits c).flatMap unitEscape ++ rest) = charThen c (readChars rest) := by
  have valid := toNat_valid c
  rw [charUnits]
  split
  next small =>
    rw [List.flatMap_singleton, readChars_unit rest small (by omega), Char.ofNat_toNat]
  next great =>
    rw [List.flatMap_cons, List.flatMap_singleton, List.append_assoc,
      readChars_pair rest (by omega) (by omega), ofNat_units (by omega)]

/-- The characters with a letter, each with its letter. -/
def escapes : List (Char × Char) :=
  [('"', '"'), ('\\', '\\'), ('\n', 'n'), ('\r', 'r'), ('\t', 't'), ('\x0c', 'f'), ('\x08', 'b')]

theorem mem_escapes {c letter : Char} (escaped : escapeLetter? c = some letter) :
    (c, letter) ∈ escapes := by
  simp only [escapeLetter?, beq_iff_eq] at escaped
  repeat' split at escaped
  all_goals
    subst_vars
    cases escaped
  all_goals decide

theorem unescape?_of_mem_escapes : ∀ pair ∈ escapes,
    unescape? pair.2 = some pair.1 ∧ pair.2 ≠ 'u' := by
  decide

theorem readChars_escaped {c letter : Char} (rest : Text)
    (escaped : escapeLetter? c = some letter) :
    readChars ('\\' :: letter :: rest) = charThen c (readChars rest) := by
  obtain ⟨meant, other⟩ := unescape?_of_mem_escapes _ (mem_escapes escaped)
  rw [readChars]
  · rw [meant]
  · rintro _ _ _ _ _ rfl
    exact absurd rfl other

theorem readChars_plain {c : Char} (rest : Text) (shown : ' ' ≤ c)
    (plain : escapeLetter? c = none) :
    readChars (c :: rest) = charThen c (readChars rest) := by
  have quote : c ≠ '"' := by
    rintro rfl
    exact absurd plain (by decide)
  have backslash : c ≠ '\\' := by
    rintro rfl
    exact absurd plain (by decide)
  have low : 0x20 ≤ c.toNat := shown
  rw [readChars]
  · rw [if_neg (not_or.mpr ⟨by omega, backslash⟩)]
  · exact quote
  · exact fun _ _ _ _ _ found _ => backslash found
  · exact fun _ _ found _ => backslash found

theorem readChars_writeChar (c : Char) (rest : Text) :
    readChars (writeChar c ++ rest) = charThen c (readChars rest) := by
  rw [writeChar]
  cases escaped : escapeLetter? c with
  | some letter => exact readChars_escaped rest escaped
  | none =>
    dsimp only
    split
    next shown => exact readChars_plain rest shown.1 escaped
    next => exact readChars_units c rest

theorem readChars_writeString (text rest : Text) :
    readChars (text.flatMap writeChar ++ '"' :: rest) = .ok (text, rest) := by
  induction text with
  | nil => simp [readChars]
  | cons c text ih =>
    rw [List.flatMap_cons, List.append_assoc, readChars_writeChar, ih]
    rfl

/-! ## The characters that are written -/

/-- A line feed, or a character from the blank to the tilde. -/
def isVisible (c : Char) : Bool := c == '\n' || 0x20 ≤ c.toNat && c.toNat ≤ 0x7E

def Visible (text : Text) : Prop := text.all isVisible = true

instance (text : Text) : Decidable (Visible text) := inferInstanceAs (Decidable (_ = _))

theorem visible_iff {text : Text} : Visible text ↔ ∀ c ∈ text, isVisible c = true :=
  List.all_eq_true

theorem visible_append {text rest : Text} : Visible (text ++ rest) ↔ Visible text ∧ Visible rest := by
  simp [Visible, List.all_append]

theorem visible_cons {c : Char} {rest : Text} : Visible (c :: rest) ↔ Visible [c] ∧ Visible rest :=
  @visible_append [c] rest

theorem visible_flatMap {α : Type} {write : α → Text} {items : List α}
    (each : ∀ item ∈ items, Visible (write item)) : Visible (items.flatMap write) := by
  rw [visible_iff]
  intro c member
  obtain ⟨item, found, inside⟩ := List.mem_flatMap.mp member
  exact visible_iff.mp (each item found) c inside

theorem visible_hexDigit {d : Nat} (small : d < 16) : Visible [hexDigit d] := by
  revert d
  decide

theorem visible_unitEscape (unit : Nat) : Visible (unitEscape unit) := by
  have digit (k : Nat) : Visible [hexDigit (k % 16)] := visible_hexDigit (Nat.mod_lt k (by decide))
  rw [unitEscape, hexField_four]
  refine visible_cons.mpr ⟨by decide, visible_cons.mpr ⟨by decide, visible_cons.mpr ⟨digit _, ?_⟩⟩⟩
  exact visible_cons.mpr ⟨digit _, visible_cons.mpr ⟨digit _, digit _⟩⟩

theorem visible_writeChar (c : Char) : Visible (writeChar c) := by
  rw [writeChar]
  cases escaped : escapeLetter? c with
  | some letter =>
    have letters : ∀ pair ∈ escapes, Visible ['\\', pair.2] := by decide
    exact letters _ (mem_escapes escaped)
  | none =>
    dsimp only
    split
    next shown =>
      have low : 0x20 ≤ c.toNat := shown.1
      have high : c.toNat ≤ 0x7E := shown.2
      simp [Visible, isVisible, low, high]
    next => exact visible_flatMap fun unit _ => visible_unitEscape unit

theorem visible_writeString (text : Text) : Visible (writeString text) := by
  rw [writeString, visible_cons, visible_append]
  exact ⟨by decide, visible_flatMap fun c _ => visible_writeChar c, by decide⟩

end Diagnostics.Json
