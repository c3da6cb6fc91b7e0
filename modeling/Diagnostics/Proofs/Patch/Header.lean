import Diagnostics.Patch.Apply
import Diagnostics.Proofs.Text.Run

/-!
Headers of hunks. The lines that are taken for a header are exactly those of its grammar: on either
side a start and maybe a count, in digits of any script, and anything behind the header.
-/
namespace Diagnostics.Patch

theorem behind?_eq_some_iff {start text rest : Text} :
    behind? start text = some rest ↔ text = start ++ rest := by
  induction start generalizing text with
  | nil => rw [behind?, Option.some.injEq, List.nil_append]
  | cons c start ih =>
    cases text with
    | nil => simp [behind?]
    | cons d text =>
      rw [behind?, List.cons_append, List.cons.injEq]
      by_cases same : c = d
      · rw [if_pos same, ih]
        exact ⟨fun tail => ⟨same.symm, tail⟩, And.right⟩
      · rw [if_neg same]
        exact ⟨nofun, fun both => absurd both.1.symm same⟩

theorem behind?_append (start rest : Text) : behind? start (start ++ rest) = some rest :=
  behind?_eq_some_iff.mpr rfl

/-! ## Numbers -/

def IsNumber (digits : Text) : Prop :=
  digits ≠ [] ∧ ∀ c ∈ digits, Text.isDecimalDigit c = true

theorem digits?_append {digits : Text} (number : IsNumber digits) {c : Char} {rest : Text}
    (ends : Text.isDecimalDigit c = false) :
    digits? (digits ++ c :: rest) = some (digits, c :: rest) := by
  obtain ⟨some, all⟩ := number
  rw [digits?, Text.span_eq_iff.mpr ⟨rfl, all, Text.stops_cons.mpr ends⟩]
  cases digits with
  | nil => exact absurd rfl some
  | cons d digits => rfl

theorem digits?_eq_some {text digits rest : Text} (read : digits? text = some (digits, rest)) :
    IsNumber digits ∧ text = digits ++ rest := by
  unfold digits? at read
  split at read
  · cases read
  · rename_i some cut
    cases read
    obtain ⟨whole, within, _⟩ := Text.span_eq_iff.mp cut
    exact ⟨⟨some, within⟩, whole⟩

/-! ## Sides -/

namespace HunkHeader

/-- The numbers of a side, as they are written. -/
def text : HunkHeader → Text
  | ⟨start, none⟩ => start
  | ⟨start, some count⟩ => start ++ ',' :: count

structure Numeric (h : HunkHeader) : Prop where
  start : IsNumber h.start
  count : ∀ count ∈ h.count, IsNumber count

end HunkHeader

theorem side_read {h : HunkHeader} (numeric : h.Numeric) (rest : Text) :
    ∃ behind, digits? (h.text ++ ' ' :: rest) = some (h.start, behind) ∧
      count? behind = (h.count, ' ' :: rest) := by
  obtain ⟨start, count⟩ := h
  cases count with
  | none => exact ⟨' ' :: rest, digits?_append numeric.start (by decide), rfl⟩
  | some count =>
    refine ⟨',' :: (count ++ ' ' :: rest), ?_, ?_⟩
    · rw [HunkHeader.text, List.append_assoc]
      exact digits?_append numeric.start (by decide)
    · rw [count?, digits?_append (numeric.count count rfl) (by decide)]

theorem side_of_read {text behind rest start : Text} {count : Option Text}
    (digits : digits? text = some (start, behind)) (counted : count? behind = (count, ' ' :: rest)) :
    HunkHeader.Numeric ⟨start, count⟩ ∧ text = HunkHeader.text ⟨start, count⟩ ++ ' ' :: rest := by
  obtain ⟨number, rfl⟩ := digits?_eq_some digits
  unfold count? at counted
  split at counted
  · rename_i after
    split at counted
    · rename_i found last read
      obtain ⟨rfl, rfl⟩ := Prod.mk.inj counted
      obtain ⟨counts, rfl⟩ := digits?_eq_some read
      exact ⟨⟨number, by rintro _ ⟨⟩; exact counts⟩, by simp [HunkHeader.text]⟩
    · cases counted
  · obtain ⟨rfl, rfl⟩ := Prod.mk.inj counted
    exact ⟨⟨number, nofun⟩, rfl⟩

/-! ## Whole headers -/

/-- A line is the header of a hunk with these numbers on its old side. -/
def Announces (line : Text) (old : HunkHeader) : Prop :=
  ∃ (new : HunkHeader) (rest : Text), old.Numeric ∧ new.Numeric ∧
    line = "@@ -".toList ++ (old.text ++ (" +".toList ++ (new.text ++ (" @@".toList ++ rest))))

theorem header?_eq_some_iff {line : Text} {old : HunkHeader} :
    header? line = some old ↔ Announces line old := by
  constructor
  · intro read
    simp only [header?, Option.bind_eq_bind, Option.bind_eq_some_iff, behind?_eq_some_iff] at read
    obtain ⟨_, rfl, ⟨start, behindOld⟩, oldStart, _, oldCount, ⟨newStart, behindNew⟩, newRead, rest,
      newCount, made⟩ := read
    cases made
    -- Behind either side there is a blank, so its count has been read as far as it goes.
    obtain ⟨oldNumeric, rfl⟩ := side_of_read oldStart (Prod.ext rfl oldCount)
    obtain ⟨newNumeric, rfl⟩ := side_of_read newRead (Prod.ext rfl newCount)
    exact ⟨_, rest, oldNumeric, newNumeric, rfl⟩
  · rintro ⟨new, rest, oldNumeric, newNumeric, rfl⟩
    obtain ⟨behindOld, oldStart, oldCount⟩ :=
      side_read oldNumeric ('+' :: (new.text ++ (" @@".toList ++ rest)))
    obtain ⟨behindNew, newStart, newCount⟩ := side_read newNumeric (['@', '@'] ++ rest)
    have plus : ∀ rest, behind? " +".toList (' ' :: '+' :: rest) = some rest := fun rest =>
      behind?_append " +".toList rest
    have ats : ∀ rest, behind? " @@".toList (' ' :: (['@', '@'] ++ rest)) = some rest := fun rest =>
      behind?_append " @@".toList rest
    have oldRead : digits? (old.text ++ (" +".toList ++ (new.text ++ (" @@".toList ++ rest)))) =
        some (old.start, behindOld) := oldStart
    have newRead : digits? (new.text ++ (" @@".toList ++ rest)) = some (new.start, behindNew) :=
      newStart
    rw [header?, behind?_append]
    simp only [Option.bind_eq_bind, Option.bind_some, oldRead, oldCount, plus, newRead, newCount, ats]
    rfl

end Diagnostics.Patch
