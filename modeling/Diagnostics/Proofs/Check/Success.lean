import Diagnostics.Check.Field

/-!
What a successful check says of the value and of its parts. Every check is opened by its lemma here,
down to the parts that were read.
-/
namespace Diagnostics

section Outcomes
variable {ε α β : Type}

@[simp] theorem bind_eq_ok {x : Except ε α} {f : α → Except ε β} {b : β} :
    x.bind f = .ok b ↔ ∃ a, x = .ok a ∧ f a = .ok b := by
  cases x <;> simp [Except.bind]

@[simp] theorem map_eq_ok {x : Except ε α} {f : α → β} {b : β} :
    x.map f = .ok b ↔ ∃ a, x = .ok a ∧ f a = b := by
  cases x <;> simp [Except.map]

end Outcomes

namespace Check

variable {α β : Type}

@[simp] theorem fail_ne_ok {cause : Cause} {a : α} : fail cause ≠ .ok a := by
  simp [fail]

@[simp] theorem inside_eq_ok {step : Step} {check : Checked α} {a : α} :
    inside step check = .ok a ↔ check = .ok a := by
  cases check <;> simp [inside]

@[simp] theorem member_eq_ok {name : String} {check : Checked α} {a : α} :
    member name check = .ok a ↔ check = .ok a := inside_eq_ok

@[simp] theorem both_eq_ok {first : Checked α} {second : Checked β} {p : α × β} :
    both first second = .ok p ↔ first = .ok p.1 ∧ second = .ok p.2 := by
  cases first <;> cases second <;> simp [both, Prod.ext_iff]

@[simp] theorem rule_eq_ok {accepted : α → Bool} {reason : String} {a b : α} :
    rule accepted reason a = .ok b ↔ accepted a = true ∧ a = b := by
  unfold rule
  split <;> simp_all

@[simp] theorem atLeast_eq_ok {bound n : Nat} {i : Int} :
    atLeast bound i = .ok n ↔ (bound : Int) ≤ i ∧ i.toNat = n := by
  by_cases above : (bound : Int) ≤ i <;> simp [atLeast, above]

theorem le_of_natural {bound n : Nat} {value : Value} (read : natural bound value = .ok n) :
    bound ≤ n := by
  simp only [natural, bind_eq_ok, atLeast_eq_ok] at read
  obtain ⟨i, _, above, rfl⟩ := read
  omega

@[simp] theorem required_eq_ok {members : Members} {name : String} {check : Value → Checked α}
    {a : α} : required members name check = .ok a ↔
      ∃ value, Members.valueOf? members name.toList = some value ∧ check value = .ok a := by
  unfold required
  cases Members.valueOf? members name.toList <;> simp

@[simp] theorem defaulted_eq_ok {members : Members} {name : String} {default : α}
    {check : Value → Checked α} {a : α} : defaulted members name default check = .ok a ↔
      (Members.valueOf? members name.toList = none ∧ default = a) ∨
        ∃ value, Members.valueOf? members name.toList = some value ∧ check value = .ok a := by
  unfold defaulted
  cases Members.valueOf? members name.toList <;> simp

/-- What is there has been checked. -/
theorem exists_of_optional {check : Value → Checked α} {value : Value} {found : Option α}
    (read : optional check value = .ok found) : ∀ a ∈ found, check value = .ok a := by
  cases value <;> simp only [optional, Except.ok.injEq, map_eq_ok] at read
  case null =>
    subst read
    intro a absent
    cases absent
  all_goals
    obtain ⟨b, checked, rfl⟩ := read
    intro a member
    cases member
    exact checked

theorem exists_of_items {check : Value → Checked α} {values : List Value} {index : Nat}
    {found : List α} (read : items check index values = .ok found) :
    ∀ a ∈ found, ∃ value ∈ values, check value = .ok a := by
  induction values generalizing index found with
  | nil =>
    cases read
    exact fun a member => absurd member List.not_mem_nil
  | cons value rest ih =>
    simp only [items, map_eq_ok, both_eq_ok, inside_eq_ok] at read
    obtain ⟨⟨first, others⟩, ⟨checked, checkedRest⟩, rfl⟩ := read
    intro a member
    rcases List.mem_cons.mp member with rfl | member
    · exact ⟨value, List.mem_cons_self, checked⟩
    · obtain ⟨source, hsource, checkedSource⟩ := ih checkedRest a member
      exact ⟨source, List.mem_cons_of_mem _ hsource, checkedSource⟩

/-- Every item of a list has been checked. -/
theorem exists_of_list {check : Value → Checked α} {value : Value} {found : List α}
    (read : list check value = .ok found) : ∀ a ∈ found, ∃ item, check item = .ok a := by
  cases value <;> simp only [list, fail_ne_ok] at read
  intro a member
  obtain ⟨item, _, checked⟩ := exists_of_items read a member
  exact ⟨item, checked⟩

@[simp] theorem record_eq_ok {subject : Subject} {check : Members → Checked α} {value : Value}
    {a : α} : record subject check value = .ok a ↔
      ∃ members, value = .object members ∧ check members = .ok a := by
  cases value <;> simp [record]

end Check
end Diagnostics
