import Diagnostics.Paint.Painter
import Mathlib.Data.List.Chain

/-!
Cells in groups. Neighbours of one role make one text, which is painted as a whole: a painter that
gathers characters until the role changes paints the maximal groups one after the other.
-/
namespace Diagnostics.Painter
variable {cells : List (Char × Option Role)} {groups : List (Text × Option Role)} {text : Text}
  {role : Option Role}

/-- The cells that a text of one role stands for. -/
def cellsOf (group : Text × Option Role) : List (Char × Option Role) :=
  group.1.map fun c => (c, group.2)

/-- Cells in maximal groups of one role each. -/
structure Grouped (cells : List (Char × Option Role)) (groups : List (Text × Option Role)) :
    Prop where
  /-- No cell is lost, doubled or moved, and each keeps its role. -/
  whole : groups.flatMap cellsOf = cells
  solid : ∀ group ∈ groups, group.1 ≠ []
  /-- No group can be longer, for its neighbours have other roles. -/
  maximal : groups.IsChain fun group next => group.2 ≠ next.2

/-- The maximal groups of some cells. -/
def groupsOf : List (Char × Option Role) → List (Text × Option Role)
  | [] => []
  | (c, role) :: rest =>
    match groupsOf rest with
    | [] => [([c], role)]
    | (text, next) :: later =>
      if role = next then (c :: text, role) :: later else ([c], role) :: (text, next) :: later

/-- A group of some role ends in front of some cells. -/
def ChangesAfter (role : Option Role) (cells : List (Char × Option Role)) : Prop :=
  ∀ cell ∈ cells.head?, role ≠ cell.2

/-! ## There is one way to group cells -/

theorem grouped_groupsOf (cells : List (Char × Option Role)) : Grouped cells (groupsOf cells) := by
  induction cells with
  | nil => exact ⟨rfl, by simp [groupsOf], .nil⟩
  | cons cell rest ih =>
    obtain ⟨c, role⟩ := cell
    rw [groupsOf]
    split
    next none =>
      rw [none] at ih
      obtain rfl : rest = [] := ih.whole.symm
      exact ⟨rfl, by simp, .singleton _⟩
    next text next later found =>
      rw [found] at ih
      have whole : (c, role) :: (cellsOf (text, next) ++ later.flatMap cellsOf) = (c, role) :: rest :=
        congrArg _ ih.whole
      split
      next same =>
        -- The cell joins the group behind it.
        subst same
        refine ⟨whole, ?_, ?_⟩
        · exact List.forall_mem_cons.mpr
            ⟨List.cons_ne_nil _ _, (List.forall_mem_cons.mp ih.solid).2⟩
        · exact List.isChain_cons.mpr (List.isChain_cons.mp ih.maximal)
      next change =>
        refine ⟨whole, ?_, ?_⟩
        · exact List.forall_mem_cons.mpr ⟨List.cons_ne_nil _ _, ih.solid⟩
        · exact List.isChain_cons_cons.mpr ⟨change, ih.maximal⟩

theorem Grouped.changesAfter_iff (grouped : Grouped cells groups) :
    ChangesAfter role cells ↔ ∀ group ∈ groups.head?, role ≠ group.2 := by
  rw [ChangesAfter, ← grouped.whole]
  cases groups with
  | nil => simp
  | cons group later =>
    obtain ⟨c, rest, same⟩ := List.exists_cons_of_ne_nil (grouped.solid group List.mem_cons_self)
    simp [cellsOf, same]

theorem groupsOf_run (solid : text ≠ []) (change : ChangesAfter role cells) :
    groupsOf (cellsOf (text, role) ++ cells) = (text, role) :: groupsOf cells := by
  induction text with
  | nil => contradiction
  | cons c rest ih =>
    cases rest with
    | nil =>
      have other := (grouped_groupsOf cells).changesAfter_iff.mp change
      change groupsOf ((c, role) :: cells) = _
      rw [groupsOf]
      split
      next none => rw [none]
      next text next later found =>
        rw [found, List.head?_cons] at other
        rw [found, if_neg (other _ rfl)]
    | cons d rest =>
      have later := ih (List.cons_ne_nil d rest)
      change groupsOf ((c, role) :: (cellsOf (d :: rest, role) ++ cells)) = _
      rw [groupsOf, later]
      exact if_pos rfl

theorem Grouped.eq_groupsOf (grouped : Grouped cells groups) : groups = groupsOf cells := by
  induction groups generalizing cells with
  | nil => rw [← grouped.whole]; rfl
  | cons group later ih =>
    obtain ⟨text, role⟩ := group
    have ⟨whole, solid, maximal⟩ := grouped
    rw [List.forall_mem_cons] at solid
    rw [List.isChain_cons] at maximal
    have behind : Grouped (later.flatMap cellsOf) later := ⟨rfl, solid.2, maximal.2⟩
    rw [← whole, List.flatMap_cons, groupsOf_run solid.1 (behind.changesAfter_iff.mpr maximal.1),
      ← ih behind]

theorem grouped_iff : Grouped cells groups ↔ groups = groupsOf cells :=
  ⟨Grouped.eq_groupsOf, fun same => same ▸ grouped_groupsOf cells⟩

example : groupsOf [('a', some .mark), ('b', some .mark), ('c', none), ('d', some .mark)] =
    [(['a', 'b'], some .mark), (['c'], none), (['d'], some .mark)] := by decide

/-! ## Painting -/

variable (p : Painter)

/-- Texts in the style of their roles, one behind the other. -/
def paintGroups (groups : List (Text × Option Role)) : Outcome Text :=
  (groups.mapM fun group => p.paintCell group.1 group.2).map List.flatten

theorem paintGroups_cons (group : Text × Option Role) (later : List (Text × Option Role)) :
    p.paintGroups (group :: later) =
      (p.paintCell group.1 group.2).bind fun painted => (p.paintGroups later).map (painted ++ ·) := by
  rw [paintGroups, paintGroups, List.mapM_cons]
  cases p.paintCell group.1 group.2 with
  | error e => rfl
  | ok painted => cases later.mapM fun group => p.paintCell group.1 group.2 <;> rfl

/-- What has been collected is the front of the first group. -/
theorem runsAfter_eq_paintGroups (collected : Text) (solid : collected ≠ []) (current : Option Role)
    (cells : List (Char × Option Role)) :
    p.runsAfter collected current cells =
      p.paintGroups (groupsOf (cellsOf (collected.reverse, current) ++ cells)) := by
  have turned : collected.reverse ≠ [] := mt List.reverse_eq_nil_iff.mp solid
  induction cells generalizing collected current with
  | nil =>
    have last : ChangesAfter current [] := by simp [ChangesAfter]
    rw [runsAfter, if_neg solid, groupsOf_run turned last, paintGroups_cons]
    cases p.paintCell collected.reverse current with
    | error e => rfl
    | ok painted => exact congrArg Except.ok (List.append_nil painted).symm
  | cons cell rest ih =>
    obtain ⟨c, role⟩ := cell
    rw [runsAfter]
    split
    next change =>
      -- The group ends here, and the cell starts the next one.
      have other : ChangesAfter current ((c, role) :: rest) := by
        simpa [ChangesAfter] using Ne.symm change.1
      rw [groupsOf_run turned other, paintGroups_cons, ih [c] (List.cons_ne_nil c []) role (by simp)]
      rfl
    next stay =>
      obtain rfl : role = current := by simpa [solid] using stay
      rw [ih (c :: collected) (List.cons_ne_nil c collected) role (by simp)]
      simp [cellsOf]

theorem runs_eq_paintGroups (cells : List (Char × Option Role)) :
    p.runs cells = p.paintGroups (groupsOf cells) := by
  cases cells with
  | nil => rfl
  | cons cell rest =>
    obtain ⟨c, role⟩ := cell
    have first : ¬(role ≠ none ∧ ([] : Text) ≠ []) := by simp
    rw [runs, runsAfter, if_neg first, runsAfter_eq_paintGroups p [c] (List.cons_ne_nil c []) role]
    rfl

theorem paintCell_eq_elim (text : Text) (role : Option Role) :
    p.paintCell text role = role.elim (.ok text) fun role => p.paint text role := by
  cases role <;> rfl

/-- Cells fall into maximal groups of one role in one way only, and painting them is to go through
these groups in order, each one once: a group without a role stays as it is, and any other one is
painted as a whole in the style of its role. -/
theorem runs_eq_maximalGroups (cells : List (Char × Option Role)) :
    ∃ groups, (∀ others, Grouped cells others ↔ others = groups) ∧
      p.runs cells = (groups.mapM fun group : Text × Option Role =>
        group.2.elim (.ok group.1) fun role => p.paint group.1 role).map List.flatten := by
  refine ⟨groupsOf cells, fun _ => grouped_iff, ?_⟩
  rw [runs_eq_paintGroups, paintGroups]
  simp only [paintCell_eq_elim]

end Diagnostics.Painter
