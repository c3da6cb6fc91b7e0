import Diagnostics.Text.Slice

/-!
Fix-it hints: single edits of one line. Columns count from one. A hint that inserts text names the
column before which the text goes, and counts as one column wide.
-/
namespace Diagnostics

/-- Some neighbouring columns of a line, possibly none. -/
structure Span where
  /-- The first column. -/
  index : Nat
  /-- The number of columns. -/
  length : Nat
  deriving DecidableEq

namespace Span

/-- The first column after a span. -/
def stop (s : Span) : Nat := s.index + s.length

def covers (s : Span) (column : Nat) : Bool := decide (s.index ≤ column ∧ column < s.stop)

/-- One of two spans starts inside the other or right behind it. -/
def touches (s other : Span) : Bool :=
  decide ((s.index ≤ other.index ∧ other.index ≤ s.stop) ∨
    (other.index ≤ s.index ∧ s.index ≤ other.stop))

/-- Spans touch if and only if their closed column intervals meet. -/
theorem touches_iff (s other : Span) :
    s.touches other = true ↔ s.index ≤ other.stop ∧ other.index ≤ s.stop := by
  rw [touches, decide_eq_true_iff]
  simp only [stop]
  omega

theorem touches_comm (s other : Span) : s.touches other = other.touches s := by
  rw [Bool.eq_iff_iff, touches_iff, touches_iff]
  exact And.comm

end Span

inductive HintKind where
  | mark
  | insert
  | remove
  | replace
  deriving DecidableEq

namespace HintKind

def all : List HintKind := [.mark, .insert, .remove, .replace]

def name : HintKind → Text
  | .mark => "mark".toList
  | .insert => "insert".toList
  | .remove => "remove".toList
  | .replace => "replace".toList

/-- The name of a kind in messages. -/
def title : HintKind → Text
  | .mark => "MARK".toList
  | .insert => "INSERT".toList
  | .remove => "REMOVE".toList
  | .replace => "REPLACE".toList

/-- The kind of exactly that name. -/
def ofName? (name : Text) : Option HintKind := all.find? (·.name = name)

/-- A kind that carries a text. -/
def hasText : HintKind → Bool
  | .mark | .remove => false
  | .insert | .replace => true

end HintKind

/-- One edit of a line. -/
inductive Hint where
  /-- Underline some columns and change nothing. -/
  | mark (span : Span)
  /-- Insert a text before a column. -/
  | insert (column : Nat) (text : Text)
  /-- Delete some columns. -/
  | remove (span : Span)
  /-- Replace some columns by a text. -/
  | replace (span : Span) (text : Text)
  deriving DecidableEq

namespace Hint

def kind : Hint → HintKind
  | .mark _ => .mark
  | .insert _ _ => .insert
  | .remove _ => .remove
  | .replace _ _ => .replace

def span : Hint → Span
  | .mark span => span
  | .insert column _ => ⟨column, 1⟩
  | .remove span => span
  | .replace span _ => span

def text? : Hint → Option Text
  | .mark _ => none
  | .insert _ text => some text
  | .remove _ => none
  | .replace _ text => some text

/-- The text that the hint puts into the line. -/
def newText (h : Hint) : Text := h.text?.getD []

def index (h : Hint) : Nat := h.span.index

/-- Columns count from one. -/
def Valid (h : Hint) : Prop := 1 ≤ h.index

instance (h : Hint) : Decidable h.Valid := inferInstanceAs (Decidable (1 ≤ h.index))

/-- A hint of a kind over a span, with a text exactly if the kind carries one. A text that is
inserted goes before the first column of a span of one column. -/
def ofParts? (kind : HintKind) (span : Span) (text : Option Text) : Option Hint :=
  match kind, text with
  | .mark, none => some (.mark span)
  | .insert, some text => if span.length = 1 then some (.insert span.index text) else none
  | .remove, none => some (.remove span)
  | .replace, some text => some (.replace span text)
  | _, _ => none

@[simp] theorem ofParts?_parts (h : Hint) : ofParts? h.kind h.span h.text? = some h := by
  cases h <;> simp [ofParts?, kind, span, text?]

/-- A line with a hint carried out, its columns moved to the right by an offset. -/
def applyAt (h : Hint) (line : Text) (offset : Int) : Text :=
  let start : Int := h.span.index - 1 + offset
  let stop : Int := start + h.span.length
  match h with
  | .mark _ => line
  | .insert _ text => Text.before line start ++ text ++ Text.since line start
  | .remove _ => Text.before line start ++ Text.since line stop
  | .replace _ text => Text.before line start ++ text ++ Text.since line stop

/-- A line with a hint carried out. -/
def apply (h : Hint) (line : Text) : Text := h.applyAt line 0

/-- Put a hint in front of the first one of a list that does not start before it. -/
def insertSorted (h : Hint) : List Hint → List Hint
  | [] => [h]
  | other :: rest => if h.index ≤ other.index then h :: other :: rest else other :: insertSorted h rest

/-- Hints in the order of their first columns; those of one column keep their order. -/
def sort : List Hint → List Hint
  | [] => []
  | h :: rest => insertSorted h (sort rest)

/-- The first hint that touches one behind it in a list, and the first that it touches. -/
def firstTouch? : List Hint → Option (Hint × Hint)
  | [] => none
  | h :: rest =>
    match rest.find? fun other => h.span.touches other.span with
    | some other => some (h, other)
    | none => firstTouch? rest

def Apart (hints : List Hint) : Prop :=
  hints.Pairwise fun h other => h.span.touches other.span = false

/-- No pair is found exactly in lists without touching hints. -/
theorem firstTouch?_eq_none_iff (hints : List Hint) : firstTouch? hints = none ↔ Apart hints := by
  induction hints with
  | nil => simp [firstTouch?, Apart]
  | cons h rest ih =>
    unfold firstTouch? Apart
    rw [List.pairwise_cons]
    cases found : rest.find? fun other => h.span.touches other.span with
    | none =>
      have free : ∀ other ∈ rest, h.span.touches other.span = false := by
        simpa using List.find?_eq_none.mp found
      exact ⟨fun none => ⟨free, ih.mp none⟩, fun pair => ih.mpr pair.2⟩
    | some other =>
      have member := List.mem_of_find?_eq_some found
      have touch : h.span.touches other.span = true := by
        simpa using List.find?_some found
      simp only [reduceCtorEq, false_iff, not_and]
      intro free
      have := free other member
      rw [touch] at this
      cases this

end Hint
end Diagnostics
