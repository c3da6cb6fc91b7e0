import Diagnostics.Proofs.Toml.Room
import Diagnostics.Settings.Source

/-!
What may come of a file of settings, whatever it holds: settings or an error of their own, unless its
bytes are no text, a number in it is too long, or there is too little room for what stands inside
other things.
-/
namespace Diagnostics.Settings
variable {room : Nat} {text : Text}

/-- An operation succeeds, or its error says what is wrong with the settings. -/
def Settled {α : Type} (outcome : Outcome α) : Prop :=
  (∃ a, outcome = .ok a) ∨ ∃ e, outcome = .error (.settings e)

theorem Settled.bind {α β : Type} {outcome : Outcome α} {next : α → Outcome β}
    (first : Settled outcome) (second : ∀ a, Settled (next a)) : Settled (outcome >>= next) := by
  obtain ⟨a, rfl⟩ | ⟨e, rfl⟩ := first
  · exact second a
  · exact .inr ⟨e, rfl⟩

theorem settled_sectionOf (document : Members) : Settled (sectionOf document) := by
  unfold sectionOf
  split
  · exact .inl ⟨_, rfl⟩
  · exact .inl ⟨_, rfl⟩
  · exact .inr ⟨_, rfl⟩

/-- Once there is a document, its section is read to the end, and all that is wrong with it is told. -/
theorem settled_ofText (document : Settled (documentOf room text)) : Settled (ofText room text) := by
  refine document.bind fun document => (settled_sectionOf document).bind fun members => ?_
  split
  · exact .inl ⟨_, rfl⟩
  · exact .inr ⟨_, rfl⟩

theorem ofText_of_tooDeep {nesting : Nesting}
    (short : Toml.read room text = .error (.tooDeep nesting)) :
    ofText room text = .error (.tooDeep nesting) := by
  rw [ofText, documentOf, short]
  rfl

/-- In all the room that it may take, a text gives settings or an error of their own, or a number in
it is too long. -/
theorem ofText_roomFor (text : Text) :
    Settled (ofText (Toml.roomFor text) text) ∨
      ∃ digits, ofText (Toml.roomFor text) text = .error (.integer (.tooLong digits)) ∧
        Number.digitLimit < digits ∧ Toml.HoldsDigits digits text := by
  cases found : Toml.read (Toml.roomFor text) text with
  | ok document =>
    refine .inl (settled_ofText (.inl ⟨document, ?_⟩))
    rw [documentOf, found]
  | error fault =>
    cases fault with
    | malformed =>
      refine .inl (settled_ofText (.inr ⟨.malformed, ?_⟩))
      rw [documentOf, found]
    | integer e =>
      obtain ⟨digits, rfl, long, holds⟩ := Toml.accounts_read found
      refine .inr ⟨digits, ?_, long, holds⟩
      rw [ofText, documentOf, found]
      rfl
    | tooDeep nesting => exact absurd found (Toml.suffices_roomFor text nesting)

/-- Whatever bytes a file holds: if they are no text, that is the error. If they are one, there is a
least room, for which its brackets and braces are a bound. In less room the text is too deep, and from
there on the outcome is always the same: settings or an error of their own, or else a number that
stands in the text has more digits than are read. -/
theorem load_settled_unless {files : Files} {path : Text} {place : Path} {file : File}
    (here : files.locate path = .file place file) :
    (Text.ofBytes? file.bytes = none ∧ ∀ room, load files room path = .error .encoding) ∨
      ∃ text least outcome, Text.ofBytes? file.bytes = some text ∧ least ≤ Toml.roomFor text ∧
        (∀ room < least, ∃ nesting, load files room path = .error (.tooDeep nesting)) ∧
        (∀ room ≥ least, load files room path = outcome) ∧
        (Settled outcome ∨ ∃ digits, outcome = .error (.integer (.tooLong digits)) ∧
          Number.digitLimit < digits ∧ Toml.HoldsDigits digits text) := by
  have loaded (room : Room) : load files room path = ofBytes room file.bytes := by rw [load, here]
  cases decoded : Text.ofBytes? file.bytes with
  | none => exact .inl ⟨rfl, fun room => by rw [loaded, ofBytes, decoded]⟩
  | some text =>
    have read (room : Room) : load files room path = ofText room text := by
      rw [loaded, ofBytes, decoded]
    obtain ⟨least, bound, short, enough⟩ := Toml.exists_leastRoom text
    refine .inr ⟨text, least, ofText (Toml.roomFor text) text, rfl, bound, ?_, ?_,
      ofText_roomFor text⟩
    · intro room less
      obtain ⟨nesting, tooDeep⟩ := short room less
      exact ⟨nesting, by rw [read, ofText_of_tooDeep tooDeep]⟩
    · intro room more
      rw [read, ofText, ofText, documentOf, documentOf, enough room more]

/-- A file with the one byte 255, which is no text. -/
def undecodable : File := ⟨⟨#[255]⟩, none⟩

theorem load_undecodable :
    (⟨[([['a']], undecodable)], [], []⟩ : Files).locate ['a'] = .file [['a']] undecodable ∧
      load ⟨[([['a']], undecodable)], [], []⟩ 995 ['a'] = .error .encoding := by
  have here : (⟨[([['a']], undecodable)], [], []⟩ : Files).locate ['a'] = .file [['a']] undecodable := rfl
  have noText : Text.ofBytes? undecodable.bytes = none := by decide +kernel
  refine ⟨here, ?_⟩
  obtain ⟨-, failed⟩ | ⟨text, _, _, decoded, -⟩ := load_settled_unless here
  · exact failed 995
  · exact absurd (noText.symm.trans decoded) nofun

end Diagnostics.Settings
