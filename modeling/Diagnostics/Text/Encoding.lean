import Diagnostics.Text.Basic

/-!
Files hold bytes. A text file is read as UTF-8 and every line end in it, of whichever of the three
kinds, becomes a line feed.

A file that is read line by line is decoded in blocks. Where its bytes are no text, the lines can
still be read that end before the block in which that shows.
-/
namespace Diagnostics.Text

/-- The text that some bytes encode in UTF-8, if they do. -/
def ofBytes? (bytes : ByteArray) : Option Text := (String.fromUTF8? bytes).map String.toList

/-- The bytes of a text in UTF-8. -/
def toBytes (text : Text) : ByteArray := (String.ofList text).toUTF8

/-- A text with a line feed for every pair of carriage return and line feed. -/
def feedsOnly : Text → Text
  | [] => []
  | '\r' :: '\n' :: rest => '\n' :: feedsOnly rest
  | c :: rest => c :: feedsOnly rest

/-- A text with a line feed for every carriage return, and for every pair of both. -/
def plainLineEnds : Text → Text
  | [] => []
  | '\r' :: '\n' :: rest => '\n' :: plainLineEnds rest
  | '\r' :: rest => '\n' :: plainLineEnds rest
  | c :: rest => c :: plainLineEnds rest

/-- The lines of a text, each with the line feed that ends it. -/
def linesWithEnds : Text → List Text
  | [] => []
  | '\n' :: rest => ['\n'] :: linesWithEnds rest
  | c :: rest => if rest.isEmpty then [[c]] else onFirst c (linesWithEnds rest)

/-- What may follow some bytes: the number of bytes that their last character lacks, the bounds of the
next one of these, and the last one behind which the character may go on. -/
structure Continuation where
  count : Nat
  low : Nat
  high : Nat
  last : Nat
  deriving DecidableEq

namespace Continuation

/-- Nothing is lacking. -/
def complete : Continuation := ⟨0, 0, 0, 0⟩

/-- Some bytes are lacking, of which the next one may be any that is not the first of a
character. -/
def anyOf (count : Nat) : Continuation := ⟨count, 0x80, 0xBF, 0xBF⟩

/-- What the first byte of a character lacks, if a character may start with it. A surrogate is not
wrong before its third byte. -/
def ofFirst? (byte : Nat) : Option Continuation :=
  if byte < 0x80 then some complete
  else if 0xC2 ≤ byte ∧ byte < 0xE0 then some (anyOf 1)
  else if byte = 0xE0 then some ⟨2, 0xA0, 0xBF, 0xBF⟩
  else if byte = 0xED then some ⟨2, 0x80, 0xBF, 0x9F⟩
  else if 0xE0 < byte ∧ byte < 0xF0 then some (anyOf 2)
  else if byte = 0xF0 then some ⟨3, 0x90, 0xBF, 0xBF⟩
  else if 0xF0 < byte ∧ byte < 0xF4 then some (anyOf 3)
  else if byte = 0xF4 then some ⟨3, 0x80, 0x8F, 0x8F⟩
  else none

/-- What is lacking behind one more byte, if it may stand there. -/
def after? (c : Continuation) (byte : Nat) : Option Continuation :=
  if c.count = 0 then ofFirst? byte
  else if byte < c.low ∨ c.high < byte then none
  else if byte ≤ c.last then some (anyOf (c.count - 1))
  else some ⟨c.count - 1, 1, 0, 0⟩

/-- The number of bytes before the first one that may not stand in its place. -/
def soundLength (c : Continuation) : List UInt8 → Nat
  | [] => 0
  | byte :: rest => match c.after? byte.toNat with
    | some c => soundLength c rest + 1
    | none => 0

end Continuation

/-- The number of bytes that are decoded at once. -/
def blockSize : Nat := 8192

/-- The blocks of bytes before the first one that does not go on as a text. -/
def soundBlocks (bytes : ByteArray) : ByteArray :=
  let sound := Continuation.complete.soundLength bytes.toList
  if sound = bytes.size then bytes else bytes.extract 0 (sound / blockSize * blockSize)

/-- The text of some bytes, without a character that lacks bytes at their end. -/
def ofCutBytes (bytes : ByteArray) : Text :=
  ((List.range 4).findSome? fun lacking =>
    ofBytes? (bytes.extract 0 (bytes.size - lacking))).getD []

/-- The lines that can be read of bytes that are no text. A carriage return at the end does not end
a line yet. -/
def linesBeforeFault (bytes : ByteArray) : List Text :=
  let text := ofCutBytes (soundBlocks bytes)
  let text := if text.getLast? = some '\r' then text.dropLast else text
  (linesWithEnds (plainLineEnds text)).filter fun line => Text.endsIn line ['\n']

@[simp] theorem ofBytes?_toBytes (text : Text) : ofBytes? (toBytes text) = some text := by
  have valid : (toBytes text).IsValidUTF8 := (String.ofList text).isValidUTF8
  have read : String.fromUTF8? (toBytes text) = some (String.ofList text) := dif_pos valid
  rw [ofBytes?, read, Option.map_some, String.toList_ofList]

end Diagnostics.Text
