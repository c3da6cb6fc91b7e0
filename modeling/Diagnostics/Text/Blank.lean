import Diagnostics.Text.CodeRange
import Diagnostics.Text.Basic

/-!
White space: the characters with the property White_Space and the four information separators
U+001C to U+001F.
-/
namespace Diagnostics.Text

def blankRanges : List (Nat × Nat) :=
  [(0x9, 0xD), (0x1C, 0x20), (0x85, 0x85), (0xA0, 0xA0), (0x1680, 0x1680), (0x2000, 0x200A),
   (0x2028, 0x2029), (0x202F, 0x202F), (0x205F, 0x205F), (0x3000, 0x3000)]

def isBlank (c : Char) : Bool := inRanges blankRanges c.toNat

/-- White space of the first 128 code points, without the information separators. -/
def isPlainBlank (c : Char) : Bool := c == ' ' || ('\t' ≤ c && c ≤ '\r')

/-- The words of a text: its longest pieces without white space. -/
def words (text : Text) : List Text :=
  collect [] text
where
  /-- The words of the rest, after a word that has been read in part, backwards. -/
  collect : Text → Text → List Text
    | [], [] => []
    | word, [] => [word.reverse]
    | word, c :: rest =>
      if isBlank c then
        if word.isEmpty then collect [] rest else word.reverse :: collect [] rest
      else collect (c :: word) rest

end Diagnostics.Text
