/-!
Texts are lists of code points: every length, column and index of this library counts code points.
The code points are those of characters, and the halves of 16-bit pairs are none. A line break is a
line feed, with the carriage return before it if there is one.
-/
namespace Diagnostics

/-- A text, as its code points in order. -/
abbrev Text := List Char

namespace Text

/-- The part of a text left when the characters of a class are dropped from its end. -/
def trimEnd (inClass : Char → Bool) (text : Text) : Text :=
  (text.reverse.dropWhile inClass).reverse

/-- The part of a text left when the characters of a class are dropped from both ends. -/
def trim (inClass : Char → Bool) (text : Text) : Text :=
  trimEnd inClass (text.dropWhile inClass)

/-- Line feed or carriage return. -/
def isBreak (c : Char) : Bool := c == '\n' || c == '\r'

/-- A character in front of the first of some lines. -/
def onFirst (c : Char) : List Text → List Text
  | [] => [[c]]
  | line :: rest => (c :: line) :: rest

/-- The pieces of a text between its line breaks; there is always at least one piece. -/
def splitBreaks : Text → List Text
  | [] => [[]]
  | '\r' :: '\n' :: rest => [] :: splitBreaks rest
  | '\n' :: rest => [] :: splitBreaks rest
  | c :: rest => onFirst c (splitBreaks rest)

/-- The lines of a file: the pieces between breaks, without the empty piece after a final break. -/
def fileLines (text : Text) : List Text :=
  let pieces := splitBreaks text
  if pieces.getLast? = some [] then pieces.dropLast else pieces

/-- Some lines as one text, with a line feed between neighbours. -/
def joinLines : List Text → Text
  | [] => []
  | [line] => line
  | line :: next :: rest => line ++ '\n' :: joinLines (next :: rest)

/-- Some texts as one, with a separator between neighbours. -/
def joinWith (separator : Text) : List Text → Text
  | [] => []
  | [text] => text
  | text :: next :: rest => text ++ separator ++ joinWith separator (next :: rest)

/-- The pieces of a text between the occurrences of one character. -/
def splitOnChar (mark : Char) : Text → List Text
  | [] => [[]]
  | c :: rest => if c = mark then [] :: splitOnChar mark rest else onFirst c (splitOnChar mark rest)

def endsIn (text ending : Text) : Bool := ending.isSuffixOf text

/-- A text on the right of a field of some width, with blanks before it. -/
def padLeft (width : Nat) (text : Text) : Text :=
  List.replicate (width - text.length) ' ' ++ text

@[simp] theorem splitBreaks_nil : splitBreaks [] = [[]] := rfl

theorem splitBreaks_ne_nil (text : Text) : splitBreaks text ≠ [] := by
  fun_induction splitBreaks text with
  | case1 => simp
  | case2 => simp
  | case3 => simp
  | case4 c rest _ _ ih => cases h : splitBreaks rest <;> simp [onFirst]

end Text
end Diagnostics
