import Diagnostics.Error
import Diagnostics.Paint.Escape
import Diagnostics.Text.Lowercase

/-!
Styles of terminal text. A style is written as words: attributes, a colour for the text, and a
colour behind "on" for the ground. The last word about each of them counts.
-/
namespace Diagnostics

/-- A colour: one of sixteen, or the one that the terminal has by itself. -/
inductive Colour where
  | standard (index : Nat)
  | ordinary
  deriving DecidableEq

namespace Colour

/-- The names of the eight dark colours, in order; the bright ones follow in the same order. -/
def names : List Text :=
  ["black", "red", "green", "yellow", "blue", "magenta", "cyan", "white"].map String.toList

/-- The place of a name in a list of names. -/
def indexIn (name : Text) : Nat → List Text → Option Nat
  | _, [] => none
  | index, other :: rest => if name = other then some index else indexIn name (index + 1) rest

/-- The number between the brackets of a colour by number: one to three digits. -/
def numberIn? (text : Text) : Option Nat :=
  let opening := "color(".toList
  if opening.isPrefixOf text then
    let digits := (text.drop opening.length).takeWhile Text.isPlainDigit
    if 1 ≤ digits.length ∧ digits.length ≤ 3 ∧ text = opening ++ digits ++ [')'] then
      some (Number.ofDigitText digits)
    else none
  else none

/-- The colour that a word names, in any case. -/
def ofWord? (word : Text) : Option Colour :=
  let word := Text.lower word
  if word = "default".toList then some .ordinary
  else
    let bright := "bright_".toList
    let named :=
      if bright.isPrefixOf word then (indexIn (word.drop bright.length) 0 names).map (· + 8)
      else indexIn word 0 names
    match named with
    | some index => some (.standard index)
    | none => (numberIn? word).bind fun n => if n < 16 then some (.standard n) else none

/-- The code of a colour, counted from that of the first dark one. -/
def code (first : Nat) : Colour → Nat
  | .standard index => if index < 8 then first + index else first + 52 + index
  | .ordinary => first + 9

end Colour

structure Style where
  /-- The codes of the attributes that are on. -/
  attributes : List Nat
  foreground : Option Colour
  background : Option Colour
  deriving DecidableEq

namespace Style

def plain : Style := ⟨[], none, none⟩

/-- The words for attributes, with their codes. -/
def attributeWords : List (String × Nat) :=
  [("bold", 1), ("b", 1), ("dim", 2), ("d", 2), ("italic", 3), ("i", 3), ("underline", 4), ("u", 4),
   ("blink", 5), ("blink2", 6), ("reverse", 7), ("r", 7), ("conceal", 8), ("c", 8), ("strike", 9),
   ("s", 9), ("underline2", 21), ("uu", 21), ("frame", 51), ("encircle", 52), ("overline", 53),
   ("o", 53)]

/-- The codes of all attributes, in the order in which they are written. -/
def attributeCodes : List Nat := [1, 2, 3, 4, 5, 6, 7, 8, 9, 21, 51, 52, 53]

def attribute? (word : Text) : Option Nat :=
  (attributeWords.find? fun entry => entry.1.toList = word).map Prod.snd

def withAttribute (style : Style) (code : Nat) : Style :=
  { style with attributes := code :: style.attributes }

def withoutAttribute (style : Style) (code : Nat) : Style :=
  { style with attributes := style.attributes.filter (· != code) }

/-- What the words of a style add to a style. -/
def addWords (style : Style) : List Text → Option Style
  | [] => some style
  | word :: rest =>
    let small := Text.lower word
    if small = "on".toList then
      match rest with
      | [] => none
      | ground :: rest =>
        match Colour.ofWord? ground with
        | some colour => addWords { style with background := some colour } rest
        | none => none
    else if small = "not".toList then
      match rest with
      | [] => none
      | name :: rest =>
        match attribute? name with
        | some code => addWords (style.withoutAttribute code) rest
        | none => none
    else
      match attribute? small with
      | some code => addWords (style.withAttribute code) rest
      | none =>
        match Colour.ofWord? small with
        | some colour => addWords { style with foreground := some colour } rest
        | none => none

/-- The style that a text describes. Blanks alone and the word "none" alone describe the plain
one. -/
def parse (text : Text) : Outcome Style :=
  if Text.trim Text.isBlank text = "none".toList then .ok plain
  else match addWords plain (Text.words text) with
    | some style => .ok style
    | none => .error .style

def codes (style : Style) : List Nat :=
  attributeCodes.filter (fun code => style.attributes.contains code) ++
    (style.foreground.map (Colour.code 30)).toList ++
    (style.background.map (Colour.code 40)).toList

/-- A text in a style: the codes of the style, the text, and the code that ends all of them. -/
def render (style : Style) (text : Text) : Text :=
  match style.codes with
  | [] => text
  | codes =>
    escapeChar :: '[' :: (Text.joinWith [';'] (codes.map Number.numeral) ++ 'm' :: text ++
      [escapeChar, '[', '0', 'm'])

end Style

/-- How styles are read, and how a style that can be read paints a text. -/
abbrev Palette := Text → Outcome (Text → Text)

def Style.palette : Palette := fun written => (parse written).map render

end Diagnostics
