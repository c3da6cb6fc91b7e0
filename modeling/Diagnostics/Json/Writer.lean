import Diagnostics.Value.Basic
import Diagnostics.Number.Shortest
import Diagnostics.Text.Quoted

/-!
Writing values as JSON: two blanks for each level of nesting, every member and item on a row of its
own, and only characters from the blank to the tilde. Characters above U+FFFF are written as two
16-bit units.
-/
namespace Diagnostics.Json

/-- A 16-bit unit as an escape. -/
def unitEscape (unit : Nat) : Text := '\\' :: 'u' :: Text.hexField 4 unit

def charUnits (c : Char) : List Nat :=
  if c.toNat < 0x10000 then [c.toNat]
  else [0xD800 + (c.toNat - 0x10000) / 0x400, 0xDC00 + (c.toNat - 0x10000) % 0x400]

/-- The letter that stands for a character behind a backslash. -/
def escapeLetter? (c : Char) : Option Char :=
  if c == '"' then some '"'
  else if c == '\\' then some '\\'
  else if c == '\n' then some 'n'
  else if c == '\r' then some 'r'
  else if c == '\t' then some 't'
  else if c == '\x0c' then some 'f'
  else if c == '\x08' then some 'b'
  else none

def writeChar (c : Char) : Text :=
  match escapeLetter? c with
  | some letter => ['\\', letter]
  | none => if ' ' ≤ c ∧ c ≤ '~' then [c] else (charUnits c).flatMap unitEscape

def writeString (text : Text) : Text := '"' :: (text.flatMap writeChar ++ ['"'])

/-- How numbers without digits are spelt. -/
def specialNumbers : Number.SpecialTexts := ⟨"NaN".toList, "Infinity".toList⟩

/-- A value that holds no others. -/
def writeScalar : Value → Text
  | .null => "null".toList
  | .flag true => "true".toList
  | .flag false => "false".toList
  | .integer n => Number.integerText n
  | .real x => Number.floatText specialNumbers x
  | .text t => writeString t
  | .moment written => writeString written
  | .list _ => "[]".toList
  | .object _ => "{}".toList

/-- The start of a row at some depth. -/
def newRow (depth : Nat) : Text := '\n' :: List.replicate (2 * depth) ' '

mutual
/-- A value at some depth. -/
def writeAt (depth : Nat) : Value → Text
  | .list (first :: rest) =>
    '[' :: (newRow (depth + 1) ++ writeAt (depth + 1) first ++ writeItems depth rest)
  | .object ((key, value) :: rest) =>
    '{' :: (newRow (depth + 1) ++ writeString key ++ ':' :: ' ' :: writeAt (depth + 1) value ++
      writeMembers depth rest)
  | value => writeScalar value
/-- The items after the first one, and the bracket that ends the list. -/
def writeItems (depth : Nat) : List Value → Text
  | [] => newRow depth ++ [']']
  | value :: rest =>
    ',' :: (newRow (depth + 1) ++ writeAt (depth + 1) value ++ writeItems depth rest)
/-- The members after the first one, and the brace that ends the object. -/
def writeMembers (depth : Nat) : List (Text × Value) → Text
  | [] => newRow depth ++ ['}']
  | (key, value) :: rest =>
    ',' :: (newRow (depth + 1) ++ writeString key ++ ':' :: ' ' :: writeAt (depth + 1) value ++
      writeMembers depth rest)
end

def write (value : Value) : Text := writeAt 0 value

end Diagnostics.Json
