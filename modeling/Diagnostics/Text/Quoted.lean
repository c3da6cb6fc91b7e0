import Diagnostics.Text.Basic
import Diagnostics.Text.Printable

/-!
Quoted texts, as they stand in messages: single quotes unless the text holds a single quote and no
double quote; a backslash before the quote and the backslash; letters for tab, line feed and
carriage return; the code point in hexadecimal for all else that is not printable.
-/
namespace Diagnostics.Text

def hexDigit (n : Nat) : Char :=
  if n < 10 then Char.ofNat (48 + n) else Char.ofNat (87 + n)

/-- The last digits of a number in hexadecimal, in a field of some width. -/
def hexField : Nat → Nat → Text
  | 0, _ => []
  | width + 1, n => hexField width (n / 16) ++ [hexDigit (n % 16)]

/-- The quote that encloses a text. -/
def quoteFor (text : Text) : Char :=
  if text.contains '\'' && !text.contains '"' then '"' else '\''

/-- One character between quotes. -/
def quotedChar (quote c : Char) : Text :=
  if c == quote || c == '\\' then ['\\', c]
  else if c == '\t' then ['\\', 't']
  else if c == '\n' then ['\\', 'n']
  else if c == '\r' then ['\\', 'r']
  else if isPrintable c then [c]
  else if c.toNat < 0x100 then '\\' :: 'x' :: hexField 2 c.toNat
  else if c.toNat < 0x10000 then '\\' :: 'u' :: hexField 4 c.toNat
  else '\\' :: 'U' :: hexField 8 c.toNat

def quoted (text : Text) : Text :=
  let quote := quoteFor text
  quote :: (text.flatMap (quotedChar quote) ++ [quote])

end Diagnostics.Text
