import Diagnostics.Text.Basic

/-!
Escape sequences of terminals: an escape character, an opening bracket, some parameters and a
final character. Texts can be stripped of them.
-/
namespace Diagnostics

/-- The character that starts a sequence. -/
def escapeChar : Char := '\x1b'

/-- Which sequences are meant: the characters of their parameters and their final ones. -/
structure Sequences where
  isParameter : Char → Bool
  isFinal : Char → Bool

namespace Sequences

/-- Sequences that change the look of the text behind them. -/
def look : Sequences where
  isParameter c := ('0' ≤ c && c ≤ '9') || c == ';'
  isFinal c := c == 'm'

/-- Sequences with any letter at their end. -/
def any : Sequences where
  isParameter c := ('0' ≤ c && c ≤ '9') || c == ';' || c == '?'
  isFinal c := ('a' ≤ c && c ≤ 'z') || ('A' ≤ c && c ≤ 'Z')

/-- The number of characters of a sequence behind its escape character, if the text goes on as
one. -/
def length? (s : Sequences) : Text → Option Nat
  | '[' :: rest =>
    match rest.dropWhile s.isParameter with
    | c :: _ =>
      if s.isFinal c then some ((rest.takeWhile s.isParameter).length + 2) else none
    | [] => none
  | _ => none

/-- A text without its sequences, where some characters at its front belong to one. -/
def stripAfter (s : Sequences) : Nat → Text → Text
  | _, [] => []
  | skipped + 1, _ :: rest => stripAfter s skipped rest
  | 0, c :: rest =>
    if c = escapeChar then
      match s.length? rest with
      | some n => stripAfter s n rest
      | none => c :: stripAfter s 0 rest
    else c :: stripAfter s 0 rest

/-- A text without its sequences. -/
def strip (s : Sequences) (text : Text) : Text := s.stripAfter 0 text

end Sequences
end Diagnostics
