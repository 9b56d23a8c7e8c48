import MarkdownDialects.Text.Basic
import MarkdownDialects.Text.Category

/-!
# Escaping literal text

Text is written with backslashes before the characters that would mark it up, and before what would
make its line something other than a paragraph.
-/

namespace MarkdownDialects

namespace Serialize

/-- Characters that mark up text wherever they stand. -/
def isMarkup (c : Char) : Bool :=
  c == '\\' || c == '*' || c == '`' || c == '[' || c == ']' || c == '_'

/-- A backslash before every character that marks up text. -/
def escapeMarkup (t : Text) : Text := t.flatMap fun c => if isMarkup c then ['\\', c] else [c]

/-- Whether a line with this text would start a list, a heading, a fence, a quote, or underline the
text before it. -/
def startsBlock : Text → Bool
  | '-' :: _ | '+' :: ' ' :: _ | '=' :: _ | '~' :: '~' :: '~' :: _ | '>' :: _ => true
  | '#' :: rest =>
    match rest.dropWhile (· == '#') with
    | ' ' :: _ => (rest.takeWhile (· == '#')).length ≤ 5
    | _ => false
  | _ => false

/-- The text after a number, with a backslash before the full stop that would make it mark an item
of a list. -/
def escapeStop : Text → Text
  | '.' :: ' ' :: rest => '\\' :: '.' :: ' ' :: rest
  | t => t

/-- Escape what has a meaning at the start of a line. -/
def escapeStart (t : Text) : Text :=
  if startsBlock t then '\\' :: t
  else
    match t.takeWhile Category.isDigit with
    | [] => t
    | number => number ++ escapeStop (t.dropWhile Category.isDigit)

/-- Text written so that it is read as itself. -/
def escape (t : Text) : Text := escapeStart (escapeMarkup t)

/-- Text written inside a cell of a table: a bar does not end the cell. -/
def escapeBars (t : Text) : Text := Text.replaceChar '|' ['\\', '|'] t

end Serialize

end MarkdownDialects
