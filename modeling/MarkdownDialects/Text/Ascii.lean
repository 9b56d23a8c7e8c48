import MarkdownDialects.Text.Basic

/-!
# ASCII classes

The classes of ASCII characters that Markdown and HTML are written in.
-/

namespace MarkdownDialects

namespace Ascii

/-- Space, tab, line feed, line tabulation, form feed and carriage return. -/
def isSpace (c : Char) : Bool := c == ' ' || (9 ≤ c.toNat && c.toNat ≤ 13)

/-- Space, tab and the line ends: what is trimmed from the ends of a text. -/
def isTrimmed (c : Char) : Bool := c == ' ' || c == '\t' || c == '\n' || c == '\r'

/-- Printable ASCII that is neither a letter, a digit nor a space. -/
def isPunctuation (c : Char) : Bool :=
  33 ≤ c.toNat && c.toNat ≤ 126 && !c.isAlphanum

/-- The control characters. -/
def isControl (c : Char) : Bool := c.toNat < 32 || c.toNat == 127

/-- Space and tab. -/
def isBlank (c : Char) : Bool := c == ' ' || c == '\t'

end Ascii

end MarkdownDialects
