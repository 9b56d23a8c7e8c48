import MarkdownDialects.Text.Utf8

/-!
# Writing text and addresses in HTML
-/

namespace MarkdownDialects

namespace Html

/-- A character as HTML text: the characters that mean something in HTML become references. -/
def escapeChar : Char → Text
  | '"' => "&quot;".toList
  | '&' => "&amp;".toList
  | '<' => "&lt;".toList
  | '>' => "&gt;".toList
  | c => [c]

/-- A text as HTML text. -/
def escape (t : Text) : Text := t.flatMap escapeChar

/-- Characters that stand for themselves in an address. -/
def isAddressChar (c : Char) : Bool := c.isAlphanum || "-_.+!*(),%#@?=;:/$~".toList.contains c

/-- A hexadecimal digit in upper case. -/
def hexDigit (n : Nat) : Char := "0123456789ABCDEF".toList.getD n '0'

/-- A byte in percent encoding. -/
def percentByte (b : UInt8) : Text := ['%', hexDigit (b.toNat / 16), hexDigit (b.toNat % 16)]

/-- A character as part of an address in an attribute. -/
def escapeAddressChar (c : Char) : Text :=
  if isAddressChar c then [c]
  else if c == '&' then "&amp;".toList
  else if c == '\'' then "&#x27;".toList
  else (Utf8.encode [c]).flatMap percentByte

/-- An address as the value of an attribute. -/
def escapeAddress (t : Text) : Text := t.flatMap escapeAddressChar

end Html

end MarkdownDialects
