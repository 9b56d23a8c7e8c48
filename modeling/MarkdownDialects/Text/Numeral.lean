import MarkdownDialects.Text.Basic

/-!
# Numerals

Unsigned decimal numerals of 64 bits: an optional plus sign, then ASCII digits, with a value below
`2 ^ 64`; and the digits of a number.
-/

namespace MarkdownDialects

namespace Numeral

/-- One more than the largest number of 64 bits. -/
def bound : Nat := 18446744073709551616

/-- The value of a list of decimal digits. -/
def value (digits : Text) : Nat :=
  digits.foldl (fun n c => 10 * n + (c.toNat - '0'.toNat)) 0

/-- The number that a text of ASCII digits stands for. -/
def ofDigits? (t : Text) : Option Nat :=
  if !t.isEmpty && t.all Char.isDigit && value t < bound then some (value t) else none

/-- The number that a text stands for; one plus sign may precede the digits. -/
def parse? : Text → Option Nat
  | '+' :: t => ofDigits? t
  | t => ofDigits? t

/-- The decimal digits of a number. -/
def digits (n : Nat) : Text := Nat.toDigits 10 n

end Numeral

end MarkdownDialects
