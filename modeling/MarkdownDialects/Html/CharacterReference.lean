import MarkdownDialects.Text.Entity
import MarkdownDialects.Text.Numeral
import MarkdownDialects.Text.Percent

/-!
# Character references in HTML

References in HTML are read more freely than in Markdown: the semicolon may be missing after a
number and after some names, and numbers from 128 to 159 stand for the characters of an older
encoding.
-/

namespace MarkdownDialects

namespace Html

/-- The characters that the numbers from 128 on stand for; zero where the number is its own. -/
def windowsCharacters : List Nat :=
  [0x20AC, 0, 0x201A, 0x0192, 0x201E, 0x2026, 0x2020, 0x2021, 0x02C6, 0x2030, 0x0160, 0x2039,
    0x0152, 0, 0x017D, 0, 0, 0x2018, 0x2019, 0x201C, 0x201D, 0x2022, 0x2013, 0x2014, 0x02DC,
    0x2122, 0x0161, 0x203A, 0x0153, 0, 0x017E, 0x0178]

/-- The character that a number stands for. -/
def numberedChar (n : Nat) : Char :=
  if n = 0 || (0xD800 ≤ n && n ≤ 0xDFFF) || 0x110000 ≤ n then '\ufffd'
  else if 0x80 ≤ n && n ≤ 0x9F then
    match windowsCharacters.getD (n - 0x80) 0 with
    | 0 => Char.ofNat n
    | m => Char.ofNat m
  else Char.ofNat n

/-- What follows an optional semicolon. -/
def afterSemicolon : Text → Text
  | ';' :: rest => rest
  | t => t

/-- A numeric reference after `&#`: its character and what follows it. -/
def numberedReference? (t : Text) : Option (Text × Text) :=
  let isHex (c : Char) : Bool := (Percent.hexValue? c).isSome
  let hexadecimal (t : Text) : Option (Text × Text) :=
    let digits := t.takeWhile isHex
    let value := digits.foldl (fun n c => 16 * n + (Percent.hexValue? c).getD 0) 0
    if digits.isEmpty then none
    else some ([numberedChar value], afterSemicolon (t.dropWhile isHex))
  match t with
  | 'x' :: rest => hexadecimal rest
  | 'X' :: rest => hexadecimal rest
  | _ =>
    let digits := t.takeWhile Char.isDigit
    if digits.isEmpty then none
    else some ([numberedChar (Numeral.value digits)], afterSemicolon (t.dropWhile Char.isDigit))

/-- The longest front part of a text, of at most `n` characters, that is a name which needs no
semicolon. -/
def bareName? (t : Text) : Nat → Option Text
  | 0 => none
  | n + 1 =>
    let name := t.take (n + 1)
    if Entity.bareNames.any (·.toList == name) then some name else bareName? t n

/-- The length of the longest name that needs no semicolon. -/
def maxBareName : Nat := 6

/-- A named reference after `&`: its characters and what follows it.  In an attribute, a name
without semicolon is none if a letter, a digit or an equals sign follows. -/
def namedCharacters? (inAttribute : Bool) (t : Text) : Option (Text × Text) :=
  let name := t.takeWhile Char.isAlphanum
  let full := match t.dropWhile Char.isAlphanum with
    | ';' :: rest => (Entity.lookup? name).map (·, rest)
    | _ => none
  match full with
  | some found => some found
  | none => do
    let name ← bareName? name maxBareName
    let rest := t.drop name.length
    guard !(inAttribute && rest.head?.any fun c => c == '=' || c.isAlphanum)
    (Entity.lookup? name).map (·, rest)

/-- A character reference after `&`: its characters and what follows it. -/
def reference? (inAttribute : Bool) : Text → Option (Text × Text)
  | '#' :: rest => numberedReference? rest
  | t => namedCharacters? inAttribute t

end Html

end MarkdownDialects
