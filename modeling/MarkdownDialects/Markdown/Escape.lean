import MarkdownDialects.Text.Ascii
import MarkdownDialects.Text.Entity
import MarkdownDialects.Text.Numeral
import MarkdownDialects.Text.Percent

/-!
# Escapes in Markdown text

Two notations stand for characters in Markdown: a backslash before ASCII punctuation, and character
references such as `&amp;` and `&#42;`.
-/

namespace MarkdownDialects

namespace Markdown

/-- The character of a numeric reference.  Zero, surrogates and values that are no code point are
shown as the replacement character. -/
def referencedChar (n : Nat) : Char :=
  if n = 0 || (0xD800 ≤ n && n ≤ 0xE000) || 0x110000 ≤ n then '\ufffd' else Char.ofNat n

/-- A numeric reference after `&#`: its character and what follows the semicolon.  It has one to
seven digits. -/
def numericReference? (t : Text) : Option (Text × Text) :=
  let finish (n : Nat) (count : Nat) (rest : Text) : Option (Text × Text) :=
    match rest with
    | ';' :: rest => if 1 ≤ count && count ≤ 7 then some ([referencedChar n], rest) else none
    | _ => none
  match t with
  | x :: rest =>
    if x.isDigit then
      let digits := t.takeWhile Char.isDigit
      finish (Numeral.value digits) digits.length (t.dropWhile Char.isDigit)
    else if x == 'x' || x == 'X' then
      let isHex (c : Char) : Bool := (Percent.hexValue? c).isSome
      let digits := rest.takeWhile isHex
      let value := digits.foldl (fun n c => 16 * n + (Percent.hexValue? c).getD 0) 0
      finish value digits.length (rest.dropWhile isHex)
    else none
  | [] => none

/-- A named reference after `&`: its characters and what follows the semicolon. -/
def namedReference? (t : Text) : Option (Text × Text) :=
  let name := t.takeWhile Char.isAlphanum
  match t.dropWhile Char.isAlphanum with
  | ';' :: rest => if 2 ≤ name.length then (Entity.lookup? name).map (·, rest) else none
  | _ => none

/-- A character reference after `&`: its characters and what follows it. -/
def characterReference? : Text → Option (Text × Text)
  | '#' :: rest => numericReference? rest
  | t => namedReference? t

/-- Read all character references.  `skip` counts the characters of the last one still ahead. -/
def decodeReferencesFrom : Nat → Text → Text
  | _, [] => []
  | skip + 1, _ :: rest => decodeReferencesFrom skip rest
  | 0, c :: rest =>
    if c = '&' then
      match characterReference? rest with
      | some (chars, after) => chars ++ decodeReferencesFrom (rest.length - after.length) rest
      | none => c :: decodeReferencesFrom 0 rest
    else c :: decodeReferencesFrom 0 rest

/-- A text with every character reference replaced by what it stands for. -/
def decodeReferences (t : Text) : Text := decodeReferencesFrom 0 t

/-- A text with one level of backslash escapes removed: a backslash before ASCII punctuation stands
for that character. -/
def unescape : Text → Text
  | '\\' :: c :: rest =>
    if Ascii.isPunctuation c then c :: unescape rest else '\\' :: unescape (c :: rest)
  | c :: rest => c :: unescape rest
  | [] => []

/-- The text that a link destination or title stands for. -/
def plainText (t : Text) : Text := unescape (decodeReferences t)

/-- A text without spaces, tabs and line ends at either end. -/
abbrev trimAscii (t : Text) : Text := Text.trimBy Ascii.isTrimmed t

end Markdown

end MarkdownDialects
