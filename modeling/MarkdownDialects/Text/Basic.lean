/-!
# Texts

A text is a list of code points.  All of this library works on texts; strings appear only where
names are compared and at the outer edge.  This module holds the operations every other module
uses: blank characters, trimming, lines and words.
-/

namespace MarkdownDialects

/-- A text, one character per code point. -/
abbrev Text := List Char

namespace Text

/-- White space as Unicode defines it: the property `White_Space`. -/
def isBlank (c : Char) : Bool :=
  let n := c.toNat
  (9 ≤ n && n ≤ 13) || n == 0x20 || n == 0x85 || n == 0xA0 || n == 0x1680 ||
    (0x2000 ≤ n && n ≤ 0x200A) || n == 0x2028 || n == 0x2029 || n == 0x202F ||
    n == 0x205F || n == 0x3000

/-- Everything after the leading characters that satisfy `p`. -/
abbrev trimStartBy (p : Char → Bool) (t : Text) : Text := t.dropWhile p

/-- Everything before the trailing characters that satisfy `p`. -/
def trimEndBy (p : Char → Bool) (t : Text) : Text := (t.reverse.dropWhile p).reverse

/-- Everything between the outermost characters that do not satisfy `p`. -/
def trimBy (p : Char → Bool) (t : Text) : Text := trimEndBy p (trimStartBy p t)

/-- The text without leading white space. -/
abbrev trimStart (t : Text) : Text := trimStartBy isBlank t

/-- The text without trailing white space. -/
abbrev trimEnd (t : Text) : Text := trimEndBy isBlank t

/-- The text without white space at either end. -/
abbrev trim (t : Text) : Text := trimBy isBlank t

/-- A text of white space only. -/
def isAllBlank (t : Text) : Bool := t.all isBlank

/-- The lines of a text: the pieces between line feeds.  There is always at least one. -/
abbrev lines (t : Text) : List Text := t.splitOn '\n'

/-- Lines put back together with a line feed between neighbours. -/
abbrev unlines (ls : List Text) : Text := ['\n'].intercalate ls

/-- The words of a text: its maximal runs of characters that are not white space. -/
def words (t : Text) : List Text := (t.splitOnP isBlank).filter (!·.isEmpty)

/-- Words put together with one space between neighbours. -/
abbrev unwords (ws : List Text) : Text := [' '].intercalate ws

/-- Whether a text begins with the given one. -/
abbrev startsWith (t front : Text) : Bool := front.isPrefixOf t

/-- Whether a text ends with the given one. -/
abbrev endsWith (t back : Text) : Bool := back.isSuffixOf t

/-- What follows `front`, if the text begins with it. -/
def after? (front : Text) (t : Text) : Option Text := front.isPrefixOf? t

/-- What precedes `back`, if the text ends with it. -/
def before? (back : Text) (t : Text) : Option Text := back.isSuffixOf? t

/-- Cut a text at the first place where `mark` begins: what comes before it and what after. -/
def cutAt? (mark : Text) : Text → Option (Text × Text)
  | [] => if mark.isEmpty then some ([], []) else none
  | c :: cs =>
    match after? mark (c :: cs) with
    | some rest => some ([], rest)
    | none => (cutAt? mark cs).map fun (front, rest) => (c :: front, rest)

/-- Every occurrence of one character replaced by a text. -/
def replaceChar (c : Char) (sub : Text) (t : Text) : Text :=
  t.flatMap fun d => if d = c then sub else [d]

/-- A character repeated. -/
abbrev rep (n : Nat) (c : Char) : Text := List.replicate n c

/-- Carriage return and line feed pairs become line feeds; a lone carriage return stays. -/
def normalizeNewlines : Text → Text
  | '\r' :: '\n' :: t => '\n' :: normalizeNewlines t
  | c :: t => c :: normalizeNewlines t
  | [] => []

/-- The lower-case form of an ASCII letter; any other character is itself. -/
abbrev lowerAscii (t : Text) : Text := t.map Char.toLower

/-- Equality up to the case of ASCII letters. -/
def eqIgnoreAsciiCase (s t : Text) : Bool := lowerAscii s == lowerAscii t

end Text

end MarkdownDialects
