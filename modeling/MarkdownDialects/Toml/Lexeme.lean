import MarkdownDialects.Text.Numeral
import MarkdownDialects.Text.Percent

/-!
# The small parts of TOML

White space, comments, line ends, strings and keys.  A reader answers what it read and the text that
follows, or nothing if the text does not begin with what it reads.
-/

namespace MarkdownDialects

namespace Toml

/-- White space within a line. -/
def isGap (c : Char) : Bool := c == ' ' || c == '\t'

/-- The text after white space. -/
abbrev skipGap (t : Text) : Text := t.dropWhile isGap

/-- Characters that may stand in comments and strings: all but control characters other than
tabs. -/
def isPlain (c : Char) : Bool := c == '\t' || (' ' ≤ c && c != '\x7f')

/-- The text after a line end. -/
def newline? : Text → Option Text
  | '\n' :: rest | '\r' :: '\n' :: rest => some rest
  | _ => none

/-- The text after a comment, if there is one. -/
def skipComment : Text → Text
  | '#' :: rest => rest.dropWhile isPlain
  | t => t

/-- The text after the end of the current line, on which only a comment may still stand. -/
def lineEnd? (t : Text) : Option Text :=
  match skipComment (skipGap t) with
  | [] => some []
  | t => newline? t

/-- The text after white space, line ends and comments.  The fuel is the length of the text. -/
def skipLines : Nat → Text → Text
  | 0, t => t
  | fuel + 1, t =>
    match newline? (skipComment (skipGap t)) with
    | some rest => skipLines fuel rest
    | none => skipGap t

/-- The character that hexadecimal digits name. -/
def scalar? (digits : Text) : Option Char := do
  let values ← digits.mapM Percent.hexValue?
  let n := values.foldl (fun n d => 16 * n + d) 0
  if h : n.isValidChar then some (Char.ofNatAux n h) else none

/-- The character that a letter after a backslash stands for. -/
def escaped? : Char → Option Char
  | 'b' => some '\x08'
  | 't' => some '\t'
  | 'n' => some '\n'
  | 'f' => some '\x0c'
  | 'r' => some '\r'
  | '"' => some '"'
  | '\\' => some '\\'
  | _ => none

/-- Put a character before what a reader read. -/
def cons (c : Char) : Text × Text → Text × Text
  | (t, rest) => (c :: t, rest)

/-- The string up to its closing quotation mark. -/
def basic? : Text → Option (Text × Text)
  | '"' :: rest => some ([], rest)
  | '\\' :: 'u' :: a :: b :: c :: d :: rest => do
    let e ← scalar? [a, b, c, d]
    return cons e (← basic? rest)
  | '\\' :: 'U' :: a :: b :: c :: d :: e :: f :: g :: h :: rest => do
    let x ← scalar? [a, b, c, d, e, f, g, h]
    return cons x (← basic? rest)
  | '\\' :: c :: rest => do
    let e ← escaped? c
    return cons e (← basic? rest)
  | c :: rest => if isPlain c then (basic? rest).map (cons c) else none
  | [] => none

/-- The string on several lines up to its closing quotation marks.  While `trimming`, white space
and line ends are left out. -/
def multilineBasic? : Bool → Text → Option (Text × Text)
  | _, '"' :: '"' :: '"' :: '"' :: '"' :: rest => some (['"', '"'], rest)
  | _, '"' :: '"' :: '"' :: '"' :: rest => some (['"'], rest)
  | _, '"' :: '"' :: '"' :: rest => some ([], rest)
  | _, '\\' :: 'u' :: a :: b :: c :: d :: rest => do
    let e ← scalar? [a, b, c, d]
    return cons e (← multilineBasic? false rest)
  | _, '\\' :: 'U' :: a :: b :: c :: d :: e :: f :: g :: h :: rest => do
    let x ← scalar? [a, b, c, d, e, f, g, h]
    return cons x (← multilineBasic? false rest)
  | _, '\\' :: c :: rest =>
    if (newline? (skipGap (c :: rest))).isSome then multilineBasic? true (c :: rest)
    else do
      let e ← escaped? c
      return cons e (← multilineBasic? false rest)
  | trimming, '\r' :: '\n' :: rest | trimming, '\n' :: rest =>
    if trimming then multilineBasic? true rest else (multilineBasic? false rest).map (cons '\n')
  | trimming, c :: rest =>
    if !isPlain c then none
    else if trimming && isGap c then multilineBasic? true rest
    else (multilineBasic? false rest).map (cons c)
  | _, [] => none

/-- The literal string up to its closing apostrophe. -/
def literal? : Text → Option (Text × Text)
  | '\'' :: rest => some ([], rest)
  | c :: rest => if isPlain c then (literal? rest).map (cons c) else none
  | [] => none

/-- The literal string on several lines up to its closing apostrophes. -/
def multilineLiteral? : Text → Option (Text × Text)
  | '\'' :: '\'' :: '\'' :: '\'' :: '\'' :: rest => some (['\'', '\''], rest)
  | '\'' :: '\'' :: '\'' :: '\'' :: rest => some (['\''], rest)
  | '\'' :: '\'' :: '\'' :: rest => some ([], rest)
  | '\r' :: '\n' :: rest | '\n' :: rest => (multilineLiteral? rest).map (cons '\n')
  | c :: rest => if isPlain c then (multilineLiteral? rest).map (cons c) else none
  | [] => none

/-- A string. -/
def string? : Text → Option (Text × Text)
  | '"' :: '"' :: '"' :: rest => multilineBasic? false ((newline? rest).getD rest)
  | '\'' :: '\'' :: '\'' :: rest => multilineLiteral? ((newline? rest).getD rest)
  | '"' :: rest => basic? rest
  | '\'' :: rest => literal? rest
  | _ => none

/-- Characters of keys without quotation marks. -/
def isBareKeyChar (c : Char) : Bool := c.isAlphanum || c == '_' || c == '-'

/-- A key without full stops. -/
def simpleKey? (t : Text) : Option (Text × Text) :=
  match t with
  | '"' :: rest => basic? rest
  | '\'' :: rest => literal? rest
  | t =>
    match t.takeWhile isBareKeyChar with
    | [] => none
    | key => some (key, t.dropWhile isBareKeyChar)

/-- The number of parts that a key may have. -/
def maxKeyParts : Nat := 79

/-- A key of at most `room` parts, which are set apart by full stops. -/
def keyParts? : Nat → Text → Option (List Text × Text)
  | 0, _ => none
  | room + 1, t => do
    let (first, rest) ← simpleKey? (skipGap t)
    match skipGap rest with
    | '.' :: rest => do
      let (more, rest) ← keyParts? room rest
      return (first :: more, rest)
    | rest => return ([first], rest)

/-- A key, whose parts are set apart by full stops. -/
def key? (t : Text) : Option (List Text × Text) := keyParts? maxKeyParts t

end Toml

end MarkdownDialects
