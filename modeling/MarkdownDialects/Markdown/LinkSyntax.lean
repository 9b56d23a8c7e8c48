import MarkdownDialects.Markdown.Escape
import MarkdownDialects.Text.CaseMap

/-!
# The parts of a link

Labels in brackets, destinations, and titles, as they are written in inline links and in link
reference definitions.  Each reader answers with what it read and what follows.
-/

namespace MarkdownDialects

namespace Markdown

/-- The largest size of a link label in bytes. -/
def maxLabelSize : Nat := 1000

/-- The inside of a label, up to its closing bracket.  `size` counts the bytes read so far; `inside`
holds the characters read, in reverse. -/
def labelInside? (size : Nat) (inside : Text) : Text → Option (Text × Text)
  | [] => none
  | '[' :: _ => none
  | ']' :: rest => some (inside.reverse, rest)
  | '\\' :: c :: rest =>
    if Ascii.isPunctuation c then
      if maxLabelSize < size + 2 then none else labelInside? (size + 2) (c :: '\\' :: inside) rest
    else
      if maxLabelSize < size + 1 then none else labelInside? (size + 1) ('\\' :: inside) (c :: rest)
  | c :: rest =>
    let size := size + c.utf8Size
    if maxLabelSize < size then none else labelInside? size (c :: inside) rest
termination_by t => t.length

/-- A link label in brackets; white space around it is not part of it. -/
def label? : Text → Option (Text × Text)
  | '[' :: rest => (labelInside? 0 [] rest).map fun (inside, rest) => (trimAscii inside, rest)
  | _ => none

/-- Runs of white space as one space each; `spaced` tells whether such a run comes right before. -/
def collapseBlanks (spaced : Bool) : Text → Text
  | [] => []
  | c :: rest =>
    if Text.isBlank c then
      if spaced then collapseBlanks true rest else ' ' :: collapseBlanks true rest
    else c :: collapseBlanks false rest

/-- A label in the form in which labels are compared: trimmed, every run of white space collapsed,
case folded. -/
def normalizeLabel (label : Text) : Text := Text.caseFold (collapseBlanks false (trimAscii label))

/-- A destination in angle brackets, after the opening one.  `inside` is reversed.  Something must
follow the closing bracket. -/
def bracketedDestination? (inside : Text) : Text → Option (Text × Text)
  | [] => none
  | '>' :: rest => if rest.isEmpty then none else some (inside.reverse, rest)
  | '\\' :: c :: rest => bracketedDestination? (c :: '\\' :: inside) rest
  | c :: rest =>
    if c == '\n' || c == '\r' || c == '<' then none else bracketedDestination? (c :: inside) rest

/-- The deepest nesting of parentheses in a bare destination. -/
def maxParentheses : Nat := 32

/-- A bare destination.  Parentheses must be balanced: `depth` counts the open ones.  It ends at
white space, a control character or a closing parenthesis, one of which must follow. -/
def bareDestination? (depth : Nat) (inside : Text) : Text → Option (Text × Text)
  | [] => none
  | '\\' :: c :: rest =>
    if Ascii.isPunctuation c then bareDestination? depth (c :: '\\' :: inside) rest
    else bareDestination? depth ('\\' :: inside) (c :: rest)
  | c :: rest =>
    let finish : Option (Text × Text) :=
      if depth = 0 then some (inside.reverse, c :: rest) else none
    if c == '(' then
      if maxParentheses ≤ depth then none else bareDestination? (depth + 1) (c :: inside) rest
    else if c == ')' then
      match depth with
      | 0 => finish
      | depth + 1 => bareDestination? depth (c :: inside) rest
    else if Ascii.isSpace c || Ascii.isControl c then
      if inside.isEmpty then none else finish
    else bareDestination? depth (c :: inside) rest
termination_by t => t.length

/-- A link destination, still with its escapes. -/
def destination? : Text → Option (Text × Text)
  | '<' :: rest => bracketedDestination? [] rest
  | t => bareDestination? 0 [] t

/-- The inside of a title, up to its closing mark.  A closing mark after a backslash is part of the
title if the title can still be closed further on; `best` is the last such mark.  `escaped` tells
whether a backslash comes right before. -/
def titleInside? (opening closing : Char) (best : Option (Text × Text)) (escaped : Bool)
    (inside : Text) : Text → Option (Text × Text)
  | [] => best
  | c :: rest =>
    let here := some (inside.reverse, rest)
    if c == closing then
      if escaped then titleInside? opening closing here false (c :: inside) rest else here
    else if c == opening && !escaped then best
    else titleInside? opening closing best (c == '\\') (c :: inside) rest

/-- A link title in quotes or parentheses: its inside, still with its escapes. -/
def title? : Text → Option (Text × Text)
  | '"' :: rest => titleInside? '"' '"' none false [] rest
  | '\'' :: rest => titleInside? '\'' '\'' none false [] rest
  | '(' :: rest => titleInside? '(' ')' none false [] rest
  | _ => none

/-- What follows spaces and tabs. -/
abbrev skipBlanks (t : Text) : Text := t.dropWhile Ascii.isBlank

/-- What follows a line end; the end of the text is one too. -/
def afterLineEnd? : Text → Option Text
  | [] => some []
  | '\n' :: rest => some rest
  | _ => none

/-- What follows spaces and tabs with at most one line end among them. -/
def skipBlanksAndLineEnd (t : Text) : Text :=
  match afterLineEnd? (skipBlanks t) with
  | some rest => skipBlanks rest
  | none => skipBlanks t

/-- Where a link leads, and its title. -/
structure Target where
  url : Text
  title : Text
deriving DecidableEq

/-- The target in the parentheses of an inline link, after the opening one: `url "title")`. -/
def inlineTarget? (t : Text) : Option (Target × Text) := do
  let (url, rest) ← destination? (t.dropWhile Ascii.isSpace)
  let afterUrl := rest.dropWhile Ascii.isSpace
  let (title, rest) :=
    if afterUrl.length = rest.length then ([], rest) else (title? afterUrl).getD ([], afterUrl)
  match rest.dropWhile Ascii.isSpace with
  | ')' :: rest => some (⟨plainText (trimAscii url), plainText title⟩, rest)
  | _ => none

/-- A link reference definition: its label in normal form, and its target. -/
structure Definition where
  label : Text
  target : Target
deriving DecidableEq

namespace Definition

/-- The definition that a paragraph starts with, and what follows it.  If the line does not end
after a title, the title may be no title at all. -/
def read? (t : Text) : Option (Definition × Text) := do
  let (label, rest) ← label? t
  guard !label.isEmpty
  let rest ← Text.after? [':'] rest
  let (url, rest) ← destination? (skipBlanksAndLineEnd rest)
  let target (title : Text) : Definition :=
    ⟨normalizeLabel label, plainText (trimAscii url), plainText title⟩
  let afterUrl := skipBlanksAndLineEnd rest
  let titled := if afterUrl.length = rest.length then none else title? afterUrl
  let withTitle := titled.bind fun (title, rest) =>
    (afterLineEnd? (skipBlanks rest)).map fun rest => (target title, rest)
  match withTitle with
  | some found => some found
  | none =>
    let rest ← afterLineEnd? (skipBlanks rest)
    some (target (match titled with | some (title, _) => title | none => []), rest)

/-- The definitions a paragraph starts with, and the text after them. -/
def readAll (fuel : Nat) (t : Text) : List Definition × Text :=
  match fuel, read? t with
  | fuel + 1, some (d, rest) =>
    let (ds, rest) := readAll fuel rest
    (d :: ds, rest)
  | _, _ => ([], t)

/-- The target of a label: the first definition of it counts. -/
def lookup? (definitions : List Definition) (label : Text) : Option Target :=
  if label.isEmpty then none
  else (definitions.find? fun d => d.label == label).map Definition.target

end Definition

end Markdown

end MarkdownDialects
