import MarkdownDialects.Text.Basic

/-!
# Patterns

A pattern recognises a piece of text at one place.  It may look at the character before that place
(anchors do) and at everything after it.  Scanning a text with a pattern goes from left to right:
where the pattern matches, the match is taken and scanning goes on behind it; where it does not,
one character is kept.
-/

namespace MarkdownDialects

/-- A piece of text that a pattern recognised, with what its groups hold. -/
structure Match where
  whole : Text
  groups : List Text
deriving DecidableEq

namespace Match

/-- The text of a group by number; group 0 is the whole match.  A group that does not exist holds
nothing. -/
def group (m : Match) : Nat → Text
  | 0 => m.whole
  | n + 1 => m.groups.getD n []

/-- All group texts, the whole match first. -/
def texts (m : Match) : List Text := m.whole :: m.groups

end Match

/-- A pattern tries to match at one place, given the character before it and the text from there.
The matched text is a front part of that text. -/
abbrev Pattern := Option Char → Text → Option Match

/-- A piece of a scanned text: a character no match covers, or a match. -/
inductive Piece where
  | kept (c : Char)
  | hit (m : Match)
deriving DecidableEq

namespace Pattern

/-- The place before the first character or after a line feed. -/
def atLineStart : Option Char → Bool
  | none => true
  | some c => c == '\n'

/-- The place after the last character or before a line feed. -/
def atLineEnd : Text → Bool
  | [] => true
  | c :: _ => c == '\n'

/-- A literal text. -/
def literal (needle : Text) : Pattern := fun _ t =>
  if Text.startsWith t needle then some ⟨needle, []⟩ else none

/-- Scan a text.  `skip` is the number of characters that the last match still covers.  An empty
match keeps the character it stands before, so scanning always moves on. -/
def scanFrom (p : Pattern) : Option Char → Nat → Text → List Piece
  | before, 0, [] =>
    match p before [] with
    | some m => [.hit m]
    | none => []
  | _, _ + 1, [] => []
  | _, skip + 1, c :: cs => scanFrom p (some c) skip cs
  | before, 0, c :: cs =>
    match p before (c :: cs) with
    | some m =>
      match m.whole.length with
      | 0 => .hit m :: .kept c :: scanFrom p (some c) 0 cs
      | n + 1 => .hit m :: scanFrom p (some c) n cs
    | none => .kept c :: scanFrom p (some c) 0 cs

/-- The pieces of a whole text. -/
def scan (p : Pattern) (t : Text) : List Piece := scanFrom p none 0 t

/-- The matches of a pattern in a text, from left to right and without overlaps. -/
def findAll (p : Pattern) (t : Text) : List Match :=
  (scan p t).filterMap fun
    | .kept _ => none
    | .hit m => some m

/-- Every match replaced by the text `f` makes of it; all other characters are kept. -/
def replaceAll (p : Pattern) (f : Match → Text) (t : Text) : Text :=
  (scan p t).flatMap fun
    | .kept c => [c]
    | .hit m => f m

end Pattern

end MarkdownDialects
