import MarkdownDialects.Markdown.Inline.Basic

/-!
# Emphasis

Runs of `*`, `_` and `~` open and close emphasis.  From left to right, each run that can close looks
for the nearest run before it that can open and matches it.
-/

namespace MarkdownDialects

namespace Markdown

/-- A run of delimiter characters. -/
structure DelimiterRun where
  mark : Char
  /-- How many characters are not used up yet. -/
  count : Nat
  /-- How many characters the run had when it was read. -/
  length : Nat
  opens : Bool
  closes : Bool

/-- A piece of inline content while it is read. -/
inductive Token where
  | done (i : Inline)
  | run (r : DelimiterRun)
  /-- An opening bracket of a link or an image, after `position` characters of the text.  `followed`
  tells whether another bracket was opened after it. -/
  | bracket (image : Bool) (position : Nat) (followed : Bool)

namespace Token

/-- What a token is if it takes part in nothing larger: delimiters and brackets are text. -/
def plain : Token → Inline
  | .done i => i
  | .run r => .text (Text.rep r.count r.mark)
  | .bracket image _ _ => .text (if image then ['!', '['] else ['['])

end Token

namespace Emphasis

/-- Whether two runs match.  If one of them can both open and close, the sum of their lengths must
not be a multiple of three, unless both lengths are. -/
def pairs (opener closer : DelimiterRun) : Bool :=
  opener.opens && opener.mark == closer.mark &&
    !((closer.opens || opener.closes) && (opener.length + closer.length) % 3 == 0 &&
      !(opener.length % 3 == 0 && closer.length % 3 == 0))

/-- The nearest run to the left that matches a closing run, searched from right to left: the tokens
between, in reading order, the run, and the tokens before it, from right to left. -/
def findOpener? (closer : DelimiterRun) (between : List Token) :
    List Token → Option (List Token × DelimiterRun × List Token)
  | [] => none
  | .run r :: rest =>
    if pairs r closer then some (between, r, rest) else findOpener? closer (.run r :: between) rest
  | t :: rest => findOpener? closer (t :: between) rest

/-- The number of characters that two matching runs use up. -/
def usedBy (opener closer : DelimiterRun) : Nat :=
  if 2 ≤ opener.count && 2 ≤ closer.count then 2 else 1

/-- The content that two matching runs enclose. -/
def enclose (mark : Char) (used : Nat) (children : List Inline) : Inline :=
  if mark == '~' then .strikethrough children
  else if used = 1 then .emphasis children
  else .strong children

/-- A run with some characters used up; nothing is left of a run that is used up wholly. -/
def remaining (r : DelimiterRun) (used : Nat) : List Token :=
  if r.count ≤ used then [] else [.run { r with count := r.count - used }]

/-- Match the runs of a sequence of tokens.  `left` holds, from right to left, what is already
read.  Tildes match only as whole runs of equal length, and a pair of them that does not ends the
search.  Each step reads a token or uses up a character of one, which bounds their number. -/
def resolveFrom : Nat → List Token → List Token → List Token
  | 0, left, right => left.reverse ++ right
  | _ + 1, left, [] => left.reverse
  | fuel + 1, left, .run closer :: right =>
    if closer.closes then
      match findOpener? closer [] left with
      | some (between, opener, before) =>
        let used := usedBy opener closer
        if closer.mark == '~' && (opener.count != closer.count || used < opener.count) then
          left.reverse ++ .run closer :: right
        else
          let inner := enclose closer.mark used (Inline.joinTexts (between.map Token.plain))
          resolveFrom fuel (.done inner :: (remaining opener used ++ before))
            (remaining closer used ++ right)
      | none =>
        let kept := if closer.opens then Token.run closer else .done (Token.run closer).plain
        resolveFrom fuel (kept :: left) right
    else resolveFrom fuel (.run closer :: left) right
  | fuel + 1, left, t :: right => resolveFrom fuel (t :: left) right

/-- The number of steps that a token may take. -/
def stepsOf : Token → Nat
  | .run r => r.count + 1
  | _ => 1

/-- The number of steps that matching may take. -/
def steps (tokens : List Token) : Nat := tokens.foldr (fun t n => stepsOf t + n) 0

/-- The inline content that a sequence of tokens stands for. -/
def resolve (tokens : List Token) : List Inline :=
  Inline.joinTexts ((resolveFrom (steps tokens) [] tokens).map Token.plain)

end Emphasis

end Markdown

end MarkdownDialects
