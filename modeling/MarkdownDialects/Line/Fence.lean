import MarkdownDialects.Text.Basic

/-!
# Code fences

A fence is a run of three or more backticks or tildes that starts a line.  The rules here look at
one line at a time and ignore the white space around it.
-/

namespace MarkdownDialects

/-- The run that opens a fenced block: which character, and how many. -/
structure Fence where
  mark : Char
  length : Nat
deriving DecidableEq

namespace Fence

/-- How many times `c` is repeated at the start of a text. -/
def runLength (c : Char) (t : Text) : Nat := (t.takeWhile (· == c)).length

/-- The fence of a line, if the line is a fence delimiter.  An information string may follow. -/
def ofLine? (line : Text) : Option Fence :=
  let shown := Text.trim line
  ['`', '~'].findSome? fun c =>
    let n := runLength c shown
    if 3 ≤ n then some ⟨c, n⟩ else none

/-- A line closes a fence when it is a run of the same character, at least as long, and nothing
follows the run. -/
def closedBy (opened : Fence) (line : Text) : Bool :=
  match ofLine? line with
  | some run =>
    run.mark == opened.mark && opened.length ≤ run.length &&
      Text.isAllBlank ((Text.trim line).dropWhile (· == run.mark))
  | none => false

end Fence

end MarkdownDialects
