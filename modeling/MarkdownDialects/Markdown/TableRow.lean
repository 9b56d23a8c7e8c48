import MarkdownDialects.Markdown.Escape

/-!
# Rows of pipe tables

A row is cut at its pipes.  A pipe right after a backslash belongs to a cell, and the backslash
before it is dropped.
-/

namespace MarkdownDialects

namespace Markdown

/-- How the cells of a column are aligned. -/
inductive Alignment where
  | left
  | right
  | center
deriving DecidableEq

namespace TableRow

/-- White space inside a row. -/
def isRowSpace (c : Char) : Bool :=
  c == ' ' || c == '\t' || c == '\x0b' || c == '\x0c'

/-- What follows a pipe and the white space after it. -/
def afterPipe? : Text → Option Text
  | '|' :: rest => some (rest.dropWhile isRowSpace)
  | _ => none

/-- A cell up to the next pipe that does not follow a backslash, and what comes after it. -/
def cutCell (escaped : Bool) : Text → Text × Text
  | [] => ([], [])
  | c :: rest =>
    if c == '|' && !escaped then ([], c :: rest)
    else
      let (cell, rest) := cutCell (c == '\\') rest
      (c :: cell, rest)

/-- A text without the backslashes that stand before pipes. -/
def unescapePipes : Text → Text
  | '\\' :: '|' :: rest => '|' :: unescapePipes rest
  | c :: rest => c :: unescapePipes rest
  | [] => []

/-- The cells of a row that starts behind its first pipe. -/
def cellsFrom : Nat → Text → List Text
  | 0, _ => []
  | fuel + 1, t =>
    let (cell, rest) := cutCell false t
    let shown := trimAscii (unescapePipes cell)
    match afterPipe? rest with
    | some rest => shown :: cellsFrom fuel rest
    | none => if cell.isEmpty then [] else [shown]

/-- The largest number of cells in a row. -/
def maxCells : Nat := 65535

/-- The cells of a line, if it has any and not too many. -/
def ofLine? (line : Text) : Option (List Text) :=
  match cellsFrom (line.length + 1) ((afterPipe? line).getD line) with
  | [] => none
  | cells => if maxCells < cells.length then none else some cells

/-- A delimiter cell: dashes, with a colon on either side where the column is aligned. -/
def isDelimiterCell (cell : Text) : Bool :=
  let dashes := match cell with
    | ':' :: rest => rest
    | _ => cell
  let after := dashes.dropWhile (· == '-')
  after.length < dashes.length && (after.isEmpty || after == [':'])

/-- Whether a line is a row of delimiter cells. -/
def isDelimiterRow (line : Text) : Bool :=
  let row := Text.trimEndBy isRowSpace line
  let row := (Text.after? ['|'] row).getD row
  let row := (Text.before? ['|'] row).getD row
  (row.splitOn '|').all fun cell => isDelimiterCell (Text.trimBy isRowSpace cell)

/-- The alignment that a delimiter cell asks for. -/
def alignment? (cell : Text) : Option Alignment :=
  match cell.head? == some ':', cell.getLast? == some ':' with
  | true, true => some .center
  | true, false => some .left
  | false, true => some .right
  | false, false => none

/-- The number of cells that may be added to the rows of one table before it takes no more rows. -/
def maxMissing : Nat := 500000

/-- Make a row as long as the header: cells are dropped or added at the end. -/
def fit (columns : Nat) (cells : List Text) : List Text :=
  cells.take columns ++ List.replicate (columns - cells.length) []

end TableRow

end Markdown

end MarkdownDialects
