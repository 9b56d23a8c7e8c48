import MarkdownDialects.Html.Node
import MarkdownDialects.Serialize.Fragment

/-!
# Writing tables

A table is written with one line for each row and a line of delimiters after the first one.
-/

namespace MarkdownDialects

namespace Serialize

open Html (Node Attribute)

/-- Parts of a table that hold its rows. -/
def rowGroups : List String := ["thead", "tbody", "tfoot"]

/-- Whether an element of the given name is a cell. -/
def isCellName (name : String) : Bool := name == "th" || name == "td"

/-- Whether a node is a cell. -/
def isCell (n : Node) : Bool := n.name?.any isCellName

/-- The rows of a table, as the lists of their children. -/
def tableRows (content : List Node) : List (List Node) :=
  content.flatMap fun n =>
    if n.isNamed "tr" then [n.children]
    else if n.name?.any rowGroups.contains then
      (n.children.filter (Node.isNamed "tr")).map Node.children
    else []

/-- The alignment that a style asks for. -/
def styleAlignment? (style : Text) : Option Text :=
  let mark := "text-align:".toList
  (Text.cutAt? mark (Text.lowerAscii style)).map fun (_, rest) =>
    let rest := ((Text.cutAt? mark rest).map Prod.fst).getD rest
    Text.trim (rest.takeWhile (· != ';'))

/-- The alignment that an attribute asks for. -/
def attributeAlignment? (a : Attribute) : Option Text :=
  if a.name == "align" then some (Text.lowerAscii (Text.trim a.value))
  else if a.name == "style" then styleAlignment? a.value
  else none

/-- The delimiter of a column whose first cell is given. -/
def columnDelimiter (cell : Option Node) : Text :=
  match cell.bind fun n => n.attributes.findSome? attributeAlignment? with
  | some alignment =>
    if alignment = "left".toList then ":--".toList
    else if alignment = "right".toList then "--:".toList
    else if alignment = "center".toList then ":-:".toList
    else "---".toList
  | none => "---".toList

/-- A line of a table. -/
def tableLine (cells : List Text) : Text :=
  "| ".toList ++ " | ".toList.intercalate cells ++ " |".toList

/-- A cell as it is written: on one line. -/
def cellText (content : Text) : Text := Text.replaceChar '\n' [' '] (Text.trim content)

/-- A table, given the nodes of its first row and the texts of the cells of all rows.  Short rows
get empty cells; a table without cells vanishes. -/
def tableBlock (firstRow : List Node) (rows : List (List Text)) : Text :=
  let columns := (rows.map List.length).foldl max 0
  if columns = 0 then []
  else
    let heads := firstRow.filter isCell
    let delimiters := (List.range columns).map fun i => columnDelimiter heads[i]?
    let lines := rows.map fun row => tableLine (row ++ List.replicate (columns - row.length) [])
    block (Text.unlines (lines.take 1 ++ tableLine delimiters :: lines.drop 1))

end Serialize

end MarkdownDialects
