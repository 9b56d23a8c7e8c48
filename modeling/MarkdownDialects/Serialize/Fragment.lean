import MarkdownDialects.Text.Basic

/-!
# Fragments of Markdown

A document is put together from fragments.  A block is a fragment with line feeds around it; where
two fragments meet, their line feeds are merged into at most one empty line.
-/

namespace MarkdownDialects

namespace Serialize

/-- Append a fragment. -/
def join (out piece : Text) : Text :=
  if piece.isEmpty then out
  else
    let body := piece.dropWhile (· == '\n')
    let kept := Text.trimEndBy (· == '\n') out
    let leading := piece.length - body.length
    let trailing := out.length - kept.length
    if leading = 0 ∧ trailing = 0 then out ++ piece
    else
      let kept := if 0 < leading then Text.trimEndBy (fun c => c == ' ' || c == '\t') kept else kept
      kept ++ Text.rep (min 2 (max trailing leading)) '\n' ++ body

@[simp]
theorem join_nil_right (out : Text) : join out [] = out := rfl

/-- Append fragments one after the other. -/
def joinAll (pieces : List Text) : Text := pieces.foldl join []

/-- A fragment that stands on lines of its own. -/
def block (t : Text) : Text := '\n' :: '\n' :: t ++ ['\n', '\n']

/-- Put delimiters around a text; white space at its ends stays outside them.  A text of white space
only vanishes. -/
def delimit (content delimiter : Text) : Text :=
  if Text.isAllBlank content then []
  else
    let start := Text.trimStart content
    let inner := Text.trimEnd start
    content.takeWhile Text.isBlank ++ delimiter ++ inner ++ delimiter ++ start.drop inner.length

/-- Put lines into a block quotation. -/
def quote (content : Text) : Text :=
  block <| Text.unlines <| (Text.lines (Text.trimBy (· == '\n') content)).map fun line =>
    if line.isEmpty then ['>'] else '>' :: ' ' :: line

/-- An item of a list: lines after the first are indented by the width of its mark. -/
def listItem (mark content : Text) : Text :=
  let content := Text.trimEnd (content.dropWhile (· == '\n'))
  let indent := Text.rep mark.length ' '
  match Text.lines content with
  | [] => mark
  | first :: rest =>
    Text.unlines <|
      (mark ++ first) :: rest.map fun line => if line.isEmpty then [] else indent ++ line

end Serialize

end MarkdownDialects
