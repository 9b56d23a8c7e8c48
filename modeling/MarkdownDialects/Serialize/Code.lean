import MarkdownDialects.Html.Node
import MarkdownDialects.Serialize.Fragment
import MarkdownDialects.Serialize.Options

/-!
# Writing code

Code is written as it is, between runs of backticks that do not occur in it.
-/

namespace MarkdownDialects

namespace Serialize

open Html (Node Attribute)

/-- The lengths of the runs of backticks in a text, given the length of a run that ends where the
text begins. -/
def backtickRunsFrom : Nat → Text → List Nat
  | n, [] => if n = 0 then [] else [n]
  | n, c :: rest =>
    if c = '`' then backtickRunsFrom (n + 1) rest
    else if n = 0 then backtickRunsFrom 0 rest
    else n :: backtickRunsFrom 0 rest

/-- The lengths of the runs of backticks in a text. -/
def backtickRuns (t : Text) : List Nat := backtickRunsFrom 0 t

/-- The smallest number from `n` on that is not in a list.  The fuel is the list's length. -/
def smallestFrom (taken : List Nat) : Nat → Nat → Nat
  | 0, n => n
  | fuel + 1, n => if taken.contains n then smallestFrom taken fuel (n + 1) else n

/-- The length of the delimiters around some code. -/
def delimiterWidth (code : Text) : Nat :=
  let runs := backtickRuns code
  smallestFrom runs runs.length 1

/-- Whether code needs a space inside its delimiters, so that its own ends are told from them. -/
def needsPadding (code : Text) : Bool :=
  code.head? == some '`' || code.getLast? == some '`' ||
    code.head? == some ' ' && code.getLast? == some ' ' && !Text.isAllBlank code

/-- A code span. -/
def inlineCode (code : Text) : Text :=
  let code := code.map fun c => if c == '\r' || c == '\n' then ' ' else c
  if code.isEmpty then []
  else
    let delimiter := Text.rep (delimiterWidth code) '`'
    let pad := if needsPadding code then [' '] else []
    delimiter ++ pad ++ code ++ pad ++ delimiter

/-- The length of the fences around some code: three, or one more than the longest fence in it. -/
def fenceLength (code : Text) : Nat :=
  let runs := (Text.lines code).map fun line =>
    ((Text.trimStart line).takeWhile (· == '`')).length
  ((runs.filter (3 ≤ ·)).map (· + 1)).foldl max 3

/-- Code between fences. -/
def fencedCode (language code : Text) : Text :=
  let fence := Text.rep (fenceLength code) '`'
  fence ++ language ++ ['\n'] ++ code ++ ['\n'] ++ fence

/-- Code marked by indentation. -/
def indentedCode (code : Text) : Text :=
  Text.unlines <| (Text.lines code).map fun line =>
    if line.isEmpty then [] else Text.rep 4 ' ' ++ line

/-- The language that the classes of an element name. -/
def codeLanguage (attributes : List Attribute) : Text :=
  match attributes.find? (·.name == "class") with
  | some a => ((Text.words a.value).findSome? (Text.after? "language-".toList)).getD []
  | none => []

/-- The block for preformatted content: the code of the first code element in it, or all of it. -/
def codeBlock (style : CodeBlockStyle) (content : List Node) : Text :=
  let (code, language) := match content.find? (Node.isNamed "code") with
    | some n => (n.textContent, codeLanguage n.attributes)
    | none => (Node.textContents content, [])
  let code := (Text.before? ['\n'] code).getD code
  block <| match style with
    | .fenced => fencedCode language code
    | .indented => indentedCode code

end Serialize

end MarkdownDialects
