import MarkdownDialects.Html.Builder.Foreign
import MarkdownDialects.Html.Lexer

/-!
# Reading HTML documents

A document is read to the end whatever its text is: every text is some document.
-/

namespace MarkdownDialects

namespace Html

namespace Builder

/-- Whether a declaration asks for the layout of old browsers. -/
def isLegacy (d : Doctype) : Bool :=
  let publicId := d.publicId.map fun t => String.ofList (Text.lowerAscii t)
  let systemId := d.systemId.map fun t => String.ofList (Text.lowerAscii t)
  let startsWithAny (fronts : List String) : Bool :=
    publicId.any fun id => fronts.any fun front => id.startsWith front
  d.malformed || d.name != "html".toList ||
    publicId.any legacyPublicIds.contains || startsWithAny legacyPublicFronts ||
    systemId == some legacySystemId || systemId.isNone && startsWithAny legacyWithoutSystem

/-- Take some text, null by null and run by run.  The fuel is the length of the text. -/
def takeText : Nat → Text → Builder → Builder
  | 0, _, b => b
  | _, [], b => b
  | fuel + 1, '\x00' :: rest, b => takeText fuel rest (b.take .null)
  | fuel + 1, c :: rest, b =>
    let isLike (d : Char) : Bool := d != '\x00' && isSpace d == isSpace c
    let run := c :: rest.takeWhile isLike
    takeText fuel (rest.dropWhile isLike) (b.take (if isSpace c then .space run else .text run))

/-- A line feed at the start of a text is dropped where the element asks for it.  A line feed that
is written as a reference without semicolon is not. -/
def withoutLineFeed (drops : Bool) : Text → Text
  | '\n' :: rest => if drops then rest else '\n' :: rest
  | t => t

/-- Take a token. -/
def takeToken (b : Builder) (token : Token) : Builder :=
  let drops := b.dropLineFeed
  let b := { b with dropLineFeed := false }
  match token with
  | .characters t => takeText t.length (withoutLineFeed drops t) b
  | .reference t closed => takeText t.length (withoutLineFeed (drops && closed) t) b
  | .null => b.take .null
  | .comment t => b.take (.comment t)
  | .startTag t => { b with content := .data }.take (.opening t)
  | .endTag t => { b with content := .data }.take (.closing t)
  | .doctype d =>
    if b.mode = .initial then { b with legacy := isLegacy d, mode := .beforeHtml } else b
  | .eof => b.take .eof

/-- Whether the innermost open element is foreign. -/
def isInForeign (b : Builder) : Bool := b.currentIs (·.space != .html)

/-- Take all tokens of a text.  Every token has at least one character, so the length of the text
bounds their number.  `last` is the name of the last start tag. -/
def takeAll : Nat → String → Text → Builder → Builder
  | 0, _, _, b => b
  | _, _, [], b => b
  | fuel + 1, last, t, b =>
    match Lexer.next b.content last b.isInForeign t with
    | (some token, rest) =>
      let last := match token with
        | .startTag tag => tag.name
        | _ => last
      takeAll fuel last rest (b.takeToken token)
    | (none, rest) => takeAll fuel last rest { b with dropLineFeed := false }

end Builder

/-- A text as it is read: a mark of the byte order at its start is dropped, and all lines end in
line feeds. -/
def cleaned (t : Text) : Text :=
  (Text.normalizeNewlines (if t.head? == some '\ufeff' then t.drop 1 else t)).map fun c =>
    if c == '\r' then '\n' else c

/-- Read a document. -/
def parse (t : Text) : List Node :=
  let t := cleaned t
  ((Builder.takeAll (t.length + 1) "" t .start).takeToken .eof).forest.document

end Html

end MarkdownDialects
