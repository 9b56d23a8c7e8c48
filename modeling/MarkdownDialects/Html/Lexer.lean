import MarkdownDialects.Html.CharacterReference
import MarkdownDialects.Html.Token

/-!
# Reading HTML tokens

One token is read at a time, since the meaning of the text ahead can hang on the elements that are
open.  Whatever the text, reading goes on: markup that makes no sense is text, a comment, or
nothing.
-/

namespace MarkdownDialects

namespace Html

namespace Lexer

/-- White space between the parts of a tag. -/
def isSpace (c : Char) : Bool := c == ' ' || c == '\t' || c == '\n' || c == '\x0c'

/-- A character with a null replaced. -/
def shown (c : Char) : Char := if c == '\x00' then '\ufffd' else c

/-- The name that some characters write. -/
def nameOf (t : Text) : String := String.ofList (t.map fun c => (shown c).toLower)

/-- The value of an attribute up to `quote`, and what follows the quote.  Without the quote there is
no tag.  `skip` counts the characters ahead that a reference still covers. -/
def quotedValue? (quote : Char) : Nat → Text → Option (Text × Text)
  | _, [] => none
  | skip + 1, _ :: rest => quotedValue? quote skip rest
  | 0, c :: rest =>
    if c == quote then some ([], rest)
    else
      let plain := (quotedValue? quote 0 rest).map fun (value, rest) => (shown c :: value, rest)
      if c == '&' then
        match reference? true rest with
        | some (chars, after) =>
          (quotedValue? quote (rest.length - after.length) rest).map fun (value, rest) =>
            (chars ++ value, rest)
        | none => plain
      else plain

/-- The value of an attribute without quotes, and the text from its end on. -/
def bareValue? : Nat → Text → Option (Text × Text)
  | _, [] => none
  | skip + 1, _ :: rest => bareValue? skip rest
  | 0, c :: rest =>
    if isSpace c || c == '>' then some ([], c :: rest)
    else
      let plain := (bareValue? 0 rest).map fun (value, rest) => (shown c :: value, rest)
      if c == '&' then
        match reference? true rest with
        | some (chars, after) =>
          (bareValue? (rest.length - after.length) rest).map fun (value, rest) =>
            (chars ++ value, rest)
        | none => plain
      else plain

/-- The value after an equals sign, and what follows it. -/
def value? (t : Text) : Option (Text × Text) :=
  match t.dropWhile isSpace with
  | '"' :: rest => quotedValue? '"' 0 rest
  | '\'' :: rest => quotedValue? '\'' 0 rest
  | '>' :: rest => some ([], '>' :: rest)
  | t => bareValue? 0 t

/-- Characters of an attribute name after the first. -/
def isNameChar (c : Char) : Bool := !(isSpace c || c == '/' || c == '>' || c == '=')

/-- An attribute with the given name unless the tag has one already: the first one counts. -/
def addAttribute (attributes : List Attribute) (name : Text) (value : Text) : List Attribute :=
  let name := nameOf name
  if attributes.any (·.name == name) then attributes else attributes ++ [⟨name, value⟩]

/-- The attributes of a tag up to its end: the attributes, whether a slash closes the tag, and what
follows it.  A tag that does not end is none.  Each round reads at least one character. -/
def attributes? : Nat → List Attribute → Text → Option (List Attribute × Bool × Text)
  | 0, _, _ => none
  | fuel + 1, found, t =>
    match t.dropWhile isSpace with
    | [] => none
    | '>' :: rest => some (found, false, rest)
    | '/' :: '>' :: rest => some (found, true, rest)
    | '/' :: rest => attributes? fuel found rest
    | c :: rest =>
      let name := c :: rest.takeWhile isNameChar
      let after := rest.dropWhile isNameChar
      match after.dropWhile isSpace with
      | '=' :: rest =>
        match value? rest with
        | some (value, rest) => attributes? fuel (addAttribute found name value) rest
        | none => none
      | _ => attributes? fuel (addAttribute found name []) after

/-- Characters of a tag name. -/
def isTagNameChar (c : Char) : Bool := !(isSpace c || c == '/' || c == '>')

/-- A tag, given the text from its name on, and what follows it. -/
def tag? (t : Text) : Option (Tag × Text) :=
  let name := t.takeWhile isTagNameChar
  (attributes? (t.length + 1) [] (t.dropWhile isTagNameChar)).map
    fun (attributes, selfClosing, rest) => (⟨nameOf name, attributes, selfClosing⟩, rest)

/-- The text of a comment up to its end mark, and what follows the mark. -/
def commentText : Text → Text × Text
  | [] => ([], [])
  | ['-'] => ([], [])
  | ['-', '-'] => ([], [])
  | ['-', '-', '!'] => ([], [])
  | '-' :: '-' :: '>' :: rest => ([], rest)
  | '-' :: '-' :: '!' :: '>' :: rest => ([], rest)
  | c :: rest =>
    let (t, rest) := commentText rest
    (shown c :: t, rest)

/-- A comment after `<!--`, and what follows it.  Its end mark may follow at once, in part. -/
def comment (t : Text) : Text × Text :=
  match t with
  | '>' :: rest => ([], rest)
  | '-' :: '>' :: rest => ([], rest)
  | t => commentText t

/-- Markup read as a comment up to the next `>`, and what follows it. -/
def bogusComment (t : Text) : Text × Text :=
  ((t.takeWhile (· != '>')).map shown, (t.dropWhile (· != '>')).drop 1)

/-- The text of a character data section, nulls included, and what follows it. -/
def section_ (t : Text) : Text × Text :=
  match Text.cutAt? "]]>".toList t with
  | some found => found
  | none => (t, [])

/-- The end of a document type declaration: what follows its `>`. -/
def doctypeEnd (d : Doctype) (t : Text) : Doctype × Text := (d, (t.dropWhile (· != '>')).drop 1)

/-- A declaration that is not well formed. -/
def brokenDoctype (d : Doctype) (t : Text) : Doctype × Text :=
  doctypeEnd { d with malformed := true } t

/-- A quoted identifier, and what follows it.  A `>` inside ends the declaration. -/
def identifier? : Text → Option (Text × Text)
  | quote :: rest =>
    if quote == '"' || quote == '\'' then
      let id := rest.takeWhile fun c => c != quote && c != '>'
      match rest.drop id.length with
      | c :: after => if c == quote then some (id.map shown, after) else none
      | [] => none
    else none
  | [] => none

/-- The rest of a declaration from where its system identifier may stand. -/
def doctypeSystem (required : Bool) (d : Doctype) (t : Text) : Doctype × Text :=
  match t.dropWhile isSpace with
  | '>' :: rest => ({ d with malformed := d.malformed || required }, rest)
  | t =>
    match identifier? t with
    | some (id, rest) =>
      let d := { d with systemId := some id }
      if (rest.dropWhile isSpace).isEmpty then brokenDoctype d [] else doctypeEnd d rest
    | none => brokenDoctype d t

/-- The rest of a declaration after its name. -/
def doctypeIds (d : Doctype) (t : Text) : Doctype × Text :=
  match t.dropWhile isSpace with
  | '>' :: rest => (d, rest)
  | t =>
    let keyword := Text.lowerAscii (t.take 6)
    if keyword == "public".toList then
      match identifier? ((t.drop 6).dropWhile isSpace) with
      | some (id, rest) => doctypeSystem false { d with publicId := some id } rest
      | none => brokenDoctype d (t.drop 6)
    else if keyword == "system".toList then doctypeSystem true d (t.drop 6)
    else brokenDoctype d t

/-- A document type declaration, given the text after its keyword, and what follows it. -/
def doctype (t : Text) : Doctype × Text :=
  let t := t.dropWhile isSpace
  let name := t.takeWhile fun c => !isSpace c && c != '>'
  let d : Doctype := ⟨name.map fun c => (shown c).toLower, none, none, name.isEmpty⟩
  doctypeIds d (t.drop name.length)

/-- The token that a `<!` starts, and what follows it.  A character data section is one only where
`foreign` holds. -/
def declaration (foreign : Bool) (t : Text) : Token × Text :=
  match Text.after? "--".toList t with
  | some rest =>
    let (text, rest) := comment rest
    (.comment text, rest)
  | none =>
    if Text.lowerAscii (t.take 7) == "doctype".toList then
      let (d, rest) := doctype (t.drop 7)
      (.doctype d, rest)
    else
      match foreign, Text.after? "[CDATA[".toList t with
      | true, some rest =>
        let (text, rest) := section_ rest
        (.characters text, rest)
      | _, _ =>
        let (text, rest) := bogusComment t
        (.comment text, rest)

/-- The token that a `<` starts, and what follows it.  A tag without end is no token. -/
def markup (foreign : Bool) (t : Text) : Option Token × Text :=
  match t with
  | '!' :: rest =>
    let (token, rest) := declaration foreign rest
    (some token, rest)
  | '?' :: _ =>
    let (text, rest) := bogusComment t
    (some (.comment text), rest)
  | '/' :: '>' :: rest => (none, rest)
  | '/' :: c :: rest =>
    if c.isAlpha then
      match tag? (c :: rest) with
      | some (tag, rest) => (some (.endTag tag), rest)
      | none => (none, [])
    else
      let (text, rest) := bogusComment (c :: rest)
      (some (.comment text), rest)
  | c :: _ =>
    if c.isAlpha then
      match tag? t with
      | some (tag, rest) => (some (.startTag tag), rest)
      | none => (none, [])
    else (some (.characters ['<']), t)
  | [] => (some (.characters ['<']), [])

/-- A character reference as text, or the ampersand itself, given the text after it. -/
def ampersand (t : Text) : Token × Text :=
  match reference? false t with
  | some (chars, rest) =>
    let written := t.take (t.length - rest.length)
    (.reference chars (written.getLast? == some ';'), rest)
  | none => (.characters ['&'], t)

/-- The end tag with the given name, given the text from its `<` on, and what follows it.  If its
name is there but the tag does not end, there is no token and nothing follows. -/
def endTagNamed? (name : String) : Text → Option (Option Token × Text)
  | '<' :: '/' :: rest =>
    let written := rest.takeWhile Char.isAlpha
    match rest.drop written.length with
    | c :: _ =>
      if nameOf written == name && !isTagNameChar c then
        match tag? rest with
        | some (tag, rest) => some (some (.endTag tag), rest)
        | none => some (none, [])
      else none
    | [] => none
  | _ => none

/-- A run of characters that satisfy `p`, nulls replaced, and what follows it. -/
def run (p : Char → Bool) (t : Text) : Token × Text :=
  (.characters ((t.takeWhile p).map shown), t.dropWhile p)

/-- The states of reading a script: outside comments, inside one, and inside a script tag within a
comment. -/
inductive ScriptState where
  | plain
  | escaped
  | doubleEscaped
deriving DecidableEq

/-- Whether the word `script` stands here and ends here. -/
def startsScript (t : Text) : Bool :=
  Text.lowerAscii (t.take 6) == "script".toList &&
    (t.drop 6).head?.any fun c => isSpace c || c == '/' || c == '>'

/-- The text of a script up to its end tag, and the text from the tag on.  `dashes` counts the
dashes right before. -/
def scriptText (name : String) : ScriptState → Nat → Text → Text × Text
  | _, _, [] => ([], [])
  | state, dashes, c :: rest =>
    if state != .doubleEscaped && (endTagNamed? name (c :: rest)).isSome then ([], c :: rest)
    else
      let next : ScriptState :=
        match state with
        | .plain => if Text.startsWith (c :: rest) "<!--".toList then .escaped else .plain
        | .escaped =>
          if c == '<' && startsScript rest then .doubleEscaped
          else if c == '>' && 2 ≤ dashes then .plain
          else .escaped
        | .doubleEscaped =>
          if c == '<' && rest.head? == some '/' && startsScript (rest.drop 1) then .escaped
          else if c == '>' && 2 ≤ dashes then .plain
          else .doubleEscaped
      let (t, after) := scriptText name next (if c == '-' then dashes + 1 else 0) rest
      (shown c :: t, after)

/-- Read one token from a text that is not empty.  `last` is the name of the last start tag.  Some
pieces of text are no token; then there is only what follows. -/
def next (mode : ContentMode) (last : String) (foreign : Bool) (t : Text) : Option Token × Text :=
  let some_ (found : Token × Text) : Option Token × Text := (some found.1, found.2)
  match mode, t with
  | _, [] => (none, [])
  | .data, '<' :: rest => markup foreign rest
  | .data, '&' :: rest => some_ (ampersand rest)
  | .data, '\x00' :: rest => (some .null, rest)
  | .data, t => some_ (run (fun c => c != '<' && c != '&' && c != '\x00') t)
  | .escapableText, '&' :: rest => some_ (ampersand rest)
  | .escapableText, '<' :: rest =>
    (endTagNamed? last ('<' :: rest)).getD (some (.characters ['<']), rest)
  | .escapableText, t => some_ (run (fun c => c != '<' && c != '&') t)
  | .rawText, '<' :: rest =>
    (endTagNamed? last ('<' :: rest)).getD (some (.characters ['<']), rest)
  | .rawText, t => some_ (run (· != '<') t)
  | .script, t =>
    match endTagNamed? last t with
    | some found => found
    | none =>
      let (text, rest) := scriptText last .plain 0 t
      (some (.characters text), rest)
  | .plainText, t => some_ (run (fun _ => true) t)

end Lexer

end Html

end MarkdownDialects
