import MarkdownDialects.Text.Ascii

/-!
# Raw HTML in Markdown

Recognisers for the pieces of HTML that Markdown passes through: tags, comments, processing
instructions, declarations and character data sections.  Each answers with what follows the piece.
-/

namespace MarkdownDialects

namespace Markdown

namespace RawHtml

/-- Characters of a tag name after its first letter. -/
def isTagNameChar (c : Char) : Bool := c.isAlphanum || c == '-'

/-- What follows a tag name. -/
def afterTagName? : Text → Option Text
  | c :: rest => if c.isAlpha then some (rest.dropWhile isTagNameChar) else none
  | [] => none

/-- What follows an attribute name. -/
def afterAttributeName? : Text → Option Text
  | c :: rest =>
    if c.isAlpha || c == '_' || c == ':' then
      some (rest.dropWhile fun d =>
        d.isAlphanum || d == ':' || d == '.' || d == '_' || d == '-')
    else none
  | [] => none

/-- Characters of an attribute value without quotes. -/
def isBareValueChar (c : Char) : Bool :=
  !(Ascii.isSpace c || c == '"' || c == '\'' || c == '=' || c == '<' || c == '>' || c == '`')

/-- What follows the closing `mark`. -/
def afterMark? (mark : Char) (t : Text) : Option Text :=
  match t.dropWhile (· != mark) with
  | _ :: rest => some rest
  | [] => none

/-- What follows an attribute value. -/
def afterValue? : Text → Option Text
  | '"' :: rest => afterMark? '"' rest
  | '\'' :: rest => afterMark? '\'' rest
  | c :: rest => if isBareValueChar c then some (rest.dropWhile isBareValueChar) else none
  | [] => none

/-- What follows an attribute: a name, and perhaps an equals sign and a value. -/
def afterAttribute? (t : Text) : Option Text := do
  let rest ← afterAttributeName? t
  match rest.dropWhile Ascii.isSpace with
  | '=' :: value => afterValue? (value.dropWhile Ascii.isSpace)
  | _ => some rest

/-- What follows the attributes of a tag; white space stands before each of them. -/
def afterAttributes : Nat → Text → Option Text
  | 0, t => some t
  | fuel + 1, t =>
    let name := t.dropWhile Ascii.isSpace
    if name.length < t.length && (afterAttributeName? name).isSome then
      match afterAttribute? name with
      | some rest => afterAttributes fuel rest
      | none => none
    else some t

/-- What follows an opening tag, given the text after `<`. -/
def afterOpeningTag? (t : Text) : Option Text := do
  let rest ← afterTagName? t
  let rest ← afterAttributes t.length rest
  match rest.dropWhile Ascii.isSpace with
  | '>' :: rest => some rest
  | '/' :: '>' :: rest => some rest
  | _ => none

/-- What follows a closing tag, given the text after `<`. -/
def afterClosingTag? : Text → Option Text
  | '/' :: t => do
    let rest ← afterTagName? t
    match rest.dropWhile Ascii.isSpace with
    | '>' :: rest => some rest
    | _ => none
  | _ => none

/-- What follows a tag, given the text after `<`. -/
def afterTag? (t : Text) : Option Text := (afterOpeningTag? t).or (afterClosingTag? t)

/-- What follows the name of a declaration, in capital letters, and the white space after it. -/
def afterDeclarationName? (t : Text) : Option Text :=
  let rest := t.dropWhile Char.isUpper
  let inside := rest.dropWhile Ascii.isSpace
  if rest.length < t.length && inside.length < rest.length then some inside else none

/-- What follows the opening of a character data section, in any case. -/
def afterSectionStart? (t : Text) : Option Text :=
  let mark := "CDATA[".toList
  if Text.eqIgnoreAsciiCase (t.take mark.length) mark then some (t.drop mark.length) else none

/-- What follows the first `-->`, where a run of dashes is read in groups of three. -/
def afterCommentInside? : Text → Option Text
  | '-' :: '-' :: '>' :: rest => some rest
  | '-' :: '-' :: _ :: rest => afterCommentInside? rest
  | '-' :: c :: rest => if c == '-' then none else afterCommentInside? rest
  | _ :: rest => afterCommentInside? rest
  | [] => none

/-- What follows the first `]]>`, where a run of brackets is read in groups of three. -/
def afterSectionInside? : Text → Option Text
  | ']' :: ']' :: '>' :: rest => some rest
  | ']' :: ']' :: _ :: rest => afterSectionInside? rest
  | ']' :: c :: rest => if c == ']' then none else afterSectionInside? rest
  | _ :: rest => afterSectionInside? rest
  | [] => none

/-- What follows the first `?>`, where a run of question marks is read in pairs. -/
def afterInstructionInside? : Text → Option Text
  | '?' :: '>' :: rest => some rest
  | '?' :: _ :: rest => afterInstructionInside? rest
  | _ :: rest => afterInstructionInside? rest
  | [] => none

end RawHtml

end Markdown

end MarkdownDialects
