import MarkdownDialects.Markdown.Inline.Autolink
import MarkdownDialects.Markdown.Inline.Emphasis
import MarkdownDialects.Markdown.RawHtml
import MarkdownDialects.Markdown.References

/-!
# Reading inline content

The text of a paragraph, heading or cell is read from left to right into tokens.  A closing bracket
that completes a link or an image turns the tokens since its opening bracket into the content of
that link; what is left over at the end is matched for emphasis.
-/

namespace MarkdownDialects

namespace Markdown

/-- Inline content being read. -/
structure Reader where
  /-- What is still ahead. -/
  rest : Text
  /-- What is already read, in reverse. -/
  seen : Text
  /-- The tokens read so far, newest first. -/
  tokens : List Token
  /-- The definitions that labels may name. -/
  references : References
  /-- A bracket was opened, and no closing bracket has come since. -/
  inBrackets : Bool
  /-- A link was completed, and no bracket of a link was opened since: a link holds no link. -/
  linksBarred : Bool
  /-- No comment, character data section, declaration or processing instruction ends ahead. -/
  noComment : Bool
  noSection : Bool
  noDeclaration : Bool
  noInstruction : Bool
  /-- Some search for a closing run of backticks reached the end of the text. -/
  ticksScanned : Bool
  /-- Lengths and places of the backtick runs met by such searches, newest first. -/
  tickRuns : List (Nat × Nat)

namespace Reader

/-- Before the first character. -/
def ofText (references : References) (t : Text) : Reader where
  rest := t
  seen := []
  tokens := []
  references := references
  inBrackets := false
  linksBarred := true
  noComment := false
  noSection := false
  noDeclaration := false
  noInstruction := false
  ticksScanned := false
  tickRuns := []

/-- Go on to `rest`, which is an end part of what is ahead. -/
def goTo (r : Reader) (rest : Text) : Reader :=
  { r with rest, seen := (r.rest.take (r.rest.length - rest.length)).reverse ++ r.seen }

/-- Add a token. -/
def push (r : Reader) (t : Token) : Reader := { r with tokens := t :: r.tokens }

/-- Add a finished piece. -/
def add (r : Reader) (i : Inline) : Reader := r.push (.done i)

/-- Add a text. -/
def addText (r : Reader) (t : Text) : Reader := r.add (.text t)

/-- A line end: a hard break after two spaces, otherwise a soft one. -/
def readLineEnd (r : Reader) (rest : Text) : Reader :=
  let kind := match r.seen with
    | ' ' :: ' ' :: _ => Inline.lineBreak
    | _ => Inline.softBreak
  (r.goTo (skipBlanks rest)).add kind

/-- The longest run of backticks that can open a code span. -/
def maxTicks : Nat := 80

/-- The closing run of `n` backticks: the text before it and after it.  `place` is the number of
characters before the text.  All runs met are noted in `runs`. -/
def findTicks (n place : Nat) (runs : List (Nat × Nat)) (inside : Text) :
    Nat → Text → Option (Text × Text) × List (Nat × Nat)
  | 0, _ => (none, runs)
  | _ + 1, [] => (none, runs)
  | fuel + 1, '`' :: rest =>
    let count := 1 + (rest.takeWhile (· == '`')).length
    let after := rest.dropWhile (· == '`')
    let runs := if count ≤ maxTicks then (count, place) :: runs else runs
    if count = n then (some (inside.reverse, after), runs)
    else findTicks n (place + count) runs (Text.rep count '`' ++ inside) fuel after
  | fuel + 1, c :: rest => findTicks n (place + 1) runs (c :: inside) fuel rest

/-- The text of a code span: line ends become spaces, and one space at each end is dropped if there
is one at both and the text is not all spaces. -/
def codeText (inside : Text) : Text :=
  let t := inside.map fun c => if c == '\n' || c == '\r' then ' ' else c
  if t.head? == some ' ' && t.getLast? == some ' ' && t.any (· != ' ') then
    (t.drop 1).dropLast
  else t

/-- A code span, or the run of backticks itself if nothing closes it. -/
def readTicks (r : Reader) : Reader :=
  let n := (r.rest.takeWhile (· == '`')).length
  let opened := r.goTo (r.rest.dropWhile (· == '`'))
  let place := opened.seen.length
  let asText := opened.addText (Text.rep n '`')
  let noted := ((r.tickRuns.find? fun run => run.1 == n).map Prod.snd).getD 0
  if maxTicks < n || (r.ticksScanned && noted ≤ place) then asText
  else
    match findTicks n place r.tickRuns [] (opened.rest.length + 1) opened.rest with
    | (some (inside, after), runs) =>
      { (opened.goTo after).add (.code (codeText inside)) with tickRuns := runs }
    | (none, runs) => { asText with ticksScanned := true, tickRuns := runs }

/-- A backslash escapes ASCII punctuation and makes a line end a hard break. -/
def readBackslash (r : Reader) (rest : Text) : Reader :=
  match rest with
  | '\n' :: after => (r.goTo after).add .lineBreak
  | c :: after =>
    if Ascii.isPunctuation c then (r.goTo after).addText [c] else (r.goTo rest).addText ['\\']
  | [] => (r.goTo rest).addText ['\\']

/-- A character reference, or the ampersand itself. -/
def readReference (r : Reader) (rest : Text) : Reader :=
  match characterReference? rest with
  | some (chars, after) => (r.goTo after).addText chars
  | none => (r.goTo rest).addText ['&']

/-- The address in angle brackets of a link by scheme, given the text after the bracket. -/
def uriInside? (t : Text) : Option (Text × Text) :=
  let isSchemeChar (c : Char) : Bool := c.isAlphanum || c == '.' || c == '+' || c == '-'
  let scheme := t.takeWhile isSchemeChar
  match t.drop scheme.length with
  | ':' :: rest =>
    let path := rest.takeWhile fun c => ' ' < c && c != '<' && c != '>'
    if scheme.head?.any Char.isAlpha && 2 ≤ scheme.length && scheme.length ≤ 32 then
      match rest.drop path.length with
      | '>' :: after => some (scheme ++ ':' :: path, after)
      | _ => none
    else none
  | _ => none

/-- Whether a text is one part of a host name. -/
def isHostPart (t : Text) : Bool :=
  1 ≤ t.length && t.length ≤ 63 && t.all (fun c => c.isAlphanum || c == '-') &&
    t.head? != some '-' && t.getLast? != some '-'

/-- The mail address in angle brackets, given the text after the bracket. -/
def mailInside? (t : Text) : Option (Text × Text) :=
  let isNameChar (c : Char) : Bool :=
    c.isAlphanum || ".!#$%&'*+/=?^_`\x7b|\x7d~-".toList.contains c
  let name := t.takeWhile isNameChar
  match t.drop name.length with
  | '@' :: rest =>
    let host := rest.takeWhile fun c => c.isAlphanum || c == '-' || c == '.'
    if !name.isEmpty && (host.splitOn '.').all isHostPart then
      match rest.drop host.length with
      | '>' :: after => some (name ++ '@' :: host, after)
      | _ => none
    else none
  | _ => none

/-- Raw HTML, given the text after `<`: what follows it.  A piece whose end was searched in vain is
not searched again. -/
def rawHtml (r : Reader) (t : Text) : Option Text × Reader :=
  match t with
  | '!' :: t =>
    if r.noComment then (none, r)
    else
      match t with
      | '-' :: '-' :: '>' :: rest => (some rest, r)
      | '-' :: '-' :: '-' :: '>' :: rest => (some rest, r)
      | '-' :: '-' :: t =>
        match RawHtml.afterCommentInside? t with
        | some rest => (some rest, r)
        | none => (none, { r with noComment := true })
      | '[' :: t =>
        match r.noSection, RawHtml.afterSectionStart? t with
        | false, some t =>
          match RawHtml.afterSectionInside? t with
          | some rest => (some rest, r)
          | none => (none, { r with noSection := true })
        | _, _ => (none, r)
      | t =>
        match r.noDeclaration, RawHtml.afterDeclarationName? t with
        | false, some t =>
          match RawHtml.afterMark? '>' t with
          | some rest => (some rest, r)
          | none => (none, { r with noDeclaration := true })
        | _, _ => (none, r)
  | '?' :: t =>
    if r.noInstruction then (none, r)
    else
      match RawHtml.afterInstructionInside? t with
      | some rest => (some rest, r)
      | none => (none, { r with noInstruction := true })
  | t => (RawHtml.afterTag? t, r)

/-- An address in angle brackets, raw HTML, or the bracket itself. -/
def readAngle (r : Reader) (rest : Text) : Reader :=
  match uriInside? rest with
  | some (uri, after) =>
    let shown := decodeReferences uri
    (r.goTo after).add (.link ⟨shown, []⟩ [.text shown])
  | none =>
    match mailInside? rest with
    | some (mail, after) =>
      let shown := decodeReferences mail
      (r.goTo after).add (.link ⟨"mailto:".toList ++ shown, []⟩ [.text shown])
    | none =>
      let (found, r) := if rest.length < 2 then (none, r) else rawHtml r rest
      match found with
      | some after =>
        let literal := '<' :: rest.take (rest.length - after.length)
        (r.goTo after).add (.html literal)
      | none => (r.goTo rest).addText ['<']

/-- The nearest character other than a tilde; beyond the text lies a line end. -/
def flank (t : Text) : Char := (t.dropWhile (· == '~')).head?.getD '\n'

/-- A run of delimiter characters.  What it may do hangs on the characters around it. -/
def readDelimiters (r : Reader) (mark : Char) : Reader :=
  let run := r.rest.takeWhile (· == mark)
  let rest := r.rest.dropWhile (· == mark)
  let before := flank r.seen
  let after := flank rest
  let left := !Text.isBlank after &&
    (!Category.isMark after || Text.isBlank before || Category.isMark before)
  let right := !Text.isBlank before &&
    (!Category.isMark before || Text.isBlank after || Category.isMark after)
  let opens := left && (mark != '_' || !right || Category.isMark before)
  let closes := right && (mark != '_' || !left || Category.isMark after)
  (r.goTo rest).push <|
    if opens || closes then .run ⟨mark, run.length, run.length, opens, closes⟩
    else .done (.text run)

/-- Tokens, newest first, in which the last opened bracket is marked as followed by another. -/
def markFollowed : List Token → List Token
  | [] => []
  | .bracket image position _ :: rest => .bracket image position true :: rest
  | t :: rest => t :: markFollowed rest

/-- Open a bracket of a link or an image; `rest` follows it. -/
def openBracket (r : Reader) (image : Bool) (rest : Text) : Reader :=
  let r := r.goTo rest
  { r with
    tokens := .bracket image r.seen.length false :: markFollowed r.tokens
    inBrackets := true
    linksBarred := r.linksBarred && image }

/-- A bracket still open. -/
structure OpenBracket where
  /-- The tokens after it in reading order. -/
  inner : List Token
  image : Bool
  position : Nat
  followed : Bool
  /-- The tokens before it, newest first. -/
  before : List Token

/-- The bracket opened last. -/
def lastBracket? (inner : List Token) : List Token → Option OpenBracket
  | [] => none
  | .bracket image position followed :: before => some ⟨inner, image, position, followed, before⟩
  | t :: rest => lastBracket? (t :: inner) rest

/-- The target that a closing bracket gives to the bracket it closes, what follows, and the
definitions after its use: in parentheses, or by a label, or by the text between the brackets
itself. -/
def closingTarget? (references : References) (b : OpenBracket) (inside rest : Text) :
    Option (Target × Text × References) :=
  match (Text.after? ['('] rest).bind inlineTarget? with
  | some (target, after) => some (target, after, references)
  | none =>
    let labelled := label? rest
    let after := (labelled.map Prod.snd).getD rest
    let label := match labelled with
      | some (label, _) => if label.isEmpty && !b.followed then some inside else some label
      | none => if b.followed then none else some inside
    label.bind fun label =>
      (references.use? (normalizeLabel label)).map fun (target, left) => (target, after, left)

/-- A closing bracket. -/
def closeBracket (r : Reader) (rest : Text) : Reader :=
  let closed := { r.goTo rest with inBrackets := false }
  match lastBracket? [] r.tokens with
  | none => closed.addText [']']
  | some b =>
    let asText := { closed with
      tokens := .done (.text [']']) ::
        (b.inner.reverse ++
          .done (Token.bracket b.image b.position b.followed).plain :: b.before) }
    if !b.image && r.linksBarred then asText
    else
      let inside := (r.seen.take (r.seen.length - b.position)).reverse
      match closingTarget? r.references b inside rest with
      | some (target, after, references) =>
        let content := Emphasis.resolve b.inner
        let node := if b.image then Inline.image target content else .link target content
        { closed.goTo after with
          tokens := .done node :: b.before
          references
          linksBarred := r.linksBarred || !b.image }
      | none => asText

/-- Take some letters off the end of the text read last. -/
def dropLetters (n : Nat) : List Token → List Token
  | .done (.text t) :: rest =>
    if n < t.length then .done (.text (t.take (t.length - n))) :: rest
    else if n = t.length then rest
    else dropLetters (n - t.length) rest
  | tokens => tokens

/-- A colon: the middle of a web address, or itself. -/
def readColon (r : Reader) (rest : Text) : Reader :=
  match if r.inBrackets then none else Autolink.url? r.seen r.rest with
  | some (scheme, tail) =>
    let r := r.goTo (r.rest.drop tail.length)
    { r with tokens := dropLetters scheme.length r.tokens }.add (Autolink.link [] (scheme ++ tail))
  | none => (r.goTo rest).addText [':']

/-- The letter w: the start of a web address, or itself. -/
def readW (r : Reader) (rest : Text) : Reader :=
  match if r.inBrackets then none else Autolink.www? r.seen r.rest with
  | some shown =>
    (r.goTo (r.rest.drop shown.length)).add (Autolink.link "http://".toList shown)
  | none => (r.goTo rest).addText ['w']

/-- Characters that mean something in inline content. -/
def isSpecial (linkify : Bool) (c : Char) : Bool :=
  "\n*_~`\\&<[]!".toList.contains c || (linkify && (c == ':' || c == 'w'))

/-- Text without special characters.  White space before a line end and after a hard break is
dropped. -/
def readText (linkify : Bool) (r : Reader) (c : Char) (rest : Text) : Reader :=
  let run := c :: rest.takeWhile fun d => !isSpecial linkify d
  let after := rest.dropWhile fun d => !isSpecial linkify d
  let shown := if after.head? == some '\n' then Text.trimEndBy Ascii.isTrimmed run else run
  let shown := match r.tokens with
    | .done .lineBreak :: _ => Text.trimStartBy Ascii.isTrimmed shown
    | _ => shown
  (r.goTo after).addText shown

/-- Read one piece. -/
def step (linkify : Bool) (r : Reader) (c : Char) (rest : Text) : Reader :=
  if c == '\n' then r.readLineEnd rest
  else if c == '`' then r.readTicks
  else if c == '\\' then r.readBackslash rest
  else if c == '&' then r.readReference rest
  else if c == '<' then r.readAngle rest
  else if c == '*' || c == '_' || c == '~' then r.readDelimiters c
  else if c == '[' then r.openBracket false rest
  else if c == ']' then r.closeBracket rest
  else if c == '!' then
    match rest with
    | '[' :: '^' :: _ => (r.goTo rest).addText ['!']
    | '[' :: rest => r.openBracket true rest
    | _ => (r.goTo rest).addText ['!']
  else if linkify && c == ':' then r.readColon rest
  else if linkify && c == 'w' then r.readW rest
  else r.readText linkify c rest

/-- Read everything.  Each step reads at least one character. -/
def readAll (linkify : Bool) : Nat → Reader → Reader
  | 0, r => r
  | fuel + 1, r =>
    match r.rest with
    | [] => r
    | c :: rest => readAll linkify fuel (r.step linkify c rest)

end Reader

/-- Read the inline content of a text, which may use up definitions. -/
def Inline.ofText (linkify : Bool) (t : Text) : StateM References (List Inline) := do
  let t := Text.trimEndBy Ascii.isTrimmed t
  let r := Reader.readAll linkify t.length (Reader.ofText (← get) t)
  set r.references
  let content := Emphasis.resolve r.tokens.reverse
  return if linkify then Inline.joinTexts (Autolink.mailsInAll content) else content

end Markdown

end MarkdownDialects
