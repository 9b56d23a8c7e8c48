import MarkdownDialects.Markdown.Inline.Basic
import MarkdownDialects.Text.Category

/-!
# Bare links

Web addresses and mail addresses that become links without any markup.
-/

namespace MarkdownDialects

namespace Markdown

namespace Autolink

/-- Characters of a host name. -/
def isHostChar (c : Char) : Bool := !Text.isBlank c && !Category.isMark c

/-- Whether a text starts with a domain.  `dots` counts the full stops, `before` and `last` the
underscores in the last two parts: a domain has none there.  A domain needs a full stop unless
`short` holds. -/
def startsWithDomain (short : Bool) (dots before last : Nat) : Text → Bool
  | [] => if 0 < before + last && dots ≤ 10 then false else short || 0 < dots
  | c :: rest =>
    if c == '\\' && !rest.isEmpty then startsWithDomain short dots before last rest
    else if c == '_' then startsWithDomain short dots before (last + 1) rest
    else if c == '.' then startsWithDomain short (dots + 1) last 0 rest
    else if isHostChar c || c == '-' then startsWithDomain short dots before last rest
    else before = 0 && last = 0 && (short || 0 < dots)

/-- Punctuation that does not belong to a link at its end. -/
def isTrailing (c : Char) : Bool := "?!.,:*_~'\"".toList.contains c

/-- A link, in reverse, without what does not belong to its end: punctuation, a character reference,
and closing parentheses that no opening one matches. -/
def trimEndReversed : Text → Text
  | [] => []
  | c :: rest =>
    if isTrailing c then trimEndReversed rest
    else if c == ';' then
      let name := rest.takeWhile Char.isAlpha
      if !name.isEmpty && (rest.drop name.length).head? == some '&' then
        trimEndReversed (rest.drop (name.length + 1))
      else trimEndReversed rest
    else if c == ')' then
      if rest.count '(' < rest.count ')' + 1 then trimEndReversed rest else c :: rest
    else c :: rest
termination_by t => t.length
decreasing_by all_goals simp; try omega

/-- The front part of a text that belongs to a link. -/
def trimEnd (t : Text) : Text := (trimEndReversed (t.takeWhile (· != '<')).reverse).reverse

/-- A link that shows its own address. -/
def link (front shown : Text) : Inline := .link ⟨front ++ shown, []⟩ [.text shown]

/-- The schemes of addresses that become links. -/
def schemes : List String := ["http", "https", "ftp"]

/-- A web address around a colon: the letters before the colon and the text from it on.  `seen` is
what precedes the colon, in reverse. -/
def url? (seen rest : Text) : Option (Text × Text) :=
  let scheme := (seen.takeWhile Char.isAlpha).reverse
  if 4 ≤ rest.length && Text.startsWith rest "://".toList &&
      schemes.any (·.toList == scheme) && startsWithDomain true 0 0 0 (rest.drop 3) then
    some (scheme, trimEnd (rest.takeWhile fun c => !Ascii.isTrimmed c))
  else none

/-- A web address that starts with `www.`, given what precedes it, in reverse. -/
def www? (seen rest : Text) : Option Text :=
  let mayFollow := seen.head?.all fun c => Ascii.isTrimmed c || "*_~([".toList.contains c
  if mayFollow && Text.startsWith rest "www.".toList && startsWithDomain false 0 0 0 rest then
    some (trimEnd (rest.takeWhile fun c => !Ascii.isTrimmed c))
  else none

/-- Characters of the name in a mail address. -/
def isMailChar (c : Char) : Bool := c.isAlphanum || ".+-_".toList.contains c

/-- The scheme that a mail address is written with, if any. -/
inductive MailScheme where
  | none
  | mailto
  | xmpp
deriving DecidableEq

/-- The scheme whose name ends a text that is given in reverse. -/
def mailScheme? (seen : Text) : Option MailScheme :=
  let name := (seen.takeWhile Char.isAlpha).reverse
  if name == "mailto".toList then some .mailto
  else if name == "xmpp".toList then some .xmpp
  else Option.none

/-- The part of a mail address before its at sign, in reverse, and its scheme.  `seen` is what
precedes the at sign, in reverse. -/
def mailName (scheme : MailScheme) : Text → Text × MailScheme
  | [] => ([], scheme)
  | c :: rest =>
    if isMailChar c then
      let (name, scheme) := mailName scheme rest
      (c :: name, scheme)
    else if c == ':' then
      match mailScheme? rest with
      | some found =>
        let kept := if scheme = .xmpp then .xmpp else found
        let (name, scheme) := mailName kept rest
        (c :: name, scheme)
      | Option.none => ([], scheme)
    else ([], scheme)

/-- The host of a mail address and the number of its full stops.  A slash may occur in it where
`slash` holds.  There is none if another at sign follows. -/
def mailHost? (slash : Bool) (dots : Nat) : Text → Option (Text × Nat)
  | [] => some ([], dots)
  | c :: rest =>
    if c == '@' then none
    else
      let dot := c == '.' && rest.head?.any Char.isAlphanum
      if c.isAlphanum || dot || (c == '/' && slash) || c == '-' || c == '_' then
        (mailHost? slash (if dot then dots + 1 else dots) rest).map fun (host, n) => (c :: host, n)
      else some ([], dots)

/-- A mail address around an at sign: the number of characters before the sign that belong to it,
the link, and what follows the address. -/
def mail? (seen rest : Text) : Option (Nat × Inline × Text) := do
  let (name, scheme) := mailName .none seen
  guard !name.isEmpty
  let (host, dots) ← mailHost? (scheme = .xmpp) 0 rest
  guard (0 < dots && host.getLast?.any fun c => c.isAlpha || c == '.')
  let shown := trimEnd ('@' :: host)
  guard !shown.isEmpty
  let front := if scheme = .none then "mailto:".toList else []
  some (name.length, link front (name.reverse ++ shown), rest.drop (shown.length - 1))

/-- A text with its mail addresses made links.  `seen` is what precedes in this piece, in reverse.
An address inside square brackets, of which `depth` are open, stays text. -/
def splitMails : Nat → Text → Int → Text → List Inline
  | 0, seen, _, rest => [.text (seen.reverse ++ rest)]
  | _ + 1, seen, _, [] => [.text seen.reverse]
  | fuel + 1, seen, depth, c :: rest =>
    let depth := if c == '[' then depth + 1 else if c == ']' then depth - 1 else depth
    match if c == '@' && depth ≤ 0 then mail? seen rest else none with
    | some (length, mail, after) =>
      .text (seen.drop length).reverse :: mail :: splitMails fuel [] 0 after
    | none => splitMails fuel (c :: seen) depth rest

mutual

/-- A piece of content with the mail addresses in its texts made links.  Links and images are left
alone. -/
def mailsIn : Inline → List Inline
  | .text t => splitMails (t.length + 1) [] 0 t
  | .emphasis children => [.emphasis (mailsInAll children)]
  | .strong children => [.strong (mailsInAll children)]
  | .strikethrough children => [.strikethrough (mailsInAll children)]
  | i => [i]

/-- Content with the mail addresses in its texts made links. -/
def mailsInAll : List Inline → List Inline
  | [] => []
  | i :: rest => mailsIn i ++ mailsInAll rest

end

end Autolink

end Markdown

end MarkdownDialects
