import MarkdownDialects.Toml.Lexeme
import MarkdownDialects.Toml.Number
import MarkdownDialects.Toml.Tree

/-!
# Reading TOML

A document is a list of lines that define keys or open tables.  A document that breaks any rule is
refused as a whole.
-/

namespace MarkdownDialects

namespace Toml

/-- A date, a number with a fraction, or an integer. -/
def number? (t : Text) : Option (Value × Text) :=
  (moment? t).orElse fun _ =>
    (fractional? t).orElse fun _ => (special? t).orElse fun _ => integer? t

/-- A truth value or a number without digits. -/
def word? (t : Text) : Option (Value × Text) :=
  match Text.after? "true".toList t, Text.after? "false".toList t with
  | some rest, _ => some (.bool true, rest)
  | none, some rest => some (.bool false, rest)
  | none, none => special? t

/-- How deep lists and tables in braces may lie inside each other. -/
def maxNesting : Nat := 79

mutual

/-- A value in which lists and tables may nest `room` deep.  Everywhere the fuel is at least the
length of the text. -/
def value? : Nat → Nat → Text → Option (Value × Text)
  | 0, _, _ => none
  | fuel + 1, room, t =>
    match t, room with
    | '"' :: _, _ | '\'' :: _, _ => (string? t).map fun (s, rest) => (.text s, rest)
    | '[' :: rest, room + 1 =>
      (elements? fuel room rest).map fun (items, rest) => (.list items, rest)
    | '{' :: rest, room + 1 =>
      match skipGap rest with
      | '}' :: rest => some (.table [], rest)
      | rest => do
        let (es, rest) ← fields? fuel room [] rest
        return (← tableValue? (← toValues? es), rest)
    | c :: _, _ => if c.isDigit || c == '+' || c == '-' then number? t else word? t
    | [], _ => none

/-- The values of a list up to its closing bracket. -/
def elements? : Nat → Nat → Text → Option (List Value × Text)
  | 0, _, _ => none
  | fuel + 1, room, t =>
    match skipLines t.length t with
    | ']' :: rest => some ([], rest)
    | t => do
      let (v, rest) ← value? fuel room t
      match skipLines rest.length rest with
      | ',' :: rest => do
        let (items, rest) ← elements? fuel room rest
        return (v :: items, rest)
      | ']' :: rest => return ([v], rest)
      | _ => none

/-- The fields of a table in braces up to its closing brace, added to the given ones. -/
def fields? : Nat → Nat → Entries → Text → Option (Entries × Text)
  | 0, _, _, _ => none
  | fuel + 1, room, es, t => do
    let (path, rest) ← key? t
    let rest ← Text.after? ['='] rest
    let (v, rest) ← value? fuel room (skipGap rest)
    let es ← es.define? path v
    match skipGap rest with
    | ',' :: rest => fields? fuel room es rest
    | '}' :: rest => return (es, rest)
    | _ => none

end

/-- A document being read: what is defined so far, and the table that keys are added to. -/
structure Reading where
  entries : Entries
  header : List Text

/-- Read one line that is not blank. -/
def line? (r : Reading) (t : Text) : Option (Reading × Text) := do
  match t with
  | '[' :: '[' :: rest =>
    let (path, rest) ← key? rest
    let rest ← lineEnd? (← Text.after? [']', ']'] rest)
    return (⟨← r.entries.openElement? path, path⟩, rest)
  | '[' :: rest =>
    let (path, rest) ← key? rest
    let rest ← lineEnd? (← Text.after? [']'] rest)
    return (⟨← r.entries.openTable? path, path⟩, rest)
  | t =>
    let (path, rest) ← key? t
    let rest ← Text.after? ['='] rest
    let (v, rest) ← value? (t.length + 1) maxNesting (skipGap rest)
    return (⟨← r.entries.defineIn? r.header path v, r.header⟩, ← lineEnd? rest)

/-- Read all lines.  Every line has at least one character, so the length of the text bounds their
number. -/
def lines? : Nat → Reading → Text → Option Entries
  | 0, _, _ => none
  | fuel + 1, r, t =>
    match skipGap t with
    | [] => some r.entries
    | t =>
      match lineEnd? t with
      | some rest => lines? fuel r rest
      | none => do
        let (r, rest) ← line? r t
        lines? fuel r rest

/-- The table that a document describes.  A mark of the byte order at its start is dropped. -/
def parse? (t : Text) : Option (List (Text × Value)) := do
  let t := if t.head? == some '\ufeff' then t.drop 1 else t
  let es ← lines? (t.length + 1) ⟨[], []⟩ t
  match ← tableValue? (← toValues? es) with
  | .table es => some es
  | _ => none

end Toml

end MarkdownDialects
