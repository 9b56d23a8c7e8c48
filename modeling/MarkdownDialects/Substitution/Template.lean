import MarkdownDialects.Substitution.Pattern
import MarkdownDialects.Text.Numeral

/-!
# Replacement templates

In a template `$1` and `${1}` stand for the text of a group, and `$$`
stands for a dollar sign.  A name without braces is the longest run of ASCII letters, digits and
underscores.  A name that is no number, or the number of no group, stands for nothing; a dollar
sign that starts none of these forms stands for itself.
-/

namespace MarkdownDialects

/-- A piece of a template. -/
inductive TemplatePart where
  | text (c : Char)
  | group (name : Text)
deriving DecidableEq

namespace Template

/-- Characters of a group name without braces. -/
def isNameChar (c : Char) : Bool := c.isAlphanum || c == '_'

/-- The group reference that follows a dollar sign: its name and its length in the template. -/
def reference? : Text → Option (Text × Nat)
  | '{' :: rest =>
    match Text.cutAt? ['}'] rest with
    | some (name, _) => some (name, name.length + 2)
    | none => none
  | rest =>
    let name := rest.takeWhile isNameChar
    if name.isEmpty then none else some (name, name.length)

/-- Read a template.  `skip` counts the characters already read as part of a reference. -/
def parseFrom : Nat → Text → List TemplatePart
  | _, [] => []
  | skip + 1, _ :: rest => parseFrom skip rest
  | 0, '$' :: rest =>
    match rest with
    | '$' :: _ => .text '$' :: parseFrom 1 rest
    | _ =>
      match reference? rest with
      | some (name, length) => .group name :: parseFrom length rest
      | none => .text '$' :: parseFrom 0 rest
  | 0, c :: rest => .text c :: parseFrom 0 rest

/-- The parts of a template in order. -/
def parse (t : Text) : List TemplatePart := parseFrom 0 t

/-- The text a template stands for at a match. -/
def expand (template : Text) (m : Match) : Text :=
  (parse template).flatMap fun
    | .text c => [c]
    | .group name =>
      match Numeral.parse? name with
      | some n => m.group n
      | none => []

end Template

end MarkdownDialects
