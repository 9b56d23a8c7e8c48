import MarkdownDialects.Convert.Error
import MarkdownDialects.Dialect.Builtin

/-!
# The registry of dialects

Dialects under their ids.  A later registration under the same id takes the place of the earlier
one, and dialects are listed in presentation order whatever the order of registration.
-/

namespace MarkdownDialects

/-- The dialect registered under each id. -/
structure Registry where
  get? : DialectId → Option Dialect

namespace Registry

/-- No dialect at all. -/
def empty : Registry := ⟨fun _ => none⟩

/-- Register a dialect under its own id. -/
def register (r : Registry) (d : Dialect) : Registry :=
  ⟨fun id => if id = d.id then some d else r.get? id⟩

@[simp]
theorem get?_empty (id : DialectId) : empty.get? id = none := rfl

/-- The last registration under an id counts. -/
@[simp]
theorem get?_register (r : Registry) (d : Dialect) (id : DialectId) :
    (r.register d).get? id = if id = d.id then some d else r.get? id := rfl

/-- The registry of every built-in dialect. -/
def withDefaults : Registry := DialectId.all.foldl (fun r id => r.register (.builtin id)) empty

/-- Whether a dialect is registered under the id. -/
def has (r : Registry) (id : DialectId) : Bool := (r.get? id).isSome

/-- The registered ids in presentation order. -/
def ids (r : Registry) : List DialectId := DialectId.all.filter r.has

/-- The last component of a file path.  Slashes at the end and `.` components there do not
count; there is none if the path ends in `..` or holds only slashes. -/
def fileName? (path : Text) : Option Text :=
  let parts := path.splitOn '/'
  let named := (parts.zipIdx.filter fun (part, i) =>
    !part.isEmpty && (part != ['.'] || i == 0)).map Prod.fst
  match named.getLast? with
  | some name => if name = ['.'] || name = ['.', '.'] then none else some name
  | none => none

/-- What follows the last full stop of a file name.  A full stop at the start does not count. -/
def extension? (path : Text) : Option Text := do
  let name ← fileName? path
  let suffix := (name.reverse.takeWhile (· != '.')).reverse
  if name.length ≤ suffix.length + 1 then none else some suffix

/-- The first registered dialect to which the extension of a file name belongs. -/
def detect? (r : Registry) (path : Text) : Option DialectId := do
  let suffix ← extension? path
  r.ids.find? fun id => (r.get? id).any fun d =>
    d.extensions.any fun e => Text.eqIgnoreAsciiCase e.toList suffix

/-- The dialect registered under an id, or an error that names the id. -/
def get (r : Registry) (id : DialectId) : Except ConvertError Dialect :=
  match r.get? id with
  | some d => .ok d
  | none => .error (.unknownDialect id.name.toList)

/-- A text after the rules of a registered dialect. -/
def applyRules (r : Registry) (direction : Direction) (id : DialectId) (t : Text) :
    Except ConvertError Text := do
  let d ← r.get id
  return RuleSet.apply (d.rules direction) t

end Registry

end MarkdownDialects
