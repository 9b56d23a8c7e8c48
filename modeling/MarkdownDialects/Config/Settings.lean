import MarkdownDialects.Config.KeyPath
import MarkdownDialects.Convert.Options
import MarkdownDialects.Dialect.Id

/-!
# Settings

What can be configured, and how it is read from layered values.  Reading is lenient: numbers and
words stand for truth values, and words and fractions for widths.
-/

namespace MarkdownDialects

/-- Why settings cannot be loaded. -/
inductive ConfigError where
  /-- The key of an override is no path. -/
  | badKey
  /-- A file is no valid document. -/
  | badFile
  /-- A value cannot stand for a value of the type that is asked for. -/
  | wrongType
  /-- A value has the wrong form, or is missing. -/
  | badValue
  | missingFile
deriving DecidableEq

/-- How conversions are done when nothing else is said. -/
structure ConvertSettings where
  source : DialectId := .gfm
  target : DialectId := .commonMark
  wrap : Bool := false
  wrapWidth : Nat := 80
  tightenLists : Bool := false
  setextHeadings : Bool := false
deriving DecidableEq

/-- All settings. -/
structure Settings where
  convert : ConvertSettings := {}
  previewDialect : DialectId := .gfm
deriving DecidableEq

/-- The options that settings ask for: the width counts only where wrapping is switched on. -/
def ConvertSettings.options (s : ConvertSettings) : ConversionOptions :=
  ⟨if s.wrap then some s.wrapWidth else none, s.tightenLists, s.setextHeadings⟩

namespace Config

/-- A reader of values. -/
abbrev Reader (α : Type) := Value → Except ConfigError α

/-- Words for yes. -/
def yesWords : List Text := ["true".toList, "on".toList, "yes".toList]

/-- Words for no. -/
def noWords : List Text := ["false".toList, "off".toList, "no".toList]

/-- A truth value.  Any number but zero is true. -/
def readBool : Reader Bool
  | .bool b => .ok b
  | .int n => .ok (n != 0)
  | .real x => .ok (x != 0)
  | .text t =>
    let word := Text.lower t
    if word = ['1'] || yesWords.contains word then .ok true
    else if word = ['0'] || noWords.contains word then .ok false
    else .error .wrongType
  | _ => .error .wrongType

/-- A number of 64 bits.  A fraction is rounded, a half away from zero, and cut off at the
bounds. -/
def readWidth : Reader Nat
  | .bool b => .ok (if b then 1 else 0)
  | .int n => if 0 ≤ n then .ok n.toNat else .error .wrongType
  | .real x => .ok x.round.toUInt64.toNat
  | .text t =>
    let word := Text.lower t
    if yesWords.contains word then .ok 1
    else if noWords.contains word then .ok 0
    else
      match Numeral.parse? t with
      | some n => .ok n
      | none => .error .wrongType
  | _ => .error .wrongType

/-- The dialect whose id is written in letters of any case. -/
def dialectNamed (t : Text) : Except ConfigError DialectId :=
  match DialectId.ofName? (Text.lower t) with
  | some id => .ok id
  | none => .error .badValue

/-- A dialect: its id, or a table whose only key is the id. -/
def readDialect : Reader DialectId
  | .text t => dialectNamed t
  | .table [(key, _)] => dialectNamed key
  | _ => .error .badValue

/-- The value of a field of a section: by name in a table, by place in a list. -/
def field? (name : String) (i : Nat) : Value → Option Value
  | .table es => valueAt? es name.toList
  | .list vs => vs[i]?
  | _ => none

/-- Read a field if it is there. -/
def readField {α : Type} (read : Reader α) (v : Option Value) : Except ConfigError (Option α) :=
  v.mapM read

/-- Read the settings for conversions.  What is wrong counts before what is missing. -/
def readConvert (v : Value) : Except ConfigError ConvertSettings := do
  let source ← readField readDialect (field? "from" 0 v)
  let target ← readField readDialect (field? "to" 1 v)
  let wrap ← readField readBool (field? "wrap" 2 v)
  let width ← readField readWidth (field? "wrap_width" 3 v)
  let tighten ← readField readBool (field? "tighten_lists" 4 v)
  let setext ← readField readBool (field? "setext_headings" 5 v)
  match source, target, wrap, width, tighten, setext with
  | some source, some target, some wrap, some width, some tighten, some setext =>
    return ⟨source, target, wrap, width, tighten, setext⟩
  | _, _, _, _, _, _ => throw .badValue

/-- Read the dialect of previews. -/
def readPreview (v : Value) : Except ConfigError DialectId := do
  match ← readField readDialect (field? "dialect" 0 v) with
  | some id => return id
  | none => throw .badValue

/-- Read all settings. -/
def readSettings (v : Value) : Except ConfigError Settings := do
  let convert ← readField readConvert (field? "convert" 0 v)
  let preview ← readField readPreview (field? "preview" 1 v)
  match convert, preview with
  | some convert, some preview => return ⟨convert, preview⟩
  | _, _ => throw .badValue

end Config

end MarkdownDialects
