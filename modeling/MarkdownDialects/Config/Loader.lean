import MarkdownDialects.Config.Settings
import MarkdownDialects.Toml.Reader

/-!
# Loading settings

The built-in settings lie at the bottom.  Files are laid over them in order, and single overrides
over all files.
-/

namespace MarkdownDialects

namespace Config

/-- One layer of settings. -/
inductive Layer where
  /-- A file, if it is there. -/
  | file (content : Option Text) (required : Bool)
  /-- A single value under a key. -/
  | override (key : Text) (v : Value)

/-- The built-in settings as a value. -/
def defaults : Value :=
  let s : ConvertSettings := {}
  .table [("convert".toList, .table [("from".toList, .text s.source.name.toList),
      ("to".toList, .text s.target.name.toList), ("wrap".toList, .bool s.wrap),
      ("wrap_width".toList, .int s.wrapWidth), ("tighten_lists".toList, .bool s.tightenLists),
      ("setext_headings".toList, .bool s.setextHeadings)]),
    ("preview".toList,
      .table [("dialect".toList, .text ({} : Settings).previewDialect.name.toList)])]

/-- Lay an entry of a file over the settings so far.  Its key may be a path. -/
def layEntry (root : Value) (key : Text) (v : Value) : Value :=
  match path? key with
  | some path => setPath path v root
  | none => setKey (Text.lower key) v root

/-- Lay a file over the settings so far. -/
def layFile (root : Value) : Option Text → Bool → Except ConfigError Value
  | some content, _ =>
    match Toml.parse? content with
    | some es => .ok (es.foldl (fun root (key, v) => layEntry root key v) root)
    | none => .error .badFile
  | none, required => if required then .error .missingFile else .ok root

/-- The overrides of some layers, with their keys read. -/
def overrides : List Layer → Except ConfigError (List (List KeyStep × Value))
  | [] => .ok []
  | .file _ _ :: rest => overrides rest
  | .override key v :: rest =>
    match path? key with
    | some path => do return (path, v) :: (← overrides rest)
    | none => .error .badKey

/-- Lay all files over the built-in settings. -/
def layFiles (root : Value) : List Layer → Except ConfigError Value
  | [] => .ok root
  | .file content required :: rest => do layFiles (← layFile root content required) rest
  | .override _ _ :: rest => layFiles root rest

/-- Load settings from layers over the built-in ones.  The keys of overrides are read before any
file. -/
def load (layers : List Layer) : Except ConfigError Settings := do
  let set ← overrides layers
  let root ← layFiles defaults layers
  readSettings (set.foldl (fun root (path, v) => setPath path v root) root)

end Config

end MarkdownDialects
