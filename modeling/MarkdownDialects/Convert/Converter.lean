import MarkdownDialects.Convert.Options
import MarkdownDialects.Dialect.Registry
import MarkdownDialects.Layout.Reflow
import MarkdownDialects.Layout.Tighten
import MarkdownDialects.Markdown.Render
import MarkdownDialects.Serialize.Writer

/-!
# Conversion between dialects

A text passes the rules of its own dialect, is rendered as HTML, written as Markdown again,
and passes the rules of the other dialect.  Then its paragraphs may be wrapped and its lists
tightened.  A run also tells which of its two collaborators it called and with what.
-/

namespace MarkdownDialects

/-- What a conversion starts from. -/
structure ConvertRequest where
  input : Text
  source : DialectId
  target : DialectId
  options : ConversionOptions := {}

/-- A call of a collaborator. -/
inductive ConvertCall where
  | render (markdown : Text) (options : RenderOptions)
  | serialize (html : Text) (options : SerializeOptions)
deriving DecidableEq

/-- A dialect registry with a renderer of Markdown as HTML and a serializer back. -/
structure Converter where
  registry : Registry := .withDefaults
  render : Text → RenderOptions → Except ConvertError Text :=
    fun markdown options => .ok (Markdown.render options markdown)
  serialize : Text → SerializeOptions → Except ConvertError Text :=
    fun html options => .ok (MarkdownDialects.serialize options ElementRule.defaults html)

/-- Work that can fail, and that records its calls of collaborators in order. -/
abbrev Converting := ExceptT ConvertError (StateM (List ConvertCall))

/-- Fail where a result is an error. -/
def liftExcept {α : Type} (result : Except ConvertError α) : Converting α :=
  ExceptT.mk (pure result)

namespace Registry

/-- A text in the neutral form, with line feeds for line ends. -/
def preprocess (r : Registry) (source : DialectId) (t : Text) : Except ConvertError Text :=
  r.applyRules .ingest source (Text.normalizeNewlines t)

/-- A neutral text in the form of a dialect. -/
def postprocess (r : Registry) (target : DialectId) (t : Text) : Except ConvertError Text :=
  r.applyRules .emit target (Text.normalizeNewlines t)

end Registry

namespace ConversionOptions

/-- Wrap paragraphs and tighten lists as the options say. -/
def shape (o : ConversionOptions) (t : Text) : Text :=
  let t := match o.effectiveWrapWidth with
    | some width => reflow width t
    | none => t
  if o.tightenLists then tighten t else t

end ConversionOptions

namespace Converter

/-- Call the renderer. -/
def callRender (c : Converter) (markdown : Text) : Converting Text := do
  modify (· ++ [.render markdown {}])
  liftExcept (c.render markdown {})

/-- Call the serializer. -/
def callSerialize (c : Converter) (html : Text) (options : SerializeOptions) : Converting Text := do
  modify (· ++ [.serialize html options])
  liftExcept (c.serialize html options)

/-- All steps of a conversion.  Options are looked at before anything is done. -/
def steps (c : Converter) (r : ConvertRequest) : Converting Text := do
  liftExcept r.options.validate
  let neutral ← liftExcept (c.registry.preprocess r.source r.input)
  let html ← c.callRender neutral
  let markdown ← c.callSerialize html r.options.serializeOptions
  let output ← liftExcept (c.registry.postprocess r.target markdown)
  return r.options.shape output

/-- The result of a conversion and the calls that led to it. -/
def trace (c : Converter) (r : ConvertRequest) : Except ConvertError Text × List ConvertCall :=
  ((c.steps r).run).run []

/-- The result of a conversion. -/
def run (c : Converter) (r : ConvertRequest) : Except ConvertError Text := (c.trace r).1

end Converter

/-- Convert a text between built-in dialects. -/
def convert (input : Text) (source target : DialectId) (options : ConversionOptions) :
    Except ConvertError Text :=
  ({} : Converter).run { input, source, target, options }

/-- The outputs of conversions along a path of dialects, each starting from the one before. -/
def convertChain (options : ConversionOptions) :
    Text → List DialectId → Except ConvertError (List Text)
  | input, source :: target :: rest => do
    let output ← convert input source target options
    let later ← convertChain options output (target :: rest)
    return output :: later
  | _, _ => .ok []

end MarkdownDialects
