import MarkdownDialects.Cli.Arguments
import MarkdownDialects.Cli.ExtraArgs
import MarkdownDialects.Cli.Files
import MarkdownDialects.Cli.Run
import MarkdownDialects.Config.KeyPath
import MarkdownDialects.Config.Loader
import MarkdownDialects.Config.Settings
import MarkdownDialects.Convert.Converter
import MarkdownDialects.Convert.Data
import MarkdownDialects.Convert.Error
import MarkdownDialects.Convert.Options
import MarkdownDialects.Convert.Preview
import MarkdownDialects.Data.Value
import MarkdownDialects.Dialect.Basic
import MarkdownDialects.Dialect.Builtin
import MarkdownDialects.Dialect.Id
import MarkdownDialects.Dialect.Obsidian
import MarkdownDialects.Dialect.Registry
import MarkdownDialects.Html.Builder.Adoption
import MarkdownDialects.Html.Builder.Basic
import MarkdownDialects.Html.Builder.Body
import MarkdownDialects.Html.Builder.Foreign
import MarkdownDialects.Html.Builder.Head
import MarkdownDialects.Html.Builder.Insert
import MarkdownDialects.Html.Builder.Step
import MarkdownDialects.Html.Builder.Table
import MarkdownDialects.Html.CharacterReference
import MarkdownDialects.Html.Document
import MarkdownDialects.Html.ElementClass
import MarkdownDialects.Html.Escape
import MarkdownDialects.Html.Forest
import MarkdownDialects.Html.Lexer
import MarkdownDialects.Html.Node
import MarkdownDialects.Html.Token
import MarkdownDialects.Layout.Reflow
import MarkdownDialects.Layout.Segment
import MarkdownDialects.Layout.Tighten
import MarkdownDialects.Layout.Wrap
import MarkdownDialects.Line.Fence
import MarkdownDialects.Line.Kind
import MarkdownDialects.Main
import MarkdownDialects.Markdown.Block
import MarkdownDialects.Markdown.Cursor
import MarkdownDialects.Markdown.Document
import MarkdownDialects.Markdown.Escape
import MarkdownDialects.Markdown.HtmlBlock
import MarkdownDialects.Markdown.Inline.Autolink
import MarkdownDialects.Markdown.Inline.Basic
import MarkdownDialects.Markdown.Inline.Emphasis
import MarkdownDialects.Markdown.Inline.Reader
import MarkdownDialects.Markdown.LinkSyntax
import MarkdownDialects.Markdown.OpenBlock
import MarkdownDialects.Markdown.RawHtml
import MarkdownDialects.Markdown.References
import MarkdownDialects.Markdown.Render
import MarkdownDialects.Markdown.TableRow
import MarkdownDialects.Proofs.Cli.DefaultCommand
import MarkdownDialects.Proofs.Cli.ExtraArgs
import MarkdownDialects.Proofs.Cli.Failure
import MarkdownDialects.Proofs.Cli.Precedence
import MarkdownDialects.Proofs.Cli.UnknownParameters
import MarkdownDialects.Proofs.Config.Configured
import MarkdownDialects.Proofs.Config.Layering
import MarkdownDialects.Proofs.Config.PlainFile
import MarkdownDialects.Proofs.Convert.Code
import MarkdownDialects.Proofs.Convert.Image
import MarkdownDialects.Proofs.Convert.LineEnd
import MarkdownDialects.Proofs.Convert.Literal
import MarkdownDialects.Proofs.Convert.PageLink
import MarkdownDialects.Proofs.Convert.Preview
import MarkdownDialects.Proofs.Convert.Refusal
import MarkdownDialects.Proofs.Dialect.CarriedComment
import MarkdownDialects.Proofs.Dialect.DroppedList
import MarkdownDialects.Proofs.Dialect.FenceCount
import MarkdownDialects.Proofs.Dialect.Kramdown
import MarkdownDialects.Proofs.Dialect.MultiMarkdown
import MarkdownDialects.Proofs.Dialect.Obsidian.AnyName
import MarkdownDialects.Proofs.Dialect.Obsidian.Note
import MarkdownDialects.Proofs.Dialect.Obsidian.Pattern
import MarkdownDialects.Proofs.Dialect.Obsidian.RoundTrip
import MarkdownDialects.Proofs.Dialect.Obsidian.SoleLink
import MarkdownDialects.Proofs.Dialect.Obsidian.Titled
import MarkdownDialects.Proofs.Dialect.Obsidian.Written
import MarkdownDialects.Proofs.Dialect.Reflow
import MarkdownDialects.Proofs.Dialect.Registry
import MarkdownDialects.Proofs.Dialect.Spoiler
import MarkdownDialects.Proofs.Html.Comment
import MarkdownDialects.Proofs.Html.Image
import MarkdownDialects.Proofs.Html.TextBlock
import MarkdownDialects.Proofs.Layout.Fenced
import MarkdownDialects.Proofs.Layout.FencedGap
import MarkdownDialects.Proofs.Layout.Filled
import MarkdownDialects.Proofs.Layout.Gap
import MarkdownDialects.Proofs.Layout.Greedy
import MarkdownDialects.Proofs.Layout.Guard
import MarkdownDialects.Proofs.Layout.Lead
import MarkdownDialects.Proofs.Layout.Paragraphs
import MarkdownDialects.Proofs.Layout.Reflow
import MarkdownDialects.Proofs.Layout.Segmentation
import MarkdownDialects.Proofs.Layout.Shape
import MarkdownDialects.Proofs.Layout.Tighten
import MarkdownDialects.Proofs.Layout.Wrap
import MarkdownDialects.Proofs.Line.Kind
import MarkdownDialects.Proofs.Line.OpenFence
import MarkdownDialects.Proofs.Markdown.CodeSpan
import MarkdownDialects.Proofs.Markdown.Escaped
import MarkdownDialects.Proofs.Markdown.Image
import MarkdownDialects.Proofs.Markdown.Inline
import MarkdownDialects.Proofs.Markdown.Outline
import MarkdownDialects.Proofs.Markdown.Prose
import MarkdownDialects.Proofs.Markdown.Reflow
import MarkdownDialects.Proofs.Markdown.Render
import MarkdownDialects.Proofs.Markdown.SoleLine
import MarkdownDialects.Proofs.Markdown.TextBlock
import MarkdownDialects.Proofs.Serialize.Backslash
import MarkdownDialects.Proofs.Serialize.Bars
import MarkdownDialects.Proofs.Serialize.Behind
import MarkdownDialects.Proofs.Serialize.CellState
import MarkdownDialects.Proofs.Serialize.CellText
import MarkdownDialects.Proofs.Serialize.CodeBlock
import MarkdownDialects.Proofs.Serialize.Comment
import MarkdownDialects.Proofs.Serialize.EmptyLines
import MarkdownDialects.Proofs.Serialize.FencedCode
import MarkdownDialects.Proofs.Serialize.Fragment
import MarkdownDialects.Proofs.Serialize.Gaps
import MarkdownDialects.Proofs.Serialize.Image
import MarkdownDialects.Proofs.Serialize.InlineCode
import MarkdownDialects.Proofs.Serialize.ItemText
import MarkdownDialects.Proofs.Serialize.ListItem
import MarkdownDialects.Proofs.Serialize.Literal
import MarkdownDialects.Proofs.Serialize.NumberedList
import MarkdownDialects.Proofs.Serialize.Table
import MarkdownDialects.Proofs.Serialize.TableShape
import MarkdownDialects.Proofs.Serialize.TextBlock
import MarkdownDialects.Proofs.Serialize.TightList
import MarkdownDialects.Proofs.Serialize.WordsInEmphasis
import MarkdownDialects.Proofs.Substitution.Enclosed
import MarkdownDialects.Proofs.Substitution.Scan
import MarkdownDialects.Proofs.Text.Mark
import MarkdownDialects.Proofs.Text.Part
import MarkdownDialects.Proofs.Text.Percent
import MarkdownDialects.Proofs.Text.Trim
import MarkdownDialects.Proofs.Text.Words
import MarkdownDialects.Serialize.Code
import MarkdownDialects.Serialize.Element
import MarkdownDialects.Serialize.Escape
import MarkdownDialects.Serialize.Fragment
import MarkdownDialects.Serialize.Options
import MarkdownDialects.Serialize.Table
import MarkdownDialects.Serialize.Writer
import MarkdownDialects.Substitution.Marker
import MarkdownDialects.Substitution.Pattern
import MarkdownDialects.Substitution.Rule
import MarkdownDialects.Substitution.Template
import MarkdownDialects.Text.Ascii
import MarkdownDialects.Text.Basic
import MarkdownDialects.Text.CaseMap
import MarkdownDialects.Text.Category
import MarkdownDialects.Text.Entity
import MarkdownDialects.Text.LowerCase
import MarkdownDialects.Text.Numeral
import MarkdownDialects.Text.Percent
import MarkdownDialects.Text.Utf8
import MarkdownDialects.Toml.Lexeme
import MarkdownDialects.Toml.Number
import MarkdownDialects.Toml.Reader
import MarkdownDialects.Toml.Tree
