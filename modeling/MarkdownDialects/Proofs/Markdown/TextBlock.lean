import MarkdownDialects.Proofs.Html.TextBlock
import MarkdownDialects.Proofs.Markdown.Escaped
import MarkdownDialects.Proofs.Markdown.Render
import MarkdownDialects.Proofs.Markdown.SoleLine

/-!
# Escaped text as HTML

A line of escaped text that starts no block becomes a paragraph with the text it means
(`Markdown.render_paragraph`), and behind `#`s it becomes a heading (`Markdown.render_heading`).
-/

namespace MarkdownDialects

namespace Markdown

/-- Escaped text on one line, with nothing to trim at its end. -/
structure IsEscapedLine (written meant : Text) : Prop where
  escapes : Escapes written meant
  sole : IsSoleLine written
  trimmed : Text.trimEndBy Ascii.isTrimmed written = written

section Line

variable {options : RenderOptions} (noLinks : options.linkify = false) {written meant : Text}
  (line : IsEscapedLine written meant)
include noLinks line

/-- The content of a block is the text that the line means. -/
theorem IsEscapedLine.run_ofText (references : References) :
    (Inline.ofText options.linkify (written ++ ['\n'])).run references =
      ([.text meant], references) := by
  have feed : ∀ c ∈ ['\n'], Ascii.isTrimmed c := List.forall_mem_singleton.mpr rfl
  have nonempty : meant ≠ [] := fun empty =>
    line.sole.nonempty (line.escapes.eq_nil_iff.mpr empty)
  rw [noLinks]
  exact Inline.ofText_of_escapes ((Text.trimEndBy_append feed written).trans line.trimmed)
    line.escapes nonempty references

/-- **Escaped text that starts no block becomes a paragraph with the text.** -/
theorem render_paragraph (bare : Outline.LineState.IsBare written)
    (unmarked : written.head? ≠ some '\ufeff') :
    render options written = Html.textBlock "p" meant := by
  have undefined : Definition.read? (written ++ ['\n']) = none := by
    obtain ⟨c, rest, rfl⟩ := List.exists_cons_of_ne_nil line.sole.nonempty
    refine Outline.read?_of_ne_bracket ?_ _
    rintro rfl
    exact line.escapes.head?_ne_bracket rfl
  have shape : Html.textBlock "p" meant =
      "<p>".toList ++ Html.escape meant ++ "</p>\n".toList := by
    simp [Html.textBlock]
  rw [render_of_paragraph (Document.ofText_bare line.sole bare unmarked undefined)
    (line.run_ofText noLinks), Render.inlines_text, shape]

/-- **Escaped text behind `#`s becomes a heading with the text.** -/
theorem render_heading {level : Nat} (positive : 1 ≤ level) (low : level ≤ 6)
    (unindented : ∀ c ∈ written.head?, Ascii.isBlank c = false)
    (kept : Outline.LineState.chopHeading written = written) :
    render options (Text.rep level '#' ++ ' ' :: written) =
      Html.textBlock (Render.headingTag level) meant := by
  have absent {c : Char} (noHash : c ≠ '#') (noSpace : c ≠ ' ') (outside : c ∉ written) :
      c ∉ Text.rep level '#' ++ ' ' :: written := by
    simp [List.mem_replicate, noHash, noSpace, outside]
  have sole : IsSoleLine (Text.rep level '#' ++ ' ' :: written) :=
    ⟨by simp, absent (by decide) (by decide) line.sole.noFeed,
      absent (by decide) (by decide) line.sole.noReturn,
      absent (by decide) (by decide) line.sole.noNull⟩
  have blocks (references : References) : (Block.mapAllM (Inline.ofText options.linkify)
      [.heading level (written ++ ['\n'])]).run references =
        ([.heading level [.text meant]], references) := by
    rw [Block.mapAllM_cons, Block.mapM_heading]
    simp only [StateT.run_bind, line.run_ofText noLinks]
    rfl
  simp only [render, Document.ofText_heading positive low sole line.sole.nonempty unindented, kept,
    blocks]
  have opens : ("<" ++ Render.headingTag level ++ ">").toList ≠ [] := by simp
  have ends : ("</" ++ Render.headingTag level ++ ">\n").toList.getLast? = some '\n' := by
    rw [String.toList_append]
    exact List.getLast?_append_of_ne_nil _ (by decide)
  rw [Render.blocks_cons, Render.block_heading, Render.join_wrapped opens ends,
    Render.inlines_text, Html.textBlock]
  exact List.append_nil _

end Line

end Markdown

end MarkdownDialects
