import MarkdownDialects.Proofs.Markdown.PageLink
import MarkdownDialects.Proofs.Markdown.Source

/-!
# Images

A text that means itself in front of a target is read as an image with that text
(`Markdown.Inline.ofText_image`), and a document that is nothing but the image becomes one paragraph
(`Markdown.render_image`).
-/

namespace MarkdownDialects

namespace Markdown

/-- An image, as it is written. -/
def imageSyntax (caption destination : Text) : Text := '!' :: linkSyntax caption destination

/-- A text that means itself between the brackets of an image. -/
structure IsCaption (t : Text) : Prop where
  noFootnote : t.head? ≠ some '^'
  plain : isCaptionBehind ['[', '!'] t

instance : DecidablePred IsCaption := fun _ =>
  decidable_of_iff (_ ∧ _) ⟨fun ⟨noFootnote, plain⟩ => ⟨noFootnote, plain⟩,
    fun caption => ⟨caption.noFootnote, caption.plain⟩⟩

theorem IsCaption.not_mem {t : Text} (caption : IsCaption t) {c : Char}
    (markup : "`[]\n\r\x00".toList.contains c) : c ∉ t :=
  not_mem_of_isCaptionBehind caption.plain markup

/-- **A text that means itself is the text of the image in front of a target.** -/
theorem Inline.ofText_image (linkify : Bool) {caption destination : Text}
    (plain : IsCaption caption) (noReference : ';' ∉ destination) (noTag : '>' ∉ destination)
    {target : Target} (found : inlineTarget? (destination ++ [')']) = some (target, []))
    {t : Text} (trimmed : Text.trimEndBy Ascii.isTrimmed t = imageSyntax caption destination)
    (references : References) :
    (Inline.ofText linkify t).run references =
      ([.image target (consJoined (.text caption) [])], references) := by
  have shape : imageSyntax caption destination =
      Reader.opening true ++ (caption ++ ']' :: '(' :: (destination ++ [')'])) := by
    simp [imageSyntax, linkSyntax, Reader.opening]
  exact Inline.ofText_captioned linkify true plain.plain (fun _ => plain.noFootnote)
    (fun _ => noReference) (fun _ => noTag) found (trimmed.trans shape) references

section Sole

variable {caption destination : Text} (plain : IsCaption caption) (noReturn : '\r' ∉ destination)
  (noNull : '\x00' ∉ destination) (noFeed : '\n' ∉ destination)
include plain noReturn noNull noFeed

/-- An image is a document of one paragraph. -/
theorem Document.ofText_image :
    Document.ofText (imageSyntax caption destination) =
      ⟨[.paragraph (imageSyntax caption destination ++ ['\n'])], []⟩ := by
  have sole : IsSoleLine (imageSyntax caption destination) :=
    ⟨List.cons_ne_nil _ _, by simp [imageSyntax, linkSyntax, plain.not_mem (c := '\n') rfl, noFeed],
      by simp [imageSyntax, linkSyntax, plain.not_mem (c := '\r') rfl, noReturn],
      by simp [imageSyntax, linkSyntax, plain.not_mem (c := '\x00') rfl, noNull]⟩
  have bare : Outline.LineState.IsBare (imageSyntax caption destination) :=
    Outline.LineState.isBare_cons (by decide) rfl _
  have unmarked : (imageSyntax caption destination).head? ≠ some '\ufeff' := by
    simp [imageSyntax]
  exact ofText_bare sole bare unmarked (Outline.read?_of_ne_bracket (by decide) _)

/-- **An image becomes a paragraph with an image that has its source and its text.** -/
theorem render_image {options : RenderOptions} {source : Text}
    (allowed : options.html || !Render.isDangerous source)
    (noReference : ';' ∉ destination) (noTag : '>' ∉ destination)
    (found : inlineTarget? (destination ++ [')']) = some (⟨source, []⟩, [])) :
    render options (imageSyntax caption destination) =
      "<p><img src=\"".toList ++ (Html.escapeAddress source ++ "\" alt=\"".toList ++
        (Html.escape caption ++ "\" /></p>\n".toList)) := by
  have document := Document.ofText_image plain noReturn noNull noFeed
  have trimmed : Text.trimEndBy Ascii.isTrimmed (imageSyntax caption destination ++ ['\n']) =
      imageSyntax caption destination := by
    have feed : ∀ c ∈ ['\n'], Ascii.isTrimmed c := List.forall_mem_singleton.mpr rfl
    rw [Text.trimEndBy_append feed]
    exact Text.trimEndBy_concat rfl ("![".toList ++ (caption ++ "](".toList ++ destination))
  have address : Render.address options source = Html.escapeAddress source := by
    rw [Render.address, if_pos allowed]
  have shown : Render.plainInlines (Inline.consJoined (.text caption) []) =
      Html.escape caption := by
    cases caption with
    | nil => rfl
    | cons c caption => exact List.append_nil _
  have inner : Render.inlines options
      [.image ⟨source, []⟩ (Inline.consJoined (.text caption) [])] =
        "<img src=\"".toList ++ (Html.escapeAddress source ++ "\" alt=\"".toList ++
          (Html.escape caption ++ "\" />".toList)) := by
    have written : Render.inlines options
        [.image ⟨source, []⟩ (Inline.consJoined (.text caption) [])] =
          "<img src=\"".toList ++ Render.address options source ++ "\" alt=\"".toList ++
            Render.plainInlines (Inline.consJoined (.text caption) []) ++ ['"'] ++ [] ++
              " />".toList ++ [] := rfl
    rw [written, address, shown]
    simp
  rw [render_of_paragraph document
    (Inline.ofText_image options.linkify plain noReference noTag found trimmed), inner]
  simp

end Sole

end Markdown

end MarkdownDialects
