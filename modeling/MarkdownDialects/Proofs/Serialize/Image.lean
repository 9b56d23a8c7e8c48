import MarkdownDialects.Proofs.Html.Image
import MarkdownDialects.Proofs.Markdown.Image
import MarkdownDialects.Proofs.Serialize.Page
import MarkdownDialects.Proofs.Text.Part

/-!
# Writing images

The alternative text and the source of an image are written as they are, so a paragraph with an
image becomes nothing but the image (`Serialize.writeDocument_image`).
-/

namespace MarkdownDialects

namespace Serialize

open Html (imageNode)
open Html.Builder (soleDocument)
open Markdown (imageSyntax)

section Image

variable {text : Text} (oneLine : '\n' ∉ text) (source : Text)
include oneLine

/-- The fragment of an image. -/
theorem image_eq : image ⟨"img", [⟨"src", source⟩, ⟨"alt", text⟩]⟩ = imageSyntax text source := by
  have read : image ⟨"img", [⟨"src", source⟩, ⟨"alt", text⟩]⟩ =
      "![".toList ++ Text.replaceChar '\n' [' '] text ++ "](".toList ++ source ++ [] ++ [')'] := rfl
  rw [read, Text.replaceChar_of_not_mem oneLine]
  simp [imageSyntax, Markdown.linkSyntax]

/-- **An image is written as its text and its source**, whether or not a line end stands behind
its paragraph. -/
theorem writeDocument_image (options : SerializeOptions) :
    writeDocument options ElementRule.defaults
        (bodyDocument [.element "p" [] [imageNode source text]]) = imageSyntax text source ∧
      writeDocument options ElementRule.defaults
        (soleDocument (.element "p" [] [imageNode source text])) = imageSyntax text source := by
  have shape : imageSyntax text source =
      '!' :: ('[' :: (text ++ "](".toList ++ source)) ++ [')'] := by
    simp [imageSyntax, Markdown.linkSyntax]
  have solid : IsSolid (imageSyntax text source) := shape ▸ isSolid_of_ends rfl rfl _
  have trimmed : Text.trim (imageSyntax text source) = imageSyntax text source :=
    shape ▸ Text.trimBy_of_ends rfl rfl _
  have inner : writeNode options ElementRule.defaults "p" (imageNode source text) ⟨true, false⟩ =
      (imageSyntax text source, ⟨false, false⟩) := by
    rw [← image_eq oneLine source]
    rfl
  have written : writeNode options ElementRule.defaults "body"
      (.element "p" [] [imageNode source text]) ⟨true, false⟩ =
        (block (imageSyntax text source), ⟨true, false⟩) := by
    have read : writeNode options ElementRule.defaults "body"
        (.element "p" [] [imageNode source text]) ⟨true, false⟩ =
          (fun written => (block (Text.trim (join [] written.1)), written.2.dropping true))
            (writeNode options ElementRule.defaults "p" (imageNode source text)
              ⟨true, false⟩) := rfl
    rw [read, inner]
    dsimp only
    rw [join_nil_solid solid, trimmed]
    rfl
  exact ⟨writeDocument_body rfl solid written none (by simp), writeDocument_sole rfl solid written⟩

end Image

end Serialize

end MarkdownDialects
