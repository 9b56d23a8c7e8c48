import MarkdownDialects.Proofs.Serialize.Image

/-!
# Images through both directions

The serializer writes the alternative text and the source of an image as they are, while it escapes
the parentheses in the address of a link.  So an image comes back if its text means itself between
the brackets and the parentheses in its source are balanced (`render_serialize_image`); what is
written for a source with other parentheses is not read as its target.
-/

namespace MarkdownDialects

open Html (imageBlock imageNode)
open Markdown (IsSource IsCaption areBalanced)

/-- Of the characters of a source only the ampersand is escaped in HTML, as it is in a text. -/
theorem Markdown.IsSource.escapeAddress_eq {source : Text} (valid : IsSource source) :
    Html.escapeAddress source = Html.escape source := by
  refine List.flatMap_congr fun c member => ?_
  rcases Bool.or_eq_true_iff.mp (valid.chars c member) with alphanum | listed
  · have other {d : Char} (mark : d.isAlphanum = false) : c ≠ d := by
      rintro rfl
      exact Bool.noConfusion (alphanum.symm.trans mark)
    have unreferred : Html.isReferred c = false := by
      simp [Html.isReferred, other (d := '"') rfl, other (d := '&') rfl, other (d := '<') rfl,
        other (d := '>') rfl]
    rw [Html.escapeChar_eq_self unreferred, Html.escapeAddressChar, Html.isAddressChar, alphanum,
      Bool.true_or, if_pos rfl]
  · have all : "-._~/:()#?&=".toList.all fun c => Html.escapeAddressChar c == Html.escapeChar c :=
      rfl
    exact beq_iff_eq.mp (List.all_eq_true.mp all c (List.contains_iff_mem.mp listed))

/-- **An image comes back with its source and its text**, if the parentheses in the source are
balanced: exactly then the source is read back as the target of the image. -/
theorem render_serialize_image (options : SerializeOptions) {shown : RenderOptions}
    {source alt : Text} (valid : IsSource source) (caption : IsCaption alt)
    (allowed : shown.html || !Markdown.Render.isDangerous source) :
    (areBalanced 0 source ↔
      Markdown.inlineTarget? (source ++ [')']) = some (⟨source, []⟩, [])) ∧
    (areBalanced 0 source →
      Markdown.render shown (Serialize.writeDocument options ElementRule.defaults
          (Serialize.bodyDocument [.element "p" [] [imageNode source alt]])) =
        imageBlock source alt ∧
      Markdown.render shown (serialize options ElementRule.defaults (imageBlock source alt)) =
        imageBlock source alt ∧
      Html.parse (imageBlock source alt) =
        Html.Builder.soleDocument (.element "p" [] [imageNode source alt])) := by
  refine ⟨valid.areBalanced_iff, fun balanced => ?_⟩
  have rendered :
      Markdown.render shown (Markdown.imageSyntax alt source) = imageBlock source alt :=
    Markdown.render_image caption (valid.not_mem rfl) (valid.not_mem rfl) (valid.not_mem rfl)
      allowed (valid.not_mem rfl) (valid.not_mem rfl) (valid.inlineTarget?_eq balanced [])
  have parsed : Html.parse (imageBlock source alt) =
      Html.Builder.soleDocument (.element "p" [] [imageNode source alt]) :=
    Html.parse_imageBlock valid.escapeAddress_eq ⟨valid.not_mem rfl, caption.not_mem rfl⟩
      ⟨valid.not_mem rfl, caption.not_mem rfl⟩
  obtain ⟨bare, read⟩ := Serialize.writeDocument_image (caption.not_mem rfl) source options
  refine ⟨?_, ?_, parsed⟩
  · rw [bare, rendered]
  · rw [serialize, parsed, read, rendered]

/-- A text with delimiters, references and a backslash that mean nothing, and a source with nested
parentheses. -/
theorem render_serialize_image_of_signs :
    Markdown.render {} (serialize {} ElementRule.defaults
        (imageBlock "a(b(c))d/e_f?g=h&i#j".toList
          "2 * 3, my_file: AT&T <b! C:\\dir *x \"y\"".toList)) =
      imageBlock "a(b(c))d/e_f?g=h&i#j".toList
        "2 * 3, my_file: AT&T <b! C:\\dir *x \"y\"".toList := by
  have valid : IsSource "a(b(c))d/e_f?g=h&i#j".toList := by decide +kernel
  have caption : IsCaption "2 * 3, my_file: AT&T <b! C:\\dir *x \"y\"".toList := by decide +kernel
  have balanced : areBalanced 0 "a(b(c))d/e_f?g=h&i#j".toList := by decide +kernel
  exact ((render_serialize_image {} valid caption rfl).2 balanced).2.1

/-- **A source with one parenthesis leaves no image, and a text with emphasis loses its marks.** -/
theorem render_serialize_image_parenthesis :
    IsSource "a(b".toList ∧
      Markdown.render {} (serialize {} ElementRule.defaults
        (imageBlock "a(b".toList ['x'])) ≠ imageBlock "a(b".toList ['x'] ∧
      Markdown.render {} (serialize {} ElementRule.defaults
        (imageBlock ['y'] "*x*".toList)) = imageBlock ['y'] ['x'] := by
  decide +kernel

end MarkdownDialects
