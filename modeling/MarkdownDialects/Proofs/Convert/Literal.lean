import MarkdownDialects.Proofs.Html.TextBlock
import MarkdownDialects.Proofs.Markdown.TextBlock
import MarkdownDialects.Proofs.Serialize.LiteralLine
import MarkdownDialects.Proofs.Serialize.TextBlock

/-!
# Literal text through both directions

What the serializer writes for a paragraph or a heading of printed text is rendered as that block
with that text again, if nothing in the text but what is escaped has a meaning
(`render_serialize_textBlock`).  A number with a closing parenthesis is not escaped and has one.
-/

namespace MarkdownDialects

open Serialize (IsPrinted IsLiteral LeadsParagraph EndsHeading)

/-- What is written for literal text is a line of escaped text. -/
theorem Serialize.isEscapedLine {t : Text} (printed : IsPrinted t) (literal : IsLiteral t) :
    Markdown.IsEscapedLine (escape t) t where
  escapes := escapes_escape literal (printed.not_mem rfl)
  sole := ⟨escape_ne_nil printed literal, not_mem_escape printed literal rfl,
    not_mem_escape printed literal rfl, not_mem_escape printed literal rfl⟩
  trimmed := (Text.trimBy_eq_self_iff.mp
    (trimBy_escape printed literal (fun _ => Markdown.isBlank_of_isTrimmed) rfl)).2

/-- **Literal text stays literal**: a paragraph of it, and a heading of each level, comes back with
exactly the text. -/
theorem render_serialize_textBlock (options : SerializeOptions) {shown : RenderOptions}
    (noLinks : shown.linkify = false) {t : Text} (printed : IsPrinted t) (literal : IsLiteral t) :
    (LeadsParagraph t →
      Markdown.render shown (serialize options ElementRule.defaults (Html.textBlock "p" t)) =
        Html.textBlock "p" t) ∧
    (options.headingStyle = .atx → EndsHeading t → ∀ level, 1 ≤ level → level ≤ 6 →
      Markdown.render shown (serialize options ElementRule.defaults
          (Html.textBlock (Markdown.Render.headingTag level) t)) =
        Html.textBlock (Markdown.Render.headingTag level) t) := by
  have line := Serialize.isEscapedLine printed literal
  have noNull : '\x00' ∉ t := printed.not_mem rfl
  have noReturn : '\r' ∉ t := printed.not_mem rfl
  constructor
  · intro leads
    have unmarked : (Serialize.escape t).head? ≠ some '\ufeff' := fun first =>
      Serialize.not_mem_escape printed literal rfl (List.mem_of_mem_head? first)
    rw [serialize, Html.parse_textBlock (by decide) printed.nonempty noNull noReturn,
      Serialize.writeDocument_paragraph printed literal]
    exact Markdown.render_paragraph noLinks line (Serialize.isBare_escape printed literal leads)
      unmarked
  · intro atx ends level positive low
    have known : Markdown.Render.headingTag level ∈ Html.textTags := by
      obtain rfl | rfl | rfl | rfl | rfl | rfl : level = 1 ∨ level = 2 ∨ level = 3 ∨ level = 4 ∨
        level = 5 ∨ level = 6 := by omega
      all_goals decide
    have unindented : ∀ c ∈ (Serialize.escape t).head?, Ascii.isBlank c = false :=
      Text.trimStartBy_eq_self_iff.mp (Text.trimBy_eq_self_iff.mp (Serialize.trimBy_escape printed
        literal (fun _ => Markdown.isBlank_of_ascii) rfl)).1
    rw [serialize, Html.parse_textBlock known printed.nonempty noNull noReturn,
      Serialize.writeDocument_heading printed literal atx positive low]
    exact Markdown.render_heading noLinks line positive low unindented
      (Serialize.chopHeading_escape printed literal ends)

/-- A text with a start and characters that are escaped, and with characters that need not be. -/
theorem render_serialize_textBlock_of_signs :
    Markdown.render { linkify := false } (serialize {} ElementRule.defaults
        (Html.textBlock "p" "1. a*b_c [d](e) `f` \\ AT&T: x < y!".toList)) =
      Html.textBlock "p" "1. a*b_c [d](e) `f` \\ AT&T: x < y!".toList ∧
    Markdown.render { linkify := false } (serialize {} ElementRule.defaults
        (Html.textBlock (Markdown.Render.headingTag 3)
          "1. a*b_c [d](e) `f` \\ AT&T: x < y!".toList)) =
      Html.textBlock (Markdown.Render.headingTag 3)
        "1. a*b_c [d](e) `f` \\ AT&T: x < y!".toList := by
  have printed : IsPrinted "1. a*b_c [d](e) `f` \\ AT&T: x < y!".toList := by decide +kernel
  have literal : IsLiteral "1. a*b_c [d](e) `f` \\ AT&T: x < y!".toList := by decide +kernel
  have leads : LeadsParagraph "1. a*b_c [d](e) `f` \\ AT&T: x < y!".toList := by decide +kernel
  have ends : EndsHeading "1. a*b_c [d](e) `f` \\ AT&T: x < y!".toList := by decide +kernel
  obtain ⟨paragraph, heading⟩ :=
    @render_serialize_textBlock {} { linkify := false } rfl _ printed literal
  exact ⟨paragraph leads, heading rfl ends 3 (by decide) (by decide)⟩

/-- **A number with a closing parenthesis becomes a list.** -/
theorem render_serialize_textBlock_parenthesis :
    Markdown.render { linkify := false } (serialize {} ElementRule.defaults
      (Html.textBlock "p" "1) a".toList)) ≠ Html.textBlock "p" "1) a".toList := by
  decide +kernel

end MarkdownDialects
