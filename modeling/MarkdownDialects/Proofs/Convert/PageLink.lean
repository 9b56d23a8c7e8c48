import MarkdownDialects.Proofs.Convert.Stages
import MarkdownDialects.Proofs.Dialect.Obsidian.PageName
import MarkdownDialects.Proofs.Markdown.PageLink
import MarkdownDialects.Proofs.Serialize.PageLink

/-!
# Converting links to pages

On its way through a conversion the name of a page stands in its link twice, as the text and as the
destination.  The renderer encodes the destination and the rules of Obsidian decode it; nothing
undoes the escapes that the serializer puts into the text.  So a link keeps its form if its name
needs no escapes (`convert_pageLink`), which a low line does.
-/

namespace MarkdownDialects

/-- A link to a page, as Obsidian writes it. -/
def pageLink (name : Text) : Text := "[[".toList ++ name ++ "]]".toList

section Page

variable {name : Text} (page : IsPageName name)
include page

/-- The destination that is written for a name is read as that name. -/
theorem Markdown.inlineTarget?_linkDestination :
    inlineTarget? (Obsidian.linkDestination name ++ [')']) = some (⟨name, []⟩, []) := by
  unfold Obsidian.linkDestination
  split
  · rw [List.append_assoc, List.append_assoc]
    exact inlineTarget?_angled page []
  · rename_i solid
    refine inlineTarget?_bare page [] ?_
    intro space
    exact solid (List.any_eq_true.mpr ⟨' ', space, rfl⟩)

/-- Rendering the link of a page and writing it again encodes its destination. -/
theorem serialize_render_link (options : SerializeOptions) {shown : RenderOptions}
    (raw : shown.html) (noLow : '_' ∉ name) :
    serialize options ElementRule.defaults (Markdown.render shown (Obsidian.link name name)) =
      Obsidian.encodedLink name := by
  have written : Obsidian.link name name =
      Markdown.linkSyntax name (Obsidian.linkDestination name) := by
    simp [Obsidian.link, Markdown.linkSyntax]
  have clean {c : Char} (other : isNameChar c = false) (syntactic : c ≠ '<' ∧ c ≠ '>') :
      c ∉ Obsidian.linkDestination name :=
    Obsidian.not_mem_linkDestination (page.not_mem other) syntactic.1 syntactic.2
  have rendered : Markdown.render shown (Obsidian.link name name) = _ :=
    written ▸ Markdown.render_link raw page noLow (Markdown.inlineTarget?_linkDestination page)
      (clean rfl (by simp)) (clean rfl (by simp)) (clean rfl (by simp))
  have quotable : Html.Lexer.IsQuotable (Html.escapeAddress name) :=
    ⟨page.not_mem_escapeAddress rfl, page.not_mem_escapeAddress rfl, page.not_mem_escapeAddress rfl⟩
  rw [serialize, rendered, Html.parse_link quotable (page.not_mem_escapeAddress rfl) page.ne_nil
      (page.not_mem rfl) (page.not_mem rfl),
    Serialize.writeDocument_link options page noLow (page.not_mem_escapeAddress rfl)
      (page.not_mem_escapeAddress rfl)]
  rfl

/-- **A link keeps its form if nothing in the name of its page needs an escape.** -/
theorem convert_pageLink (noLow : '_' ∉ name) :
    convert (pageLink name) .obsidian .obsidian {} = .ok (pageLink name) := by
  have input : Text.normalizeNewlines (pageLink name) = pageLink name := by
    apply Html.normalizeNewlines_of_not_mem
    simp [pageLink, page.not_mem (c := '\r') rfl]
  have output : Text.normalizeNewlines (Obsidian.encodedLink name) = Obsidian.encodedLink name :=
    Html.normalizeNewlines_of_not_mem (Obsidian.not_mem_encodedLink page rfl (by simp))
  have ingested : RuleSet.apply (Dialect.builtin .obsidian).ingest (pageLink name) =
      Obsidian.link name name := Obsidian.apply_ingestRules_page page
  have emitted : RuleSet.apply (Dialect.builtin .obsidian).emit (Obsidian.encodedLink name) =
      pageLink name := Obsidian.apply_emitRules_encodedLink page
  rw [convert_eq, input, ingested, serialize_render_link page {} rfl noLow, output, emitted]

end Page

/-- A name of two words with a dash and digits. -/
theorem convert_pageLink_of_two_words :
    IsPageName "My note-2".toList ∧ '_' ∉ "My note-2".toList ∧
      convert (pageLink "My note-2".toList) .obsidian .obsidian {} =
        .ok (pageLink "My note-2".toList) := by
  have page : IsPageName "My note-2".toList := by decide +kernel
  exact ⟨page, by decide, convert_pageLink page (by decide)⟩

/-- **A low line gives a link an alias.**  The serializer escapes it in the text and not in the
destination. -/
theorem convert_pageLink_low :
    convert (pageLink "a_b".toList) .obsidian .obsidian {} ≠ .ok (pageLink "a_b".toList) := by
  have aliased : convert (pageLink "a_b".toList) .obsidian .obsidian {} =
      .ok "[[a_b|a\\_b]]".toList := by
    rw [convert_eq]
    decide +kernel
  rw [aliased]
  decide

end MarkdownDialects
