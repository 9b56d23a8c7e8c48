import MarkdownDialects.Proofs.Dialect.FenceCount.Marker
import MarkdownDialects.Proofs.Dialect.FenceCount.Note

/-!
# Rules and code fences

What the rules of the built-in dialects do to the number of lines that are fence delimiters.  Four
kinds of matches can change it: a wiki-link or a link on the way to Obsidian that runs across a
fence, a decoded note name that holds one, and carried metadata that shares its lines with other
text or is dropped together with a fence (`lineCount_apply_of_matches_across_lines`).  Where there
is no such match, no rule set changes the number (`lineCount_apply`).
-/

namespace MarkdownDialects

namespace Dialect

open Fence

/-- No match of a rule that could change the number of fences runs across one.  Only the rules of
four dialects for one direction each need that; all others keep the number in every text. -/
def ClearOfFences : DialectId → Direction → Text → Prop
  | .obsidian, .ingest, t => Obsidian.ClearWikiLinks t
  | .obsidian, .emit, t => Obsidian.ClearReferences t
  | .commonMark, .emit, t => Marker.ClearBlocks (Marker.strip t)
  | .multiMarkdown, .emit, t => Marker.ClearMarkers t
  | _, _, _ => True

theorem lineCount_spoilerIngest (t : Text) :
    lineCount (RuleSet.apply spoilerIngest t) = lineCount t :=
  Marker.lineCount_exchange (by decide) (by decide) (by decide) (by decide) t

theorem lineCount_spoilerEmit (t : Text) :
    lineCount (RuleSet.apply spoilerEmit t) = lineCount t :=
  Marker.lineCount_exchange (by decide) (by decide) (by decide) (by decide) t

theorem lineCount_kramdown_emit (t : Text) :
    lineCount (RuleSet.apply kramdown.emit t) = lineCount t :=
  calc lineCount (RuleSet.apply kramdown.emit t)
      = lineCount (Marker.unwrap (Marker.attach t)) := rfl
    _ = lineCount t := by rw [Marker.lineCount_unwrap, Marker.lineCount_attach]

theorem lineCount_commonMark_emit {t : Text} (clear : Marker.ClearBlocks (Marker.strip t)) :
    lineCount (RuleSet.apply commonMark.emit t) = lineCount t :=
  calc lineCount (RuleSet.apply commonMark.emit t)
      = lineCount (Marker.metadataMarkerBlock.replaceAll (Replacement.literal []).ofMatch
          (Marker.strip t)) := rfl
    _ = lineCount t := by rw [Marker.lineCount_drop clear, Marker.lineCount_strip]

end Dialect

/-- **Rules keep code fences.**  In a text where no such match runs across a fence, the rules of a
dialect for either direction leave the number of fence delimiters as it is. -/
theorem lineCount_apply (id : DialectId) (direction : Direction) {t : Text}
    (clear : Dialect.ClearOfFences id direction t) :
    Fence.lineCount (RuleSet.apply ((Dialect.builtin id).rules direction) t) =
      Fence.lineCount t := by
  cases id <;> cases direction
  case gfm.ingest => rfl
  case gfm.emit => rfl
  case commonMark.ingest => rfl
  case commonMark.emit => exact Dialect.lineCount_commonMark_emit clear
  case kramdown.ingest => exact Marker.lineCount_wrap t
  case kramdown.emit => exact Dialect.lineCount_kramdown_emit t
  case obsidian.ingest => exact Obsidian.lineCount_apply_ingestRules clear
  case obsidian.emit => exact Obsidian.lineCount_apply_emitRules clear
  case discord.ingest => exact Dialect.lineCount_spoilerIngest t
  case discord.emit => exact Dialect.lineCount_spoilerEmit t
  case reddit.ingest => exact Dialect.lineCount_spoilerIngest t
  case reddit.emit => exact Dialect.lineCount_spoilerEmit t
  case multiMarkdown.ingest => exact Marker.lineCount_carry t
  case multiMarkdown.emit => exact Marker.lineCount_restore clear

/-- Links over two lines between two fences. -/
theorem lineCount_apply_of_links_between_fences :
    Dialect.ClearOfFences .obsidian .emit "```\n[a\nb](c%20d)\n![x](y)\n~~~".toList ∧
      Fence.lineCount (RuleSet.apply ((Dialect.builtin .obsidian).rules .emit)
        "```\n[a\nb](c%20d)\n![x](y)\n~~~".toList) =
      Fence.lineCount "```\n[a\nb](c%20d)\n![x](y)\n~~~".toList := by
  have clear : Dialect.ClearOfFences .obsidian .emit
      "```\n[a\nb](c%20d)\n![x](y)\n~~~".toList := by
    unfold Dialect.ClearOfFences
    decide +kernel
  exact ⟨clear, lineCount_apply .obsidian .emit clear⟩

/-- **Matches across lines change the number of fences.**  A wiki-link writes its name twice, a
link decodes a line feed, a carried block is unwrapped behind other text, and one is dropped in
front of other text. -/
theorem lineCount_apply_of_matches_across_lines :
    Fence.lineCount (RuleSet.apply ((Dialect.builtin .obsidian).rules .ingest)
        "[[a\n```]]".toList) ≠ Fence.lineCount "[[a\n```]]".toList ∧
      Fence.lineCount (RuleSet.apply ((Dialect.builtin .obsidian).rules .emit)
        "[a](b%0A```)".toList) ≠ Fence.lineCount "[a](b%0A```)".toList ∧
      Fence.lineCount (RuleSet.apply ((Dialect.builtin .multiMarkdown).rules .emit)
        "a<!--mmd-meta-start\n```\nmmd-meta-end-->".toList) ≠
          Fence.lineCount "a<!--mmd-meta-start\n```\nmmd-meta-end-->".toList ∧
      Fence.lineCount (RuleSet.apply ((Dialect.builtin .commonMark).rules .emit)
        "<!--mmd-meta-start\nmmd-meta-end-->```".toList) ≠
          Fence.lineCount "<!--mmd-meta-start\nmmd-meta-end-->```".toList := by
  refine ⟨?_, ?_, ?_, ?_⟩ <;> decide +kernel

end MarkdownDialects
