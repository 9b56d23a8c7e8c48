import MarkdownDialects.Convert.Preview
import MarkdownDialects.Dialect.Builtin
import MarkdownDialects.Proofs.Dialect.Obsidian.Pattern
import MarkdownDialects.Proofs.Substitution.Enclosed

/-!
# Previews of notes

A preview makes the links of notes plain, and so does reading the text as Obsidian.  Around the
links each has rules of its own: spoilers there, embeds, callouts and highlights here.  In a text
without the marks of these the two are the same (`project_eq_ingest`), because no link that is
written brings such a mark into the text (`Preview.not_isInfix_apply_linkRules`).
-/

namespace MarkdownDialects

namespace Obsidian

section Link

variable {mark : Text} (apart : Text.Apart "[]()<>".toList mark)
include apart

/-- A link holds a mark only in its text or in its target. -/
theorem isInfix_of_isInfix_link (shown : mark ≠ []) {text target : Text}
    (found : mark <:+: link text target) : mark <:+: text ∨ mark <:+: target := by
  have alone {c : Char} (bracket : c ∈ "[]()<>".toList) : Text.Apart [c] mark :=
    List.forall_mem_singleton.mpr (apart c bracket)
  have split : link text target =
      ['['] ++ (text ++ ']' :: (['('] ++ (linkDestination target ++ [')']))) := by simp [link]
  rw [split] at found
  have opened := Text.isInfix_of_isInfix_append_left shown (alone (by decide)) found
  rcases (Text.isInfix_append_cons_iff (apart ']' (by decide))).mp opened with inText | behind
  · exact .inl inText
  · have closed := Text.isInfix_of_isInfix_append_left shown (alone (by decide)) behind
    have within := Text.isInfix_of_isInfix_append_right shown (alone (by decide)) closed
    unfold linkDestination at within
    split at within
    · rw [List.append_assoc] at within
      have bracketed := Text.isInfix_of_isInfix_append_left shown (alone (by decide)) within
      exact .inr (Text.isInfix_of_isInfix_append_right shown (alone (by decide)) bracketed)
    · exact .inr within

/-- A link brings no mark that its match does not hold. -/
theorem bringsNo_link (shown : mark ≠ []) {text target read written whole : Text}
    (related : Pattern.BringsNo mark read written) (inText : text <:+: whole)
    (inTarget : target <:+: whole) :
    Pattern.BringsNo mark (read ++ whole) (written ++ link text target) := by
  have own : mark <:+: link text target → mark <:+: whole := fun found =>
    (isInfix_of_isInfix_link apart shown found).elim (·.trans inText) (·.trans inTarget)
  exact related.append (apart '[' (by decide)) (apart ')' (by decide)) own

end Link

end Obsidian

namespace Preview

open Obsidian

section Mark

variable {mark : Text} (shown : mark ≠ []) (apart : Text.Apart "[]()<>".toList mark)
include shown apart

theorem bringsNo_replaceAll_aliasedLink (t : Text) :
    Pattern.BringsNo mark t (aliasedLinkPattern.replaceAll aliasedLink t) := by
  refine Pattern.replaceAll_induction aliasedLinkPattern_proper (.nil mark)
    (fun _ _ c related => related.concat c) fun read written m rest _ found _ related => ?_
  obtain ⟨target, label, rfl, _⟩ := aliasedLinkPattern_eq_some found
  have inTarget : target <:+: "[[".toList ++ target ++ ['|'] ++ label ++ "]]".toList :=
    ⟨"[[".toList, ['|'] ++ label ++ "]]".toList, by simp only [List.append_assoc]⟩
  exact bringsNo_link apart shown related (List.infix_append _ _ _) inTarget

theorem bringsNo_replaceAll_wikiLink (t : Text) :
    Pattern.BringsNo mark t (wikiLinkPattern.replaceAll wikiLink t) := by
  refine Pattern.replaceAll_induction wikiLinkPattern_proper (.nil mark)
    (fun _ _ c related => related.concat c) fun read written m rest _ found _ related => ?_
  obtain ⟨target, rfl, _⟩ := wikiLinkPattern_eq_some found
  exact bringsNo_link apart shown related (List.infix_append _ _ _) (List.infix_append _ _ _)

/-- **Links bring no marks.**  A mark without brackets is in a text with plain links only if it was
in the text. -/
theorem not_isInfix_apply_linkRules {t : Text} (absent : ¬ mark <:+: t) :
    ¬ mark <:+: RuleSet.apply linkRules t := fun found =>
  absent ((bringsNo_replaceAll_aliasedLink shown apart t).inside
    ((bringsNo_replaceAll_wikiLink shown apart _).inside found))

end Mark

/-- Reading a text as Obsidian is making its links plain, between the embeds in front and the
callouts and highlights behind. -/
theorem apply_ingestRules_eq (t : Text) :
    RuleSet.apply ingestRules t =
      highlightPattern.replaceAll (Template.expand "**$1**".toList)
        (calloutPattern.replaceAll callout
          (RuleSet.apply linkRules (embedPattern.replaceAll embed t))) := by
  simp only [ingestRules, linkRules, RuleSet.apply_cons, RuleSet.apply_nil, Rule.apply_compute,
    Rule.apply_template]

theorem project_obsidian (t : Text) :
    project .obsidian t =
      Marker.spoilerPipes.replaceAll Marker.wrapSpoiler (RuleSet.apply linkRules t) := rfl

end Preview

/-- **Previews show what is read.**  In a text without exclamation marks, double equals signs and
double pipes the preview of Obsidian is the text as Obsidian reads it, whatever brackets it has. -/
theorem project_eq_ingest {t : Text} (noMark : '!' ∉ t) (noEquals : ¬ "==".toList <:+: t)
    (noPipes : ¬ "||".toList <:+: t) :
    Preview.project .obsidian t = RuleSet.apply (Dialect.builtin .obsidian).ingest t := by
  have noEmbed : ¬ "![[".toList <:+: t := fun found => noMark (found.subset (by decide))
  have embeds : Obsidian.embedPattern.replaceAll Obsidian.embed t = t :=
    Obsidian.embedPattern_opens.replaceAll_of_absent noEmbed
  have linked {mark : Text} (shown : mark ≠ []) (apart : Text.Apart "[]()<>".toList mark)
      (absent : ¬ mark <:+: t) : ¬ mark <:+: RuleSet.apply Preview.linkRules t :=
    Preview.not_isInfix_apply_linkRules shown apart absent
  have noCallout : ¬ "[!".toList <:+: RuleSet.apply Preview.linkRules t := by
    have bare : ¬ ['!'] <:+: RuleSet.apply Preview.linkRules t :=
      linked (by decide) (by decide) fun found => noMark (found.subset List.mem_cons_self)
    exact fun found => bare (List.IsInfix.trans (List.suffix_cons '[' ['!']).isInfix found)
  have callouts : Obsidian.calloutPattern.replaceAll Obsidian.callout
      (RuleSet.apply Preview.linkRules t) = RuleSet.apply Preview.linkRules t :=
    Pattern.replaceAll_of_silent fun before s inside =>
      Obsidian.calloutPattern_eq_none fun found => noCallout (found.trans inside.isInfix)
  calc Preview.project .obsidian t
      = Marker.spoilerPipes.replaceAll Marker.wrapSpoiler (RuleSet.apply Preview.linkRules t) :=
        Preview.project_obsidian t
    _ = RuleSet.apply Preview.linkRules t :=
        (Marker.enclosed_opens _ _).replaceAll_of_absent (linked (by decide) (by decide) noPipes)
    _ = Obsidian.highlightPattern.replaceAll (Template.expand "**$1**".toList)
          (RuleSet.apply Preview.linkRules t) :=
        (Obsidian.highlightPattern_opens.replaceAll_of_absent
          (linked (by decide) (by decide) noEquals)).symm
    _ = RuleSet.apply Obsidian.ingestRules t := by
        rw [Preview.apply_ingestRules_eq, embeds, callouts]

/-- Links in a row and one inside another, aliases that hold pipes and equals signs, white space in
a name, and brackets that are no link. -/
theorem project_eq_ingest_of_brackets :
    '!' ∉ "=[[=|=]] [[a b|c|d]]|[[[e]]]|=[[f\n]=[[]] > [[g]]=".toList ∧
      ¬ "==".toList <:+: "=[[=|=]] [[a b|c|d]]|[[[e]]]|=[[f\n]=[[]] > [[g]]=".toList ∧
      ¬ "||".toList <:+: "=[[=|=]] [[a b|c|d]]|[[[e]]]|=[[f\n]=[[]] > [[g]]=".toList ∧
      Preview.project .obsidian "=[[=|=]] [[a b|c|d]]|[[[e]]]|=[[f\n]=[[]] > [[g]]=".toList =
        RuleSet.apply (Dialect.builtin .obsidian).ingest
          "=[[=|=]] [[a b|c|d]]|[[[e]]]|=[[f\n]=[[]] > [[g]]=".toList := by
  have noMark : '!' ∉ "=[[=|=]] [[a b|c|d]]|[[[e]]]|=[[f\n]=[[]] > [[g]]=".toList := by decide
  have noEquals : ¬ "==".toList <:+:
      "=[[=|=]] [[a b|c|d]]|[[[e]]]|=[[f\n]=[[]] > [[g]]=".toList := by decide
  have noPipes : ¬ "||".toList <:+:
      "=[[=|=]] [[a b|c|d]]|[[[e]]]|=[[f\n]=[[]] > [[g]]=".toList := by decide
  exact ⟨noMark, noEquals, noPipes, project_eq_ingest noMark noEquals noPipes⟩

end MarkdownDialects
