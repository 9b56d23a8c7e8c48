import MarkdownDialects.Dialect.Registry
import MarkdownDialects.Proofs.Dialect.Kramdown
import MarkdownDialects.Proofs.Dialect.MultiMarkdown
import MarkdownDialects.Proofs.Dialect.Obsidian.Pattern
import MarkdownDialects.Proofs.Substitution.Enclosed
import MarkdownDialects.Proofs.Substitution.Fenced

/-!
# Fenced code on the way in

The rules that bring a dialect into the neutral form run over code as over any other text, but they
leave the fences around it where they are (`Dialect.exists_apply_ingest_fenced`).
-/

namespace MarkdownDialects

open Pattern (KeepsFences)

namespace Obsidian

theorem isCode_linkDestination {target : Text} (clean : IsCode target) :
    IsCode (linkDestination target) := by
  unfold linkDestination
  split
  · exact isCode_append.mpr ⟨isCode_append.mpr ⟨.of_all rfl, clean⟩, .of_all rfl⟩
  · exact clean

theorem isCode_link {text target : Text} (shown : IsCode text) (clean : IsCode target) :
    IsCode (link text target) := by
  have destination := isCode_linkDestination clean
  have middle : IsCode "](".toList := .of_all rfl
  simp only [link, isCode_append, shown, destination, middle, and_true]
  exact ⟨.of_all rfl, .of_all rfl⟩

theorem keepsFences_embed : KeepsFences embedPattern embed where
  proper := embedPattern_proper
  silent := embedPattern_opens.silent rfl
  inside before code m clean found := by
    obtain ⟨target, rfl, front⟩ := embedPattern_eq_some found
    have inside : "![[".toList ++ target ++ "]]".toList <+: code :=
      Pattern.isPrefix_code (List.cons_ne_nil _ _) rfl front
    have whole := clean.of_subset inside.subset
    simp only [isCode_append] at whole
    have mark : IsCode "![](".toList ∧ IsCode [')'] := ⟨.of_all rfl, .of_all rfl⟩
    refine ⟨inside, ?_⟩
    simp only [embed, isCode_append]
    exact ⟨⟨mark.1, isCode_linkDestination whole.1.2⟩, mark.2⟩

theorem keepsFences_aliasedLink : KeepsFences aliasedLinkPattern aliasedLink where
  proper := aliasedLinkPattern_proper
  silent := aliasedLinkPattern_opens.silent rfl
  inside before code m clean found := by
    obtain ⟨target, shown, rfl, front⟩ := aliasedLinkPattern_eq_some found
    have inside : "[[".toList ++ target ++ ['|'] ++ shown ++ "]]".toList <+: code :=
      Pattern.isPrefix_code (List.cons_ne_nil _ _) rfl front
    have whole := clean.of_subset inside.subset
    simp only [isCode_append] at whole
    exact ⟨inside, isCode_link whole.1.2 whole.1.1.1.2⟩

theorem keepsFences_wikiLink : KeepsFences wikiLinkPattern wikiLink where
  proper := wikiLinkPattern_proper
  silent := wikiLinkPattern_opens.silent rfl
  inside before code m clean found := by
    obtain ⟨target, rfl, front⟩ := wikiLinkPattern_eq_some found
    have inside : "[[".toList ++ target ++ "]]".toList <+: code :=
      Pattern.isPrefix_code (List.cons_ne_nil _ _) rfl front
    have whole := clean.of_subset inside.subset
    simp only [isCode_append] at whole
    exact ⟨inside, isCode_link whole.1.2 whole.1.2⟩

theorem keepsFences_callout : KeepsFences calloutPattern callout where
  proper := calloutPattern_proper
  silent before c t fence := by
    have unquoted : Text.after? ['>'] (c :: t) = none := by
      rw [Text.after?_eq_none_iff]
      intro found
      obtain ⟨rfl, _⟩ := List.cons_prefix_cons.mp found
      exact Bool.noConfusion fence
    unfold calloutPattern
    rw [unquoted]
    cases Pattern.atLineStart before <;> rfl
  inside before code m clean found := by
    obtain ⟨indent, kind, gap, title, rfl, kinds, indented, gapped, titled, front⟩ :=
      calloutPattern_eq_some found
    have named : '\n' ∉ kind := fun member => absurd (kinds _ member) (by decide)
    have inside := Pattern.isPrefix_code_of_not_mem front
      (by simp [indented, named, gapped, titled])
    have whole := clean.of_subset inside.subset
    simp only [isCode_append] at whole
    have label : IsCode (calloutLabel kind) := by
      have kind := isCode_iff.mp whole.1.1.1.2
      refine isCode_iff.mpr ⟨fun member => kind.1 (mem_of_mem_calloutLabel rfl member),
        fun member => kind.2.1 (mem_of_mem_calloutLabel rfl member),
        fun member => kind.2.2 (mem_of_mem_calloutLabel rfl member)⟩
    have trimmed : IsCode (Text.trim title) := whole.2.of_subset (Text.trimBy_isInfix title).subset
    have marks : IsCode "> **".toList ∧ IsCode ":**".toList ∧ IsCode [' '] :=
      ⟨.of_all rfl, .of_all rfl, .of_all rfl⟩
    refine ⟨inside, ?_⟩
    have head : IsCode ("> **".toList ++ calloutLabel kind ++ ":**".toList) :=
      isCode_append.mpr ⟨isCode_append.mpr ⟨marks.1, label⟩, marks.2.1⟩
    simp only [callout, Match.group, List.getD_cons_zero, List.getD_cons_succ]
    split
    · exact head
    · exact isCode_append.mpr ⟨isCode_append.mpr ⟨head, marks.2.2⟩, trimmed⟩

theorem keepsFences_highlight :
    KeepsFences highlightPattern (Template.expand "**$1**".toList) where
  proper := highlightPattern_proper
  silent := highlightPattern_opens.silent rfl
  inside before code m clean found := by
    obtain ⟨marked, rfl, _, front⟩ := highlightPattern_eq_some found
    have inside : "==".toList ++ marked ++ "==".toList <+: code :=
      Pattern.isPrefix_code (List.cons_ne_nil _ _) rfl front
    have whole := clean.of_subset inside.subset
    simp only [isCode_append] at whole
    have bold : Template.expand "**$1**".toList ⟨"==".toList ++ marked ++ "==".toList, [marked]⟩ =
      "**".toList ++ (marked ++ "**".toList) := rfl
    have stars : IsCode "**".toList := .of_all rfl
    rw [bold]
    exact ⟨inside, isCode_append.mpr ⟨stars, isCode_append.mpr ⟨whole.1.2, stars⟩⟩⟩

end Obsidian

namespace Marker

theorem keepsFences_spoiler : KeepsFences spoilerPipes wrapSpoiler where
  proper := enclosed_proper (by decide) (by decide)
  silent := (enclosed_opens pipes pipes).silent rfl
  inside before code m clean found := by
    obtain ⟨payload, rest, rfl, whole⟩ := enclosed_eq_some (by decide) found
    have inside : pipes ++ payload ++ pipes <+: code :=
      Pattern.isPrefix_code (List.cons_ne_nil _ _) rfl ⟨rest, whole⟩
    have kept := clean.of_subset inside.subset
    simp only [isCode_append] at kept
    have marks : IsCode spoilerOpen ∧ IsCode spoilerClose := ⟨.of_all rfl, .of_all rfl⟩
    exact ⟨inside, isCode_append.mpr ⟨isCode_append.mpr ⟨marks.1, kept.1.2⟩, marks.2⟩⟩

theorem keepsFences_attributeList : KeepsFences attributeListLine wrapAttributeList where
  proper := attributeListLine_proper
  silent before c t fence := by
    simp only [Pattern.isFenceChar, Bool.or_eq_true, beq_iff_eq] at fence
    rcases fence with rfl | rfl
    · unfold attributeListLine
      cases Pattern.atLineStart before <;> rfl
    · unfold attributeListLine
      cases Pattern.atLineStart before <;> rfl
  inside before code m clean found := by
    obtain ⟨_, l, rfl, rest, whole, _⟩ := attributeListLine_eq_some found
    have shown : l.toMatch.whole = (l.indent ++ (['{', ':'] ++ l.payload)) ++ (['}'] ++ l.gap) := by
      simp only [AttributeLine.toMatch, AttributeLine.list, List.append_assoc]
    have ends : (['}'] ++ l.gap).getLast?.any Pattern.isFenceChar = false := by
      cases last : (['}'] ++ l.gap).getLast? with
      | none => rfl
      | some c =>
        rcases List.mem_cons.mp (List.mem_of_getLast? last) with rfl | inside
        · rfl
        · have gap := l.gap_gap c inside
          rw [isGap, Bool.or_eq_true, beq_iff_eq, beq_iff_eq] at gap
          rcases gap with rfl | rfl <;> rfl
    have inside : l.toMatch.whole <+: code :=
      shown ▸ Pattern.isPrefix_code (List.cons_ne_nil _ _) ends (shown ▸ ⟨rest, whole.symm⟩)
    have kept := clean.of_subset inside.subset
    have marks : IsCode attributeListOpen ∧ IsCode commentClose := ⟨.of_all rfl, .of_all rfl⟩
    rw [AttributeLine.toMatch, isCode_append, isCode_append] at kept
    refine ⟨inside, ?_⟩
    rw [l.wrapAttributeList_toMatch, AttributeLine.comment]
    exact isCode_append.mpr ⟨kept.1.1,
      isCode_append.mpr ⟨isCode_append.mpr ⟨marks.1, kept.1.2⟩, marks.2⟩⟩

/-- Fenced code begins with no metadata. -/
theorem replaceAll_metadataBlock_fenced (code : Text) :
    metadataBlock.replaceAll wrapMetadata (fenced code) = fenced code := by
  refine replaceAll_metadataBlock_of_not_leads fun fields body leads => ?_
  obtain ⟨line, fields, rfl⟩ := List.exists_cons_of_ne_nil leads.nonempty
  have isLine := (leads.isLine line List.mem_cons_self).2
  have whole := leads.whole
  have fence : fenced code = '`' :: ("``\n".toList ++ (code ++ "\n```".toList)) := rfl
  rw [Text.terminated_cons, fence] at whole
  cases line with
  | nil => exact Bool.noConfusion isLine
  | cons c line =>
    obtain rfl : '`' = c := (List.cons.inj whole).1
    exact Bool.noConfusion isLine

end Marker

namespace Dialect

/-- **The way in keeps fences.** -/
theorem exists_apply_ingest_fenced (id : DialectId) {code : Text} (clean : IsCode code) :
    ∃ replaced, RuleSet.apply (builtin id).ingest (fenced code) = fenced replaced ∧
      IsCode replaced := by
  have spoilers := Marker.keepsFences_spoiler.exists_replaceAll clean
  cases id
  case gfm => exact ⟨code, rfl, clean⟩
  case commonMark => exact ⟨code, rfl, clean⟩
  case kramdown => exact Marker.keepsFences_attributeList.exists_replaceAll clean
  case obsidian =>
    obtain ⟨_, embeds, clean⟩ := Obsidian.keepsFences_embed.exists_replaceAll clean
    obtain ⟨_, aliased, clean⟩ := Obsidian.keepsFences_aliasedLink.exists_replaceAll clean
    obtain ⟨_, links, clean⟩ := Obsidian.keepsFences_wikiLink.exists_replaceAll clean
    obtain ⟨_, callouts, clean⟩ := Obsidian.keepsFences_callout.exists_replaceAll clean
    obtain ⟨replaced, highlights, clean⟩ := Obsidian.keepsFences_highlight.exists_replaceAll clean
    refine ⟨replaced, ?_, clean⟩
    change RuleSet.apply Obsidian.ingestRules (fenced code) = fenced replaced
    simp only [Obsidian.ingestRules, RuleSet.apply_cons, RuleSet.apply_nil, Rule.apply_compute,
      Rule.apply_template, embeds, aliased, links, callouts, highlights]
  case discord => exact spoilers
  case reddit => exact spoilers
  case multiMarkdown => exact ⟨code, Marker.replaceAll_metadataBlock_fenced code, clean⟩

end Dialect

end MarkdownDialects
