import MarkdownDialects.Proofs.Dialect.FenceCount.Marker
import MarkdownDialects.Proofs.Dialect.Obsidian.Pattern

/-!
# Links of notes and code fences

Embeds, aliased links, callouts and highlights keep the number of fence delimiters in every text:
each part of a match is written once.  A wiki-link writes its name twice, and a link on the way back
is decoded, so these keep the number only where they run across no fence
(`Obsidian.lineCount_apply_ingestRules`, `Obsidian.lineCount_apply_emitRules`).
-/

namespace MarkdownDialects

/-! ## Links of notes -/

namespace Obsidian

open Fence Marker

theorem laterCount_linkDestination (target rest : Text) :
    laterCount (linkDestination target ++ ([')'] ++ rest)) =
      laterCount target + laterCount rest := by
  have closes : isSolid [')'] := by decide
  unfold linkDestination
  split
  · have opened : '\n' ∉ ['<'] := by decide
    have bracket : isSolid (['>'] ++ [')']) := by decide
    calc laterCount (['<'] ++ target ++ ['>'] ++ ([')'] ++ rest))
        = laterCount (['<'] ++ (target ++ (['>'] ++ [')'] ++ rest))) := by
          simp only [List.append_assoc]
      _ = laterCount (target ++ (['>'] ++ [')'] ++ rest)) := laterCount_append opened _
      _ = laterCount target + laterCount rest := laterCount_append_of_isSolid bracket target rest
  · exact laterCount_append_of_isSolid closes target rest

/-- A link holds the later lines of its text and of its target. -/
theorem lineCount_append_link (front text target rest : Text) :
    lineCount (front ++ (link text target ++ rest)) =
      lineCount front + (laterCount text + (laterCount target + laterCount rest)) := by
  have opens : isSolid ['['] := by decide
  have middle : isSolid "](".toList := by decide
  simp only [link, List.append_assoc]
  rw [lineCount_append_of_isSolid opens, laterCount_append_of_isSolid middle,
    laterCount_linkDestination]

theorem neutral_embed (target : Text) :
    Neutral ("![[".toList ++ target ++ "]]".toList)
      (embed ⟨"![[".toList ++ target ++ "]]".toList, [target]⟩) := fun front rest => by
  have opens : isSolid "![](".toList := by decide
  rw [lineCount_append_enclosed (by decide) (by decide), embed, List.append_assoc,
    List.append_assoc, lineCount_append_of_isSolid opens, laterCount_linkDestination]
  rfl

theorem neutral_aliasedLink (target shown : Text) :
    Neutral ("[[".toList ++ target ++ ['|'] ++ shown ++ "]]".toList)
      (aliasedLink ⟨"[[".toList ++ target ++ ['|'] ++ shown ++ "]]".toList, [target, shown]⟩) :=
  fun front rest => by
    have opens : isSolid "[[".toList := by decide
    have middle : isSolid ['|'] := by decide
    have closes : isSolid "]]".toList := by decide
    rw [aliasedLink, lineCount_append_link]
    simp only [List.append_assoc]
    rw [lineCount_append_of_isSolid opens, laterCount_append_of_isSolid middle,
      laterCount_append_of_isSolid closes]
    -- The link shows the alias first, so the two parts have changed places.
    exact congrArg (lineCount front + ·) (Nat.add_left_comm _ _ _)

/-- A wiki-link writes its name twice, which is neutral if the name holds no fence. -/
theorem neutral_wikiLink {target : Text}
    (clear : lineCount ("[[".toList ++ target ++ "]]".toList) = 0) :
    Neutral ("[[".toList ++ target ++ "]]".toList)
      (wikiLink ⟨"[[".toList ++ target ++ "]]".toList, [target]⟩) := fun front rest => by
  have counted : lineCount ([] ++ ("[[".toList ++ target ++ "]]".toList ++ [])) =
      lineCount [] + (laterCount target + laterCount []) :=
    lineCount_append_enclosed (by decide) (by decide) [] target []
  have none : laterCount target = 0 := by
    rw [List.append_nil, List.nil_append, clear] at counted
    omega
  rw [wikiLink, lineCount_append_link, lineCount_append_enclosed (by decide) (by decide)]
  simp only [Match.group, List.getD_cons_zero, none, Nat.zero_add]

/-- A callout header stands on one line, and so does its label. -/
theorem neutral_callout {indent kind gap title : Text} (kinds : ∀ c ∈ kind, isKindChar c)
    (indented : '\n' ∉ indent) (gapped : '\n' ∉ gap) (titled : '\n' ∉ title) :
    Neutral (['>'] ++ indent ++ "[!".toList ++ kind ++ [']'] ++ gap ++ title)
      (callout ⟨['>'] ++ indent ++ "[!".toList ++ kind ++ [']'] ++ gap ++ title,
        [kind, title]⟩) := by
  have named : '\n' ∉ kind := fun member => absurd (kinds _ member) (by decide)
  have labelled : '\n' ∉ calloutLabel kind := fun member =>
    named (mem_of_mem_calloutLabel (by decide) member)
  have trimmed : '\n' ∉ Text.trim title := fun member =>
    titled ((Text.trimBy_isInfix title).subset member)
  have opens : isSolid ['>'] := by decide
  have starts : isSolid "> **".toList := by decide
  refine neutral_of_isSolid ?_ ?_
  · simp only [List.append_assoc]
    exact isSolid_append opens (by simp [indented, named, gapped, titled])
  · have head : isSolid ("> **".toList ++ calloutLabel kind ++ ":**".toList) := by
      rw [List.append_assoc]
      exact isSolid_append starts (by simp [labelled])
    simp only [callout, Match.group, List.getD_cons_zero, List.getD_cons_succ]
    split
    · exact head
    · rw [List.append_assoc]
      exact isSolid_append head (by simp [trimmed])

theorem neutral_highlight {marked : Text} (clean : '\n' ∉ marked) :
    Neutral ("==".toList ++ marked ++ "==".toList)
      (Template.expand "**$1**".toList ⟨"==".toList ++ marked ++ "==".toList, [marked]⟩) := by
  have bold : Template.expand "**$1**".toList ⟨"==".toList ++ marked ++ "==".toList, [marked]⟩ =
      "**".toList ++ (marked ++ "**".toList) := rfl
  have opens : isSolid "==".toList := by decide
  have starts : isSolid "**".toList := by decide
  rw [bold, List.append_assoc]
  exact neutral_of_isSolid (isSolid_append opens (by simp [clean]))
    (isSolid_append starts (by simp [clean]))

/-- A match of a link or an image on the way out: neither it nor the note name it decodes to runs
across a code fence. -/
def ClearReference (m : Match) : Prop :=
  lineCount m.whole = 0 ∧ laterCount (noteTarget (m.group 2)) = 0

instance : DecidablePred ClearReference := fun m =>
  inferInstanceAs (Decidable (lineCount m.whole = 0 ∧ laterCount (noteTarget (m.group 2)) = 0))

section Reference

variable {opening mark shown href : Text} (opens : isSolid opening)
include opens

/-- The parts of a link that runs across no fence. -/
theorem laterCount_of_lineCount_reference
    (clear : lineCount (opening ++ shown ++ "](".toList ++ href ++ [')']) = 0) :
    laterCount shown = 0 ∧ laterCount href = 0 := by
  have middle : isSolid "](".toList := by decide
  have closes : isSolid [')'] := by decide
  have counted := lineCount_append_of_isSolid opens []
    (shown ++ ("](".toList ++ (href ++ ([')'] ++ []))))
  rw [laterCount_append_of_isSolid middle, laterCount_append_of_isSolid closes, List.append_nil,
    List.nil_append] at counted
  simp only [List.append_assoc] at clear
  omega

/-- A reference to a note is neutral in the place of a link, if neither holds a fence. -/
theorem neutral_reference (marked : isSolid mark) {target : Text} {label : Option Text}
    (clear : lineCount (opening ++ shown ++ "](".toList ++ href ++ [')']) = 0)
    (named : laterCount target = 0) (part : ∀ text ∈ label, text <:+: shown) :
    Neutral (opening ++ shown ++ "](".toList ++ href ++ [')'])
      (reference mark target label) := fun front rest => by
  obtain ⟨text, destination⟩ := laterCount_of_lineCount_reference opens clear
  have middle : isSolid "](".toList := by decide
  have closes : isSolid [')'] := by decide
  have pipe : isSolid ['|'] := by decide
  have ends : isSolid "]]".toList := by decide
  have before : lineCount (front ++ (opening ++ shown ++ "](".toList ++ href ++ [')'] ++ rest)) =
      lineCount front + laterCount rest := by
    simp only [List.append_assoc]
    rw [lineCount_append_of_isSolid opens, laterCount_append_of_isSolid middle,
      laterCount_append_of_isSolid closes, text, destination, Nat.zero_add, Nat.zero_add]
  rw [before]
  unfold reference
  split
  · rw [lineCount_append_enclosed marked ends, named, Nat.zero_add]
  · rename_i text
    have inside : laterCount text = 0 :=
      Nat.le_zero.mp ((laterCount_le_of_isInfix (part text rfl)).trans_eq ‹_›)
    simp only [List.append_assoc]
    rw [lineCount_append_of_isSolid marked, laterCount_append_of_isSolid pipe,
      laterCount_append_of_isSolid ends, named, inside, Nat.zero_add, Nat.zero_add]

end Reference

theorem neutral_embedBack {alt href : Text}
    (clear : ClearReference ⟨"![".toList ++ alt ++ "](".toList ++ href ++ [')'], [alt, href]⟩) :
    Neutral ("![".toList ++ alt ++ "](".toList ++ href ++ [')'])
      (embedBack ⟨"![".toList ++ alt ++ "](".toList ++ href ++ [')'], [alt, href]⟩) := by
  unfold embedBack
  dsimp only
  split
  · exact .refl _
  · refine neutral_reference (by decide) (by decide) clear.1 clear.2 ?_
    intro text shown
    split at shown
    · exact nomatch shown
    · obtain rfl := Option.some.inj shown
      exact Text.trimBy_isInfix _

theorem neutral_linkBack {text href : Text}
    (clear : ClearReference ⟨['['] ++ text ++ "](".toList ++ href ++ [')'], [text, href]⟩) :
    Neutral (['['] ++ text ++ "](".toList ++ href ++ [')'])
      (linkBack ⟨['['] ++ text ++ "](".toList ++ href ++ [')'], [text, href]⟩) := by
  unfold linkBack
  dsimp only
  split
  · exact .refl _
  · refine neutral_reference (by decide) (by decide) clear.1 clear.2 ?_
    intro label shown
    split at shown
    · exact nomatch shown
    · obtain rfl := Option.some.inj shown
      exact Text.trimBy_isInfix _

/-! ## All rules of the dialect -/

/-- No wiki-link that is neither an embed nor an aliased link runs across a code fence. -/
def ClearWikiLinks (t : Text) : Prop :=
  ∀ m ∈ wikiLinkPattern.findAll (RuleSet.apply (ingestRules.take 2) t), lineCount m.whole = 0

instance : DecidablePred ClearWikiLinks := fun t =>
  inferInstanceAs (Decidable (∀ m ∈ wikiLinkPattern.findAll
    (RuleSet.apply (ingestRules.take 2) t), lineCount m.whole = 0))

/-- No image, and no link that is left behind the images, runs across a code fence or decodes to a
name that does. -/
def ClearReferences (t : Text) : Prop :=
  (∀ m ∈ imagePattern.findAll t, ClearReference m) ∧
    ∀ m ∈ linkPattern.findAll (RuleSet.apply (emitRules.take 1) t), ClearReference m

instance : DecidablePred ClearReferences := fun t =>
  inferInstanceAs (Decidable ((∀ m ∈ imagePattern.findAll t, ClearReference m) ∧
    ∀ m ∈ linkPattern.findAll (RuleSet.apply (emitRules.take 1) t), ClearReference m))

theorem lineCount_apply_ingestRules {t : Text} (clear : ClearWikiLinks t) :
    lineCount (RuleSet.apply ingestRules t) = lineCount t := by
  have embeds (t : Text) : lineCount (embedPattern.replaceAll embed t) = lineCount t :=
    lineCount_replaceAll embedPattern_proper fun _ _ m found _ => by
      obtain ⟨target, rfl, _⟩ := embedPattern_eq_some found
      exact neutral_embed target
  have aliased (t : Text) : lineCount (aliasedLinkPattern.replaceAll aliasedLink t) = lineCount t :=
    lineCount_replaceAll aliasedLinkPattern_proper fun _ _ m found _ => by
      obtain ⟨target, shown, rfl, _⟩ := aliasedLinkPattern_eq_some found
      exact neutral_aliasedLink target shown
  have links : lineCount (wikiLinkPattern.replaceAll wikiLink
      (RuleSet.apply (ingestRules.take 2) t)) = lineCount (RuleSet.apply (ingestRules.take 2) t) :=
    lineCount_replaceAll wikiLinkPattern_proper fun _ _ m found among => by
      obtain ⟨target, rfl, _⟩ := wikiLinkPattern_eq_some found
      exact neutral_wikiLink (clear _ among)
  have callouts (t : Text) : lineCount (calloutPattern.replaceAll callout t) = lineCount t :=
    lineCount_replaceAll calloutPattern_proper fun _ _ m found _ => by
      obtain ⟨_, _, _, _, rfl, kinds, indented, gapped, titled, _⟩ := calloutPattern_eq_some found
      exact neutral_callout kinds indented gapped titled
  have highlights (t : Text) :
      lineCount (highlightPattern.replaceAll (Template.expand "**$1**".toList) t) = lineCount t :=
    lineCount_replaceAll highlightPattern_proper fun _ _ m found _ => by
      obtain ⟨marked, rfl, clean, _⟩ := highlightPattern_eq_some found
      exact neutral_highlight clean
  calc lineCount (RuleSet.apply ingestRules t)
      = lineCount (highlightPattern.replaceAll (Template.expand "**$1**".toList)
          (calloutPattern.replaceAll callout (wikiLinkPattern.replaceAll wikiLink
            (RuleSet.apply (ingestRules.take 2) t)))) := by
        simp only [ingestRules, List.take_succ_cons, List.take_zero, RuleSet.apply_cons,
          RuleSet.apply_nil, Rule.apply_compute, Rule.apply_template]
    _ = lineCount (wikiLinkPattern.replaceAll wikiLink (RuleSet.apply (ingestRules.take 2) t)) := by
        rw [highlights, callouts]
    _ = lineCount (aliasedLinkPattern.replaceAll aliasedLink (embedPattern.replaceAll embed t)) :=
        links
    _ = lineCount t := by rw [aliased, embeds]

theorem lineCount_apply_emitRules {t : Text} (clear : ClearReferences t) :
    lineCount (RuleSet.apply emitRules t) = lineCount t := by
  have images : lineCount (imagePattern.replaceAll embedBack t) = lineCount t :=
    lineCount_replaceAll imagePattern_proper fun _ _ m found among => by
      obtain ⟨alt, href, rfl, _⟩ := imagePattern_eq_some found
      exact neutral_embedBack (clear.1 _ among)
  have links : lineCount (linkPattern.replaceAll linkBack (RuleSet.apply (emitRules.take 1) t)) =
      lineCount (RuleSet.apply (emitRules.take 1) t) :=
    lineCount_replaceAll linkPattern_proper fun _ _ m found among => by
      obtain ⟨text, href, rfl, _⟩ := linkPattern_eq_some found
      exact neutral_linkBack (clear.2 _ among)
  calc lineCount (RuleSet.apply emitRules t)
      = lineCount (Marker.spoilerSpan.replaceAll Marker.unwrapSpoiler
          (linkPattern.replaceAll linkBack (RuleSet.apply (emitRules.take 1) t))) := rfl
    _ = lineCount (linkPattern.replaceAll linkBack (RuleSet.apply (emitRules.take 1) t)) :=
        lineCount_exchange (by decide) (by decide) (by decide) (by decide) _
    _ = lineCount (imagePattern.replaceAll embedBack t) := links
    _ = lineCount t := images

end Obsidian

end MarkdownDialects
