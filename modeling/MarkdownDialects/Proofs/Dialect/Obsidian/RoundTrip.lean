import MarkdownDialects.Dialect.Builtin
import MarkdownDialects.Proofs.Dialect.Obsidian.Note
import MarkdownDialects.Proofs.Dialect.Obsidian.Pattern
import MarkdownDialects.Proofs.Substitution.Enclosed

/-!
# Links to notes there and back

A document is a row of pieces: plain text, and links, aliased links and embeds of notes.  Each rule
of Obsidian rewrites the pieces of one form and passes over all others, so the rules bring a
document into its neutral form piece by piece (`Obsidian.apply_ingestRules`), and back again
(`Obsidian.apply_emitRules`).
-/

namespace MarkdownDialects

namespace Obsidian

/-- A piece of a document: plain text, or one of the three ways to refer to a note. -/
inductive DocPiece where
  | plain (text : Text) (clean : Lacks "[]!=<".toList text)
  | link (target : NoteName)
  | aliased (target : NoteName) (shown : Alias) (differs : shown.text ≠ target.text)
  | embed (target : NoteName)

namespace DocPiece

/-- A piece as Obsidian writes it. -/
def written : DocPiece → Text
  | plain text _ => text
  | link target => "[[".toList ++ target.text ++ "]]".toList
  | aliased target shown _ => "[[".toList ++ target.text ++ ['|'] ++ shown.text ++ "]]".toList
  | embed target => "![[".toList ++ target.text ++ "]]".toList

@[simp]
theorem written_link (target : NoteName) :
    (link target).written = "[[".toList ++ target.text ++ "]]".toList := rfl

@[simp]
theorem written_aliased (target : NoteName) (shown : Alias) (differs : shown.text ≠ target.text) :
    (aliased target shown differs).written =
      "[[".toList ++ target.text ++ ['|'] ++ shown.text ++ "]]".toList := rfl

@[simp]
theorem written_embed (target : NoteName) :
    (embed target).written = "![[".toList ++ target.text ++ "]]".toList := rfl

/-- A piece in the neutral form. -/
def neutral : DocPiece → Text
  | plain text _ => text
  | link target => Obsidian.link target.text target.text
  | aliased target shown _ => Obsidian.link shown.text target.text
  | embed target => "![](".toList ++ linkDestination target.text ++ [')']

@[simp]
theorem neutral_link (target : NoteName) :
    (link target).neutral = Obsidian.link target.text target.text := rfl

@[simp]
theorem neutral_aliased (target : NoteName) (shown : Alias) (differs : shown.text ≠ target.text) :
    (aliased target shown differs).neutral = Obsidian.link shown.text target.text := rfl

@[simp]
theorem neutral_embed (target : NoteName) :
    (embed target).neutral = "![](".toList ++ linkDestination target.text ++ [')'] := rfl

/-- A piece of which only an embed is in the neutral form. -/
def embedNeutral : DocPiece → Text
  | embed target => (embed target).neutral
  | piece => piece.written

/-- A piece of which only a link is not yet in the neutral form. -/
def linkWritten : DocPiece → Text
  | link target => (link target).written
  | piece => piece.neutral

/-- A piece of which only an embed is written as Obsidian does. -/
def embedWritten : DocPiece → Text
  | embed target => (embed target).written
  | piece => piece.neutral

end DocPiece

/-! ## What the rules pass over -/

/-- A bracket before text that has none is a single one. -/
theorem not_doubleBracket_isPrefix {inside : Text} (nonempty : inside ≠ []) (absent : '[' ∉ inside)
    (rest : Text) : ¬ "[[".toList <+: ['['] ++ inside ++ rest := by
  intro found
  obtain ⟨c, others, rfl⟩ := List.exists_cons_of_ne_nil nonempty
  have second : ['['] <+: c :: (others ++ rest) := (List.cons_prefix_cons.mp found).2
  obtain ⟨rfl, _⟩ := List.cons_prefix_cons.mp second
  exact absent List.mem_cons_self

section Passing

variable {p : Pattern} {f : Match → Text} (unanchored : Pattern.Unanchored p)
include unanchored

/-- A rule for double brackets passes over a single one. -/
theorem replaceAll_singleBracket (opens : Pattern.Opens p "[[".toList) {inside : Text}
    (nonempty : inside ≠ []) (absent : '[' ∉ inside) (rest : Text) :
    p.replaceAll f (['['] ++ inside ++ rest) = ['['] ++ inside ++ p.replaceAll f rest := by
  have silent : p none ('[' :: (inside ++ rest)) = none :=
    opens (not_doubleBracket_isPrefix nonempty absent rest)
  rw [List.append_assoc, List.singleton_append,
    Pattern.replaceAll_cons_of_none unanchored silent,
    opens.replaceAll_append unanchored absent rest]
  rfl

/-- A rule passes over double brackets if it finds nothing at either of them. -/
theorem replaceAll_doubleBracket {w : Text} (opens : Pattern.Opens p ('[' :: w)) {inside : Text}
    (absent : '[' ∉ inside) (rest : Text) (first : p none ("[[".toList ++ inside ++ rest) = none)
    (second : p none (['['] ++ inside ++ rest) = none) :
    p.replaceAll f ("[[".toList ++ inside ++ rest) =
      "[[".toList ++ inside ++ p.replaceAll f rest := by
  have outer : p none ('[' :: '[' :: (inside ++ rest)) = none := first
  have inner : p none ('[' :: (inside ++ rest)) = none := second
  change p.replaceAll f ('[' :: '[' :: (inside ++ rest)) = _
  rw [Pattern.replaceAll_cons_of_none unanchored outer,
    Pattern.replaceAll_cons_of_none unanchored inner,
    opens.replaceAll_append unanchored absent rest]
  rfl

end Passing

/-! ## Into the neutral form -/

theorem replaceAll_embedPattern (piece : DocPiece) (rest : Text) :
    embedPattern.replaceAll embed (piece.written ++ rest) =
      piece.embedNeutral ++ embedPattern.replaceAll embed rest := by
  have unanchored : embedPattern.Unanchored := fun _ _ _ => rfl
  have opens : Pattern.Opens embedPattern ('!' :: "[[".toList) := embedPattern_opens
  cases piece with
  | plain text clean => exact opens.replaceAll_append unanchored (clean '!' (by decide)) rest
  | link target =>
    refine opens.replaceAll_append unanchored ?_ rest
    simp [target.clean '!' (by decide)]
  | aliased target shown differs =>
    refine opens.replaceAll_append unanchored ?_ rest
    simp [target.clean '!' (by decide), shown.clean '!' (by decide)]
  | embed target =>
    have found := embedPattern_append none rest target.nonempty (target.clean ']' (by decide))
    have replaced := Pattern.replaceAll_append_of_match (f := embed) unanchored
      (List.cons_ne_nil _ _) found
    exact replaced

/-- The image that stands for an embed has no double bracket. -/
theorem replaceAll_neutral_embed {p : Pattern} {f : Match → Text} (unanchored : p.Unanchored)
    (opens : p.Opens "[[".toList) (target : NoteName) (rest : Text) :
    p.replaceAll f ((DocPiece.embed target).neutral ++ rest) =
      (DocPiece.embed target).neutral ++ p.replaceAll f rest := by
  have absent : '[' ∉ "](".toList ++ linkDestination target.text ++ [')'] := by
    simp [not_mem_linkDestination (target.clean '[' (by decide))]
  have mark : '[' ∉ ['!'] := by decide
  have image : (DocPiece.embed target).neutral ++ rest =
      ['!'] ++ (['['] ++ ("](".toList ++ linkDestination target.text ++ [')']) ++ rest) := rfl
  rw [image, Pattern.Opens.replaceAll_append unanchored opens mark,
    replaceAll_singleBracket unanchored opens (List.append_ne_nil_of_right_ne_nil _ (by decide))
      absent]
  rfl

/-- The link that stands for a reference to a note has no double bracket. -/
theorem replaceAll_link {p : Pattern} {f : Match → Text} (unanchored : p.Unanchored)
    (opens : p.Opens "[[".toList) {marks : Text} (shown : LinkText marks) (bracket : '[' ∈ marks)
    (target : NoteName) (rest : Text) :
    p.replaceAll f (link shown.text target.text ++ rest) =
      link shown.text target.text ++ p.replaceAll f rest := by
  have absent : '[' ∉ shown.text ++ ("](".toList ++ linkDestination target.text ++ [')']) := by
    simp [not_mem_linkDestination (target.clean '[' (by decide)), shown.clean '[' bracket]
  have whole : link shown.text target.text =
      ['['] ++ (shown.text ++ ("](".toList ++ linkDestination target.text ++ [')'])) := by
    simp only [link, List.append_assoc]
  rw [whole]
  exact replaceAll_singleBracket unanchored opens (by simp [shown.nonempty]) absent rest

theorem replaceAll_aliasedLinkPattern (piece : DocPiece) (rest : Text) :
    aliasedLinkPattern.replaceAll aliasedLink (piece.embedNeutral ++ rest) =
      piece.linkWritten ++ aliasedLinkPattern.replaceAll aliasedLink rest := by
  have unanchored : aliasedLinkPattern.Unanchored := fun _ _ _ => rfl
  have opens : Pattern.Opens aliasedLinkPattern "[[".toList := aliasedLinkPattern_opens
  cases piece with
  | plain text clean =>
    exact Pattern.Opens.replaceAll_append unanchored opens (clean '[' (by decide)) rest
  | link target =>
    have closed : ']' ∉ target.text := target.clean ']' (by decide)
    have absent : '[' ∉ target.text ++ "]]".toList := by simp [target.clean '[' (by decide)]
    have outer := aliasedLinkPattern_wikiLink none rest target.nonempty
      (target.clean '|' (by decide)) closed
    have inner : aliasedLinkPattern none (['['] ++ (target.text ++ "]]".toList) ++ rest) = none :=
      opens (not_doubleBracket_isPrefix (by simp) absent rest)
    change aliasedLinkPattern.replaceAll aliasedLink ((DocPiece.link target).written ++ rest) =
      (DocPiece.link target).written ++ _
    rw [DocPiece.written_link, List.append_assoc "[[".toList]
    rw [List.append_assoc "[[".toList] at outer
    exact replaceAll_doubleBracket unanchored opens absent rest outer inner
  | aliased target shown differs =>
    have found := aliasedLinkPattern_append none rest target.nonempty (target.clean '|' (by decide))
      (target.clean ']' (by decide)) shown.nonempty (shown.clean ']' (by decide))
    have replaced := Pattern.replaceAll_append_of_match (f := aliasedLink) unanchored
      (List.cons_ne_nil _ _) found
    exact replaced
  | embed target => exact replaceAll_neutral_embed unanchored opens target rest

theorem replaceAll_wikiLinkPattern (piece : DocPiece) (rest : Text) :
    wikiLinkPattern.replaceAll wikiLink (piece.linkWritten ++ rest) =
      piece.neutral ++ wikiLinkPattern.replaceAll wikiLink rest := by
  have unanchored : wikiLinkPattern.Unanchored := fun _ _ _ => rfl
  have opens : Pattern.Opens wikiLinkPattern "[[".toList := wikiLinkPattern_opens
  cases piece with
  | plain text clean =>
    exact Pattern.Opens.replaceAll_append unanchored opens (clean '[' (by decide)) rest
  | link target =>
    have found := wikiLinkPattern_append none rest target.nonempty (target.clean ']' (by decide))
    have replaced := Pattern.replaceAll_append_of_match (f := wikiLink) unanchored
      (List.cons_ne_nil _ _) found
    exact replaced
  | aliased target shown differs =>
    exact replaceAll_link unanchored opens shown (by decide) target rest
  | embed target => exact replaceAll_neutral_embed unanchored opens target rest

/-! ## Back to the syntax of Obsidian -/

/-- An image of a note without alternative text is an embed of the note. -/
theorem embedBack_linkDestination (target : NoteName) (whole : Text) :
    embedBack ⟨whole, [[], linkDestination target.text]⟩ =
      reference "![[".toList target.text none := by
  have name : noteTarget (linkDestination target.text) = target.text :=
    noteTarget_linkDestination target
  have internal : looksInternal target.text = true := target.internal
  simp only [embedBack, Match.group, List.getD_cons_zero, List.getD_cons_succ, name, internal]
  rfl

/-- A link to a note is a reference to the note, with the text it shows unless that is the name. -/
theorem linkBack_of_noteTarget {marks : Text} (shown : LinkText marks) (escape : '\\' ∈ marks)
    (target : NoteName) {href : Text} (name : noteTarget href = target.text) (whole : Text) :
    linkBack ⟨whole, [shown.text, href]⟩ =
      reference "[[".toList target.text
        (if shown.text == target.text then none else some shown.text) := by
  have internal : looksInternal target.text = true := target.internal
  have unescaped : (shown.text.getLast? == some '\\') = false := by
    rw [beq_eq_false_iff_ne]
    intro last
    exact shown.clean '\\' escape (List.mem_of_getLast? last)
  simp only [linkBack, Match.group, List.getD_cons_zero, List.getD_cons_succ, name, internal,
    unescaped, shown.trimmed]
  rfl

theorem replaceAll_imagePattern (piece : DocPiece) (rest : Text) :
    imagePattern.replaceAll embedBack (piece.neutral ++ rest) =
      piece.embedWritten ++ imagePattern.replaceAll embedBack rest := by
  have unanchored : imagePattern.Unanchored := fun _ _ _ => rfl
  have opens : Pattern.Opens imagePattern ('!' :: ['[']) := imagePattern_opens
  cases piece with
  | plain text clean => exact opens.replaceAll_append unanchored (clean '!' (by decide)) rest
  | link target =>
    have absent : '!' ∉ link target.text target.text :=
      not_mem_link (target.clean '!' (by decide)) (target.clean '!' (by decide)) (by decide)
    exact opens.replaceAll_append unanchored absent rest
  | aliased target shown differs =>
    have absent : '!' ∉ link shown.text target.text :=
      not_mem_link (shown.clean '!' (by decide)) (target.clean '!' (by decide)) (by decide)
    exact opens.replaceAll_append unanchored absent rest
  | embed target =>
    have closed : ')' ∉ linkDestination target.text :=
      not_mem_linkDestination (target.clean ')' (by decide)) (by decide) (by decide)
    have found := imagePattern_append none rest (List.not_mem_nil (a := ']'))
      (linkDestination_ne_nil target.nonempty) closed
    have replaced := Pattern.replaceAll_append_of_match (f := embedBack) unanchored
      (List.cons_ne_nil _ _) found
    rw [embedBack_linkDestination] at replaced
    exact replaced

/-- The link rule finds every link to a note. -/
theorem replaceAll_linkPattern_link {marks : Text} (shown : LinkText marks) (escape : '\\' ∈ marks)
    (bracket : ']' ∈ marks) (target : NoteName) (rest : Text) :
    linkPattern.replaceAll linkBack (link shown.text target.text ++ rest) =
      reference "[[".toList target.text
          (if shown.text == target.text then none else some shown.text) ++
        linkPattern.replaceAll linkBack rest := by
  have closed : ')' ∉ linkDestination target.text :=
    not_mem_linkDestination (target.clean ')' (by decide)) (by decide) (by decide)
  have found := linkPattern_append none rest shown.nonempty (shown.clean ']' bracket)
    (linkDestination_ne_nil target.nonempty) closed
  have replaced := Pattern.replaceAll_append_of_match (f := linkBack) (fun _ _ _ => rfl)
    (List.cons_ne_nil _ _) found
  rw [linkBack_of_noteTarget shown escape target (noteTarget_linkDestination target)] at replaced
  exact replaced

theorem replaceAll_linkPattern (piece : DocPiece) (rest : Text) :
    linkPattern.replaceAll linkBack (piece.embedWritten ++ rest) =
      piece.written ++ linkPattern.replaceAll linkBack rest := by
  have unanchored : linkPattern.Unanchored := fun _ _ _ => rfl
  have opens : Pattern.Opens linkPattern ['['] := linkPattern_opens
  cases piece with
  | plain text clean => exact opens.replaceAll_append unanchored (clean '[' (by decide)) rest
  | link target =>
    have replaced := replaceAll_linkPattern_link target.toLinkText (by decide) (by decide) target
      rest
    rw [beq_self_eq_true, if_pos rfl] at replaced
    exact replaced
  | aliased target shown differs =>
    have replaced := replaceAll_linkPattern_link shown (by decide) (by decide) target rest
    rw [beq_eq_false_iff_ne.mpr differs, if_neg Bool.false_ne_true] at replaced
    exact replaced
  | embed target =>
    have closed : ']' ∉ target.text := target.clean ']' (by decide)
    have mark : '[' ∉ ['!'] := by decide
    have absent : '[' ∉ target.text ++ "]]".toList := by simp [target.clean '[' (by decide)]
    -- What the first bracket opens is `[name`, what the second opens is `name`: both close twice.
    have ended : ']' ∉ '[' :: target.text := by simp [closed]
    have outer : linkPattern none ("[[".toList ++ (target.text ++ "]]".toList) ++ rest) = none := by
      rw [← List.append_assoc]
      exact linkPattern_eq_none none rest (List.cons_ne_nil _ _) ended
    have inner : linkPattern none (['['] ++ (target.text ++ "]]".toList) ++ rest) = none := by
      rw [← List.append_assoc]
      exact linkPattern_eq_none none rest target.nonempty closed
    have whole : (DocPiece.embed target).written ++ rest =
        ['!'] ++ ("[[".toList ++ (target.text ++ "]]".toList) ++ rest) := by
      simp
    change linkPattern.replaceAll linkBack ((DocPiece.embed target).written ++ rest) = _
    rw [whole, opens.replaceAll_append unanchored mark,
      replaceAll_doubleBracket unanchored opens absent rest outer inner]
    simp

/-! ## Whole documents -/

/-- The mark of a callout is not found across the seam after a text that does not end in its
bracket. -/
theorem not_calloutMark_isInfix_append {front rest : Text} (inside : ¬ "[!".toList <:+: front)
    (ends : ¬ ['['] <:+ front) (behind : ¬ "[!".toList <:+: rest) :
    ¬ "[!".toList <:+: front ++ rest := by
  intro found
  rcases List.infix_append_iff_ne_nil.mp found with within | within | across
  · exact inside within
  · exact behind within
  · obtain ⟨first, second, left, right, cut, back, _⟩ := across
    rcases first with _ | ⟨c, _ | ⟨d, others⟩⟩
    · exact left rfl
    · have bracket : '[' = c := (List.cons.inj cut).1
      exact ends (bracket ▸ back)
    · have empty : [] = others ++ second := (List.cons.inj (List.cons.inj cut).2).2
      exact right (List.append_eq_nil_iff.mp empty.symm).2

/-- No piece of a document in the neutral form contains the mark of a callout or ends in its
bracket. -/
theorem DocPiece.not_calloutMark_isInfix_neutral (piece : DocPiece) :
    ¬ "[!".toList <:+: piece.neutral ∧ ¬ ['['] <:+ piece.neutral := by
  have within {t : Text} (absent : '!' ∉ t) : ¬ "[!".toList <:+: t :=
    fun found => absent (found.subset (by decide))
  have tail {t : Text} : ¬ ['['] <:+ t ++ [')'] := by
    rw [List.singleton_suffix_append_singleton_iff]
    decide
  cases piece with
  | plain text clean =>
    have bracket : '[' ∉ text := clean '[' (by decide)
    exact ⟨within (clean '!' (by decide)), fun found => bracket (found.subset (by decide))⟩
  | link target =>
    refine ⟨within ?_, tail⟩
    exact not_mem_link (target.clean '!' (by decide)) (target.clean '!' (by decide)) (by decide)
  | aliased target shown differs =>
    refine ⟨within ?_, tail⟩
    exact not_mem_link (shown.clean '!' (by decide)) (target.clean '!' (by decide)) (by decide)
  | embed target =>
    refine ⟨?_, tail⟩
    have behind : '!' ∉ "[](".toList ++ linkDestination target.text ++ [')'] := by
      simp [not_mem_linkDestination (target.clean '!' (by decide))]
    intro found
    rcases List.infix_cons_iff.mp found with front | later
    · exact absurd (List.cons_prefix_cons.mp front).1 (by decide)
    · exact within behind later

/-- A document in the neutral form opens no callout. -/
theorem not_calloutMark_isInfix (doc : List DocPiece) :
    ¬ "[!".toList <:+: doc.flatMap DocPiece.neutral := by
  induction doc with
  | nil => decide
  | cons piece doc ih =>
    obtain ⟨inside, ends⟩ := piece.not_calloutMark_isInfix_neutral
    rw [List.flatMap_cons]
    exact not_calloutMark_isInfix_append inside ends ih

/-- A document in the neutral form has no highlights. -/
theorem equals_not_mem_neutral (doc : List DocPiece) : '=' ∉ doc.flatMap DocPiece.neutral := by
  intro found
  obtain ⟨piece, _, member⟩ := List.mem_flatMap.mp found
  revert member
  cases piece with
  | plain text clean => exact clean '=' (by decide)
  | link target =>
    exact not_mem_link (target.clean '=' (by decide)) (target.clean '=' (by decide)) (by decide)
  | aliased target shown differs =>
    exact not_mem_link (shown.clean '=' (by decide)) (target.clean '=' (by decide)) (by decide)
  | embed target =>
    simp [not_mem_linkDestination (target.clean '=' (by decide))]

/-- A document in the syntax of Obsidian has no tags. -/
theorem tag_not_mem_written (doc : List DocPiece) : '<' ∉ doc.flatMap DocPiece.written := by
  intro found
  obtain ⟨piece, _, member⟩ := List.mem_flatMap.mp found
  revert member
  cases piece with
  | plain text clean => exact clean '<' (by decide)
  | link target => simp [target.clean '<' (by decide)]
  | aliased target shown differs =>
    simp [target.clean '<' (by decide), shown.clean '<' (by decide)]
  | embed target => simp [target.clean '<' (by decide)]

/-- **Ingesting a document brings every piece into the neutral form.** -/
theorem apply_ingestRules (doc : List DocPiece) :
    RuleSet.apply ingestRules (doc.flatMap DocPiece.written) = doc.flatMap DocPiece.neutral := by
  have embeds : embedPattern.replaceAll embed (doc.flatMap DocPiece.written) =
      doc.flatMap DocPiece.embedNeutral :=
    Pattern.replaceAll_flatMap rfl replaceAll_embedPattern doc
  have aliases : aliasedLinkPattern.replaceAll aliasedLink (doc.flatMap DocPiece.embedNeutral) =
      doc.flatMap DocPiece.linkWritten :=
    Pattern.replaceAll_flatMap rfl replaceAll_aliasedLinkPattern doc
  have links : wikiLinkPattern.replaceAll wikiLink (doc.flatMap DocPiece.linkWritten) =
      doc.flatMap DocPiece.neutral :=
    Pattern.replaceAll_flatMap rfl replaceAll_wikiLinkPattern doc
  have callouts : calloutPattern.replaceAll callout (doc.flatMap DocPiece.neutral) =
      doc.flatMap DocPiece.neutral := by
    apply Pattern.replaceAll_of_silent
    intro before t inside
    exact calloutPattern_eq_none fun found =>
      not_calloutMark_isInfix doc (found.trans inside.isInfix)
  have highlights (f : Match → Text) :
      highlightPattern.replaceAll f (doc.flatMap DocPiece.neutral) =
        doc.flatMap DocPiece.neutral :=
    highlightPattern_opens.replaceAll_of_absent fun found =>
      equals_not_mem_neutral doc (found.subset (by decide))
  simp only [ingestRules, RuleSet.apply_cons, RuleSet.apply_nil, Rule.apply_compute,
    Rule.apply_template, embeds, aliases, links, callouts, highlights]

/-- **Emitting a document brings every piece into the syntax of Obsidian.** -/
theorem apply_emitRules (doc : List DocPiece) :
    RuleSet.apply emitRules (doc.flatMap DocPiece.neutral) = doc.flatMap DocPiece.written := by
  have embeds : imagePattern.replaceAll embedBack (doc.flatMap DocPiece.neutral) =
      doc.flatMap DocPiece.embedWritten :=
    Pattern.replaceAll_flatMap rfl replaceAll_imagePattern doc
  have links : linkPattern.replaceAll linkBack (doc.flatMap DocPiece.embedWritten) =
      doc.flatMap DocPiece.written :=
    Pattern.replaceAll_flatMap rfl replaceAll_linkPattern doc
  have spoilers : Marker.spoilerSpan.replaceAll Marker.unwrapSpoiler
      (doc.flatMap DocPiece.written) = doc.flatMap DocPiece.written := by
    apply (Marker.enclosed_opens Marker.spoilerOpen Marker.spoilerClose).replaceAll_of_absent
    intro found
    exact tag_not_mem_written doc (found.subset (by decide))
  simp only [emitRules, RuleSet.apply_cons, RuleSet.apply_nil, Rule.apply_compute, embeds, links,
    spoilers]

end Obsidian

/-- **Links to notes survive the way through the neutral form.**  A document of plain text, links,
aliased links and embeds, in any order and number, is what emitting gives after ingesting it. -/
theorem emit_ingest_notes (doc : List Obsidian.DocPiece) :
    RuleSet.apply (Dialect.builtin .obsidian).emit
        (RuleSet.apply (Dialect.builtin .obsidian).ingest
          (doc.flatMap Obsidian.DocPiece.written)) =
      doc.flatMap Obsidian.DocPiece.written := by
  have neutral := Obsidian.apply_ingestRules doc
  exact (congrArg (RuleSet.apply Obsidian.emitRules) neutral).trans (Obsidian.apply_emitRules doc)

/-- A link, an aliased link and an embed whose name has spaces, between plain text. -/
theorem emit_ingest_notes_mixed :
    RuleSet.apply (Dialect.builtin .obsidian).emit
        (RuleSet.apply (Dialect.builtin .obsidian).ingest
          "See [[Home]], [[My Projects|mine]] and ![[Big Diagram]].\n".toList) =
      "See [[Home]], [[My Projects|mine]] and ![[Big Diagram]].\n".toList :=
  emit_ingest_notes
    [.plain "See ".toList (by decide),
      .link ⟨⟨"Home".toList, by decide, by decide, by decide⟩, by decide⟩,
      .plain ", ".toList (by decide),
      .aliased ⟨⟨"My Projects".toList, by decide, by decide, by decide⟩, by decide⟩
        ⟨"mine".toList, by decide, by decide, by decide⟩ (by decide),
      .plain " and ".toList (by decide),
      .embed ⟨⟨"Big Diagram".toList, by decide, by decide, by decide⟩, by decide⟩,
      .plain ".\n".toList (by decide)]

end MarkdownDialects
