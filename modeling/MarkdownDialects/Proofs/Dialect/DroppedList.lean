import MarkdownDialects.Proofs.Dialect.CarriedComment
import MarkdownDialects.Proofs.Dialect.FenceCount.Marker
import MarkdownDialects.Proofs.Text.Part

/-!
# Attribute lists that are dropped

A dialect without attribute lists drops the lines that hold nothing but a comment with one, and with
them empty lines (`Marker.filter_lines_strip`).  The comment of a list begins on a line of its own
(`Marker.filter_lines_wrapped`), but it ends there only if the list is on one line.  So the comments
that are left are those that begin on a line which does not end a comment
(`emit_ingest_drops_attributeLists`).
-/

namespace MarkdownDialects

namespace Marker

open Fence (atLineStart_getLast?_append)

/-! ## Places in lines -/

/-- At the end of a line the rest of the line is empty. -/
theorem eq_nil_of_atLineEnd {t line : Text} {ls : List Text} (ends : Pattern.atLineEnd t)
    (read : Text.lines t = line :: ls) : line = [] := by
  cases t with
  | nil => exact (List.cons.inj read).1.symm
  | cons c t =>
    obtain rfl : c = '\n' := by simpa [Pattern.atLineEnd] using ends
    rw [Text.lines_cons_feed] at read
    exact (List.cons.inj read).1.symm

/-! ## Lines that are dropped -/

/-- A line that stays when the lines with comments are dropped. -/
def isKeptLine (line : Text) : Bool := !line.isEmpty && !isMarkerLine line

/-- At the start of a line a comment that fills it is found. -/
theorem not_isMarkerLine_of_silent {before : Option Char} (starts : Pattern.atLineStart before)
    {c : Char} {t : Text} (noFeed : c ≠ '\n')
    (silent : attributeListMarkerLine before (c :: t) = none) :
    isMarkerLine ((c :: t).takeWhile (· != '\n')) = false := by
  have feeds : (c :: t).takeWhile (· == '\n') = [] := List.takeWhile_cons_of_neg (by simpa)
  have behind : (c :: t).dropWhile (· == '\n') = c :: t := List.dropWhile_cons_of_neg (by simpa)
  rw [Bool.eq_false_iff]
  intro marked
  obtain ⟨_, found⟩ := Option.isSome_iff_exists.mp marked
  obtain ⟨inside, opened, closed⟩ := Option.bind_eq_some_iff.mp found
  have matched : ∃ m, attributeListMarkerLine before (c :: t) = some m := by
    unfold attributeListMarkerLine
    rw [feeds, behind, starts]
    exact ⟨_, Option.bind_eq_some_iff.mpr ⟨(), rfl, Option.bind_eq_some_iff.mpr
      ⟨inside, opened, Option.bind_eq_some_iff.mpr ⟨_, closed, rfl⟩⟩⟩⟩
  obtain ⟨_, matched⟩ := matched
  exact nomatch silent.symm.trans matched

/-- Line feeds in front of a text are empty lines. -/
theorem filter_isKeptLine_feeds {feeds t : Text} (all : ∀ c ∈ feeds, c = '\n') :
    (Text.lines (feeds ++ t)).filter isKeptLine = (Text.lines t).filter isKeptLine := by
  induction feeds with
  | nil => rfl
  | cons c feeds ih =>
    obtain rfl : c = '\n' := all c List.mem_cons_self
    rw [List.cons_append, Text.lines_cons_feed, ← ih fun d member => all d (.tail _ member)]
    rfl

/-- A line that a comment fills is no kept line, and the line feeds in front of it are none. -/
theorem filter_isKeptLine_marker {feeds line t : Text} {ls : List Text}
    (all : ∀ c ∈ feeds, c = '\n') (clean : '\n' ∉ line) (marked : isMarkerLine line = true)
    (read : Text.lines t = [] :: ls) :
    (Text.lines (feeds ++ (line ++ t))).filter isKeptLine = ls.filter isKeptLine := by
  have dropped : isKeptLine line = false := by simp [isKeptLine, marked]
  have written := Text.lines_append_of_not_mem clean read
  rw [List.append_nil] at written
  rw [filter_isKeptLine_feeds all, written, List.filter_cons_of_neg (by simp [dropped])]

/-- A piece with its comment dropped. -/
abbrev stripped : Piece → Text := Piece.output (Replacement.literal []).ofMatch

/-- Line by line, what is dropped are lines with comments, and empty lines.  Inside of a line the
rest of it stays. -/
theorem filter_lines_stripped {before : Option Char} {pieces : List Piece}
    (scanned : Pattern.Scanned attributeListMarkerLine before pieces) :
    (Pattern.atLineStart before = true →
      (Text.lines (pieces.flatMap stripped)).filter (!·.isEmpty) =
        (Text.lines (pieces.flatMap Piece.source)).filter isKeptLine) ∧
    (Pattern.atLineStart before = false →
      ∃ line left ls, Text.lines (pieces.flatMap stripped) = line :: left ∧
        Text.lines (pieces.flatMap Piece.source) = line :: ls ∧
        left.filter (!·.isEmpty) = ls.filter isKeptLine) := by
  -- Whether a line is dropped is known only where it begins, so inside of a line the induction
  -- keeps the rest of that line apart from the lines behind it.
  induction scanned with
  | nil _ => exact ⟨fun _ => rfl, fun _ => ⟨[], [], [], rfl, rfl, rfl⟩⟩
  | @kept before c rest silent tail ih =>
    by_cases feed : c = '\n'
    · subst feed
      have behind := ih.1 rfl
      simp only [List.flatMap_cons, stripped, Piece.output, Piece.source, List.singleton_append,
        Text.lines_cons_feed]
      exact ⟨fun _ => behind, fun _ => ⟨[], _, _, rfl, rfl, behind⟩⟩
    · obtain ⟨line, left, ls, written, read, behind⟩ := ih.2 (by simpa [Pattern.atLineStart])
      have clean : '\n' ∉ [c] := by simpa using Ne.symm feed
      have written' := Text.lines_append_of_not_mem clean written
      have read' := Text.lines_append_of_not_mem clean read
      refine ⟨fun starts => ?_, fun _ => ⟨c :: line, left, ls, written', read', behind⟩⟩
      obtain ⟨others, first⟩ := Text.exists_lines_eq_cons (c :: rest.flatMap Piece.source)
      have unmarked := not_isMarkerLine_of_silent starts feed silent
      obtain ⟨same, _⟩ := List.cons.inj (first.symm.trans read')
      rw [same] at unmarked
      have stays : isKeptLine ([c] ++ line) = true := by rw [isKeptLine, unmarked]; rfl
      simp only [List.flatMap_cons, stripped, Piece.output, Piece.source] at written' read' ⊢
      rw [written', read', List.filter_cons_of_pos rfl, List.filter_cons_of_pos stays, behind]
  | @hit before m rest nonempty found tail ih =>
    obtain ⟨feeds, line, _, whole, all, clean, shown, marked, _, starts, ends, same⟩ :=
      attributeListMarkerLine_eq_some found
    obtain rfl := List.append_cancel_left same
    have inLine : Pattern.atLineStart m.whole.getLast? = false := by
      rw [whole]
      exact atLineStart_getLast?_append shown clean feeds
    obtain ⟨next, left, ls, written, read, behind⟩ := ih.2 inLine
    obtain rfl := eq_nil_of_atLineEnd ends read
    have kept := filter_isKeptLine_marker all clean marked read
    have same : (Piece.hit m :: rest).flatMap Piece.source =
        feeds ++ (line ++ rest.flatMap Piece.source) := by
      rw [List.flatMap_cons, Piece.source, whole, List.append_assoc]
    have gone : (Piece.hit m :: rest).flatMap stripped = rest.flatMap stripped := rfl
    rw [gone, same, written]
    refine ⟨fun _ => behind.trans kept.symm, fun inside => ?_⟩
    cases feeds with
    | nil => exact absurd (starts rfl) (by simp [inside])
    | cons c feeds =>
      obtain rfl : c = '\n' := all c List.mem_cons_self
      rw [List.cons_append, Text.lines_cons_feed] at kept ⊢
      exact ⟨[], left, _, rfl, rfl, behind.trans kept.symm⟩

/-- **Lines are dropped as a whole.**  Up to empty lines, exactly the lines that a comment with an
attribute list fills are dropped. -/
theorem filter_lines_strip (t : Text) :
    (Text.lines (strip t)).filter (!·.isEmpty) = (Text.lines t).filter isKeptLine := by
  obtain ⟨scanned, covers⟩ := Pattern.scanned_scanFrom attributeListMarkerLine_proper none t
  have run := (filter_lines_stripped scanned).1 rfl
  rwa [covers] at run

/-! ## Lines with comments -/

/-- The line on which the comment of a list begins. -/
def commentLine (m : Match) : Text := (wrapAttributeList m).takeWhile (· != '\n')

section Comment

variable (l : AttributeLine)

theorem commentLine_toMatch :
    commentLine l.toMatch =
      l.lead ++ (l.payload ++ '}' :: commentClose).takeWhile (· != '\n') := by
  rw [commentLine, l.wrapAttributeList_toMatch, l.indent_append_comment,
    List.takeWhile_append_of_pos (Text.forall_bne_of_not_mem l.feed_not_mem_lead)]

/-- Of the lines of a comment the first one holds the start of a comment, and no other does. -/
theorem filter_lines_comment (clean : ¬ attributeListOpen <:+: l.payload) :
    (Text.lines (l.indent ++ l.comment)).filter (attributeListOpen <:+: ·) =
      [commentLine l.toMatch] := by
  have behind : ¬ attributeListOpen <:+: l.payload ++ '}' :: commentClose := by
    rw [Text.isInfix_append_cons_iff (by decide), not_or]
    exact ⟨clean, by decide⟩
  obtain ⟨others, rest⟩ := Text.exists_lines_eq_cons (l.payload ++ '}' :: commentClose)
  have read := Text.lines_append_of_not_mem l.feed_not_mem_lead rest
  rw [← l.indent_append_comment, ← commentLine_toMatch] at read
  have later : others.filter (attributeListOpen <:+: ·) = [] := by
    rw [List.filter_eq_nil_iff]
    intro line member found
    have inside : line ∈ Text.lines (l.payload ++ '}' :: commentClose) := by
      rw [rest]
      exact List.mem_cons_of_mem _ member
    exact behind ((of_decide_eq_true found).trans (Text.isInfix_of_mem_lines inside))
  have holds : attributeListOpen <:+: commentLine l.toMatch := by
    rw [commentLine_toMatch]
    exact (List.infix_append l.indent attributeListOpen ['{', ':']).trans
      (List.prefix_append _ _).isInfix
  rw [read, List.filter_cons_of_pos (by simpa using holds), later]

/-- A comment fills the line on which it begins exactly if that line ends a comment. -/
theorem isMarkerLine_commentLine_iff :
    isMarkerLine (commentLine l.toMatch) = true ↔ commentClose <:+ commentLine l.toMatch := by
  have split : commentLine l.toMatch = l.indent ++ (attributeListOpen ++
      ('{' :: ':' :: (l.payload ++ '}' :: commentClose).takeWhile (· != '\n'))) := by
    simp only [commentLine_toMatch, AttributeLine.lead, List.append_assoc, List.cons_append,
      List.nil_append]
  generalize (l.payload ++ '}' :: commentClose).takeWhile (· != '\n') = shown at split
  rw [isMarkerLine, split, (takeWhile_isGap_append l.indent_gap _).2, Text.after?_append,
    Option.bind_some, Option.isSome_iff_exists]
  constructor
  · rintro ⟨front, closed⟩
    have ends : commentClose <:+ '{' :: ':' :: shown := ⟨front, Text.before?_eq_some_iff.mp closed⟩
    exact ends.trans ((List.suffix_append _ _).trans (List.suffix_append _ _))
  · rw [← List.append_assoc, Text.isSuffix_append_iff]
    rintro (⟨front, closed⟩ | ⟨front, _, whole⟩)
    · exact ⟨front, Text.before?_eq_some_iff.mpr closed⟩
    · have brace : '{' ∈ commentClose := by rw [whole]; simp
      exact absurd brace (by decide)

/-- The comment of a list on one line ends on that line. -/
theorem commentClose_isSuffix_commentLine (oneLine : '\n' ∉ l.payload) :
    commentClose <:+ commentLine l.toMatch := by
  have clean : '\n' ∉ l.payload ++ '}' :: commentClose := by
    rw [List.mem_append, not_or]
    exact ⟨oneLine, by decide⟩
  rw [commentLine_toMatch, List.takeWhile_eq_self_iff.mpr (Text.forall_bne_of_not_mem clean)]
  exact (List.suffix_cons _ _).trans ((List.suffix_append _ _).trans (List.suffix_append _ _))

end Comment

/-- Where a line ends, it ends too once lists are wrapped. -/
theorem lines_wrapped_of_atLineEnd {before : Option Char} {pieces : List Piece}
    (scanned : Pattern.Scanned attributeListLine before pieces)
    (inLine : Pattern.atLineStart before = false)
    (ends : Pattern.atLineEnd (pieces.flatMap Piece.source)) :
    ∃ ls, Text.lines (pieces.flatMap wrapped) = [] :: ls := by
  cases scanned with
  | nil _ => exact ⟨[], rfl⟩
  | @kept _ c rest _ _ =>
    obtain rfl : c = '\n' := by simpa [Pattern.atLineEnd, Piece.source] using ends
    exact ⟨_, Text.lines_cons_feed (rest.flatMap wrapped)⟩
  | hit _ matched _ => exact absurd (attributeListLine_eq_some matched).1 (by simp [inLine])

/-- **Comments begin on lines of their own.**  In a text with wrapped lists the lines that hold the
start of a comment are those on which the comment of a list begins. -/
theorem filter_lines_wrapped {before : Option Char} {pieces : List Piece}
    (scanned : Pattern.Scanned attributeListLine before pieces)
    (absent : ¬ attributeListOpen <:+: pieces.flatMap Piece.source) :
    (Text.lines (pieces.flatMap wrapped)).filter (attributeListOpen <:+: ·) =
        (pieces.filterMap Piece.match?).map commentLine ∧
      (Pattern.atLineStart before = false →
        ¬ attributeListOpen <:+: (pieces.flatMap wrapped).takeWhile (· != '\n')) := by
  -- A comment begins where a list was, so the rest of a line holds the start of none.
  induction scanned with
  | nil _ => exact ⟨rfl, fun _ => by decide⟩
  | @kept before c rest silent tail ih =>
    have within : ¬ attributeListOpen <:+: rest.flatMap Piece.source := fun found =>
      absent (found.trans (List.suffix_cons c _).isInfix)
    obtain ⟨others, first⟩ := ih within
    have flat : (Piece.kept c :: rest).flatMap wrapped = c :: rest.flatMap wrapped := rfl
    have missing := not_attributeListOpen_isPrefix (.kept silent tail) absent rfl
    rw [flat, List.filterMap_cons_none rfl]
    by_cases feed : c = '\n'
    · subst feed
      rw [Text.lines_cons_feed, List.filter_cons_of_neg (by decide),
        List.takeWhile_cons_of_neg (by decide)]
      exact ⟨others, fun _ => by decide⟩
    · obtain ⟨ls, read⟩ := Text.exists_lines_eq_cons (rest.flatMap wrapped)
      have clean : '\n' ∉ [c] := by simpa using Ne.symm feed
      have written := Text.lines_append_of_not_mem clean read
      have later := first (by simpa [Pattern.atLineStart])
      have empty : ¬ attributeListOpen <:+:
          c :: (rest.flatMap wrapped).takeWhile (· != '\n') := by
        have begins : c :: (rest.flatMap wrapped).takeWhile (· != '\n') <+:
            c :: rest.flatMap wrapped := List.cons_prefix_cons.mpr ⟨rfl, List.takeWhile_prefix _⟩
        rw [List.infix_cons_iff, not_or]
        exact ⟨fun found => missing (found.trans begins), later⟩
      rw [List.singleton_append, List.singleton_append] at written
      rw [read, List.filter_cons_of_neg (by simpa using later)] at others
      rw [written, List.filter_cons_of_neg (by simpa using empty),
        List.takeWhile_cons_of_pos (by simpa using feed)]
      exact ⟨others, fun _ => empty⟩
  | @hit before m rest nonempty matched tail ih =>
    have within : ¬ attributeListOpen <:+: rest.flatMap Piece.source := fun found =>
      absent (found.trans (List.suffix_append _ _).isInfix)
    obtain ⟨others, _⟩ := ih within
    obtain ⟨starts, l, rfl, _, same, ends⟩ := attributeListLine_eq_some matched
    obtain rfl := List.append_cancel_left same
    refine ⟨?_, fun inside => absurd starts (by simp [inside])⟩
    have noFeed : '\n' ∉ '}' :: l.gap := by
      have gaps : '\n' ∉ l.gap := l.not_mem_gap (by decide)
      simp [gaps]
    have inLine : Pattern.atLineStart l.toMatch.whole.getLast? = false := by
      have whole : l.toMatch.whole = l.indent ++ ['{', ':'] ++ l.payload ++ '}' :: l.gap := by
        simp [AttributeLine.toMatch, AttributeLine.list]
      rw [whole]
      exact atLineStart_getLast?_append (List.cons_ne_nil _ _) noFeed _
    obtain ⟨ls, read⟩ := lines_wrapped_of_atLineEnd tail inLine ends
    rw [read, List.filter_cons_of_neg (by decide)] at others
    rw [flatMap_wrapped_hit, Text.lines_append_of_lines_eq_cons _ read, List.filter_append,
      filter_lines_comment l (not_isInfix_payload absent), others]
    rfl

/-! ## What is left -/

theorem exists_eq_toMatch {t : Text} {m : Match} (among : m ∈ attributeListLine.findAll t) :
    ∃ l : AttributeLine, m = l.toMatch := by
  obtain ⟨scanned, _⟩ := Pattern.scanned_scanFrom attributeListLine_proper none t
  obtain ⟨_, _, matched⟩ := scanned.exists_match (Pattern.mem_findAll.mp among)
  obtain ⟨_, l, whole, _⟩ := attributeListLine_eq_some matched
  exact ⟨l, whole⟩

theorem isEmpty_eq_false_of_isInfix {mark line : Text} (shown : mark ≠ [])
    (found : mark <:+: line) : line.isEmpty = false := by
  rw [List.isEmpty_eq_false_iff]
  rintro rfl
  exact shown (List.infix_nil.mp found)

/-- A mark on one line is left only where it stood before. -/
theorem isInfix_of_isInfix_strip {mark t : Text} (shown : mark ≠ []) (oneLine : '\n' ∉ mark)
    (found : mark <:+: strip t) : mark <:+: t := by
  obtain ⟨line, member, held⟩ := Text.exists_line_of_isInfix found oneLine
  have left : line ∈ (Text.lines (strip t)).filter (!·.isEmpty) :=
    List.mem_filter.mpr ⟨member, by simp [isEmpty_eq_false_of_isInfix shown held]⟩
  rw [filter_lines_strip] at left
  exact held.trans (Text.isInfix_of_mem_lines (List.mem_filter.mp left).1)

section Left

variable {t : Text} (absent : ¬ attributeListOpen <:+: t)
include absent

/-- Of the comments around lists those are left that begin on a line that does not end a comment. -/
theorem filter_lines_strip_wrapped :
    (Text.lines (strip (attributeListLine.replaceAll wrapAttributeList t))).filter
        (attributeListOpen <:+: ·) =
      ((attributeListLine.findAll t).map commentLine).filter (¬ commentClose <:+ ·) := by
  obtain ⟨scanned, covers⟩ := Pattern.scanned_scanFrom attributeListLine_proper none t
  have begins : (Text.lines (attributeListLine.replaceAll wrapAttributeList t)).filter
      (attributeListOpen <:+: ·) = (attributeListLine.findAll t).map commentLine := by
    rw [Pattern.findAll_eq_filterMap, Pattern.replaceAll_eq_flatMap]
    exact (filter_lines_wrapped scanned fun found => absent (covers ▸ found)).1
  have shown (ls : List Text) : ls.filter (attributeListOpen <:+: ·) =
      (ls.filter (!·.isEmpty)).filter (attributeListOpen <:+: ·) := by
    rw [List.filter_filter]
    refine List.filter_congr fun line _ => ?_
    by_cases found : attributeListOpen <:+: line
    · simp [found, isEmpty_eq_false_of_isInfix (List.cons_ne_nil _ _) found]
    · simp [found]
  rw [shown, filter_lines_strip, List.filter_filter, ← begins, List.filter_filter]
  refine List.filter_congr fun line member => ?_
  by_cases found : attributeListOpen <:+: line
  · have among : line ∈ (attributeListLine.findAll t).map commentLine := by
      rw [← begins]
      exact List.mem_filter.mpr ⟨member, by simpa using found⟩
    obtain ⟨m, listed, rfl⟩ := List.mem_map.mp among
    obtain ⟨l, rfl⟩ := exists_eq_toMatch listed
    simp [isKeptLine, found, isEmpty_eq_false_of_isInfix (List.cons_ne_nil _ _) found,
      ← isMarkerLine_commentLine_iff]
  · simp [found]

end Left

/-- No comment around a list begins metadata. -/
theorem not_metadataStart_isInfix_wrapped {t : Text} (plain : ¬ metadataStart <:+: t) :
    ¬ metadataStart <:+: attributeListLine.replaceAll wrapAttributeList t := by
  obtain ⟨scanned, covers⟩ := Pattern.scanned_scanFrom attributeListLine_proper none t
  intro found
  obtain ⟨s, begins, ends⟩ := List.infix_iff_prefix_suffix.mp found
  obtain ⟨l, rest, _, rfl⟩ := exists_comment_of_isPrefix (u := "!--mmd-meta-start".toList)
    (by decide) (by decide) scanned (fun found => plain (covers ▸ found)) ends begins
  have other : attributeListOpen <+: l.comment ++ rest.flatMap wrapped := by
    rw [AttributeLine.comment, List.append_assoc, List.append_assoc]
    exact List.prefix_append _ _
  exact absurd (List.prefix_of_prefix_length_le begins other (by decide)) (by decide)

/-- Dropping metadata brings no comment around a list into a text. -/
theorem attributeListOpen_isInfix_of_drop {t : Text} (found : attributeListOpen <:+:
    metadataMarkerBlock.replaceAll (Replacement.literal []).ofMatch t) :
    attributeListOpen <:+: t := by
  have run := Pattern.replaceAll_induction (f := (Replacement.literal []).ofMatch)
    metadataMarkerBlock_proper (t := t) (R := Pattern.BringsNo attributeListOpen)
    (.nil _) (fun _ _ c related => related.concat c)
    fun read written m rest _ matched _ related => by
      have placed := (metadataMarkerBlock_eq_some matched).1
      have dropped : (Replacement.literal []).ofMatch m = [] := rfl
      rw [dropped, List.append_nil]
      refine related.dropped fun c last => ?_
      rw [Option.mem_def.mp last] at placed
      obtain rfl : c = '\n' := by simpa [Pattern.atLineStart] using placed
      decide
  exact run.inside found

theorem metadataMarkerBlock_opens : Pattern.Opens metadataMarkerBlock metadataStart := by
  intro before t missing
  rw [Option.eq_none_iff_forall_ne_some]
  intro m found
  obtain ⟨_, payload, feeds, rest, whole, _, _, rfl⟩ := metadataMarkerBlock_eq_some found
  have opening : metadataOpen = metadataStart ++ ['\n'] := rfl
  refine missing ?_
  rw [whole, opening]
  simp only [List.append_assoc]
  exact List.prefix_append _ _

end Marker

/-- **Wrapped lists that are dropped.**  Of the comments around the lists of a text, a dialect
without attribute lists keeps none that ends a comment on the line on which it begins, as those of
lists on one line do.  It keeps all others, except where carried metadata is dropped around them. -/
theorem emit_ingest_drops_attributeLists {t : Text} (absent : ¬ Marker.attributeListOpen <:+: t) :
    (∀ m ∈ Marker.attributeListLine.findAll t, '\n' ∉ m.group 2 →
        Marker.commentClose <:+ Marker.commentLine m) ∧
      ((∀ m ∈ Marker.attributeListLine.findAll t,
          Marker.commentClose <:+ Marker.commentLine m) →
        ¬ Marker.attributeListOpen <:+: RuleSet.apply (Dialect.builtin .commonMark).emit
          (RuleSet.apply (Dialect.builtin .kramdown).ingest t)) ∧
      (¬ Marker.metadataStart <:+: t →
        (Text.lines (RuleSet.apply (Dialect.builtin .commonMark).emit
            (RuleSet.apply (Dialect.builtin .kramdown).ingest t))).filter
              (Marker.attributeListOpen <:+: ·) =
          ((Marker.attributeListLine.findAll t).map Marker.commentLine).filter
            (¬ Marker.commentClose <:+ ·)) := by
  have emitted : RuleSet.apply (Dialect.builtin .commonMark).emit
      (RuleSet.apply (Dialect.builtin .kramdown).ingest t) =
        Marker.metadataMarkerBlock.replaceAll (Replacement.literal []).ofMatch
          (Marker.strip (Marker.attributeListLine.replaceAll Marker.wrapAttributeList t)) := rfl
  have left := Marker.filter_lines_strip_wrapped absent
  rw [emitted]
  refine ⟨fun m among oneLine => ?_, fun fits found => ?_, fun plain => ?_⟩
  · obtain ⟨l, rfl⟩ := Marker.exists_eq_toMatch among
    refine Marker.commentClose_isSuffix_commentLine l fun feed => oneLine ?_
    exact List.mem_append_left _ (List.mem_append_right _ feed)
  · obtain ⟨line, member, held⟩ := Text.exists_line_of_isInfix
      (Marker.attributeListOpen_isInfix_of_drop found) (by decide)
    have remains : line ∈ _ := left ▸ List.mem_filter.mpr ⟨member, by simpa using held⟩
    obtain ⟨among, unfit⟩ := List.mem_filter.mp remains
    obtain ⟨m, listed, rfl⟩ := List.mem_map.mp among
    exact of_decide_eq_true unfit (fits m listed)
  · rw [Marker.metadataMarkerBlock_opens.replaceAll_of_absent fun found =>
      Marker.not_metadataStart_isInfix_wrapped plain
        (Marker.isInfix_of_isInfix_strip (by decide) (by decide) found), left]

/-- Lists in a row, one indented and one with a comment in it, and one inside a line. -/
theorem emit_ingest_drops_attributeLists_in_a_row :
    ¬ Marker.attributeListOpen <:+:
        "- a\n  \x7b: .x\x7d \n\x7b: <!-- --> y\x7d\n\nb \x7b: .c\x7d\n\x7b: .d\x7d".toList ∧
      ¬ Marker.metadataStart <:+:
        "- a\n  \x7b: .x\x7d \n\x7b: <!-- --> y\x7d\n\nb \x7b: .c\x7d\n\x7b: .d\x7d".toList ∧
      ¬ Marker.attributeListOpen <:+: RuleSet.apply (Dialect.builtin .commonMark).emit
        (RuleSet.apply (Dialect.builtin .kramdown).ingest
          "- a\n  \x7b: .x\x7d \n\x7b: <!-- --> y\x7d\n\nb \x7b: .c\x7d\n\x7b: .d\x7d".toList) ∧
      (Text.lines (RuleSet.apply (Dialect.builtin .commonMark).emit
        (RuleSet.apply (Dialect.builtin .kramdown).ingest
          "- a\n  \x7b: .x\x7d \n\x7b: <!-- --> y\x7d\n\nb \x7b: .c\x7d\n\x7b: .d\x7d".toList)
        )).filter (Marker.attributeListOpen <:+: ·) = [] := by
  have absent : ¬ Marker.attributeListOpen <:+:
      "- a\n  \x7b: .x\x7d \n\x7b: <!-- --> y\x7d\n\nb \x7b: .c\x7d\n\x7b: .d\x7d".toList := by
    decide
  have plain : ¬ Marker.metadataStart <:+:
      "- a\n  \x7b: .x\x7d \n\x7b: <!-- --> y\x7d\n\nb \x7b: .c\x7d\n\x7b: .d\x7d".toList := by
    decide
  obtain ⟨ends, gone, left⟩ := emit_ingest_drops_attributeLists absent
  exact ⟨absent, plain, gone fun m among => ends m among (by revert m; decide),
    (left plain).trans (by decide)⟩

/-- **A list over several lines is not dropped.**  Its comment does not end where it begins. -/
theorem emit_ingest_keeps_attributeList :
    ¬ Marker.attributeListOpen <:+: "Para\n\x7b:\n.x\x7d\n\nNext".toList ∧
      RuleSet.apply (Dialect.builtin .commonMark).emit
          (RuleSet.apply (Dialect.builtin .kramdown).ingest
            "Para\n\x7b:\n.x\x7d\n\nNext".toList) =
        "Para\n".toList ++ Marker.attributeListOpen ++ "\x7b:\n.x\x7d-->\n\nNext".toList := by
  decide

end MarkdownDialects
