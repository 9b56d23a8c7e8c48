import MarkdownDialects.Proofs.Markdown.Prose

/-!
# Reading prose line by line

While prose is read, the open blocks are the document and at most one paragraph.  A line of prose
joins that paragraph or opens it, and an empty line closes it (`Markdown.Outline.Reads`).  So prose
is read as its paragraphs (`Markdown.Document.ofText_of_isProse`).
-/

namespace MarkdownDialects

namespace Markdown

/-- The block that a paragraph of prose is read as. -/
def proseBlock (ls : List Text) : Block Text := .paragraph (Text.terminated ls)

/-- An open block after which no blank line is noted. -/
def OpenBlock.settled (b : OpenBlock) : OpenBlock := { b with blankAfter := false }

namespace Outline

namespace LineState

/-- A line of prose starts no block, whatever is open, unless that is a table. -/
theorem startBlocks_eq_self {line : Text} {s : LineState} (atStart : s.cursor = .ofLine line)
    (prose : IsProseLine line) (noTable : s.tableRow? = none) (lineNumber fuel depth : Nat)
    (afterParagraph : Bool) : s.startBlocks lineNumber fuel depth afterParagraph = s := by
  cases fuel with
  | zero => rfl
  | succ fuel =>
    rw [startBlocks, startBlock?_eq_none atStart prose noTable, noteTableTried, atStart,
      Cursor.shown_ofLine (unindented_of_isLed prose.led), isDelimiterRow_eq_false prose.led]
    simp

end LineState

theorem content_of_lines {b : OpenBlock} {ls : List Text} (lines : b.lines = ls.reverse) :
    b.content = Text.terminated ls := by
  rw [OpenBlock.content, lines, List.reverse_reverse, Text.terminated]

/-- A text that starts with no bracket starts with no link definition. -/
theorem read?_of_ne_bracket {c : Char} (noBracket : c ≠ '[') (t : Text) :
    Definition.read? (c :: t) = none := by
  have unlabelled : label? (c :: t) = none := by
    unfold label?
    split
    · rename_i same
      exact absurd (List.cons.inj same).1 noBracket
    · rfl
  rw [Definition.read?, unlabelled]
  rfl

theorem readAll_of_ne_bracket {c : Char} (noBracket : c ≠ '[') (fuel : Nat) (t : Text) :
    Definition.readAll fuel (c :: t) = ([], c :: t) := by
  rw [Definition.readAll.eq_def, read?_of_ne_bracket noBracket]
  cases fuel <;> rfl

/-- A paragraph of prose gives away no definition when it is closed. -/
theorem close_of_prose {b : OpenBlock} {ls : List Text} {tried : Bool}
    (kind : b.kind = .paragraph tried) (lines : b.lines = ls.reverse) (nonempty : ls ≠ [])
    (prose : ∀ line ∈ ls, IsProseLine line) :
    b.close = (some (.leaf (proseBlock ls) b.blankAfter), []) := by
  obtain ⟨line, others, rfl⟩ := List.exists_cons_of_ne_nil nonempty
  have first := prose line List.mem_cons_self
  obtain ⟨c, rest, rfl, shown, _⟩ := first.led.exists_cons
  have noBracket : c ≠ '[' := by
    rintro rfl
    exact Bool.noConfusion (first.inert '[' List.mem_cons_self)
  have solid : Ascii.isBlank c = false := Text.eq_false_of_shown isBlank_of_ascii shown
  have noFeed : c ≠ '\n' := by rintro rfl; exact Bool.noConfusion shown
  have content := content_of_lines lines
  simp only [OpenBlock.close, kind, proseBlock, ← content]
  rw [Text.terminated_cons, List.cons_append] at content
  rw [content, readAll_of_ne_bracket noBracket]
  simp [OpenBlock.isBlankStart, noFeed, solid]

namespace LineState

theorem tableRow?_eq_none {s : LineState} {top : OpenBlock} {rest : List OpenBlock}
    (innermost : s.spine = top :: rest)
    (noTable : top.kind = .document ∨ top.kind = .paragraph false) : s.tableRow? = none := by
  rcases noTable with kind | kind <;> simp only [tableRow?, innermost, kind]

/-- A shown line directly in the document opens a paragraph. -/
theorem addText_document {root : OpenBlock} (document : root.kind = .document)
    {definitions : List Definition} {cursor : Cursor} (shown : cursor.isBlank = false)
    {opened done : Bool} :
    (⟨[root], [], definitions, cursor, opened, done⟩ : LineState).addText =
      ⟨[(OpenBlock.ofKind (.paragraph false)).addLine cursor.skipBlanks.text, root], [],
        definitions, cursor.skipBlanks, true, done⟩ := by
  simp [addText, closeUnmatched, closeMany, container, document, openBlock, judgeList,
    closeUntilAdmits, modifyTop, shown]

/-- A shown line joins the paragraph it continues. -/
theorem addText_paragraph {top : OpenBlock} {rest : List OpenBlock} {tried : Bool}
    (paragraph : top.kind = .paragraph tried)
    {definitions : List Definition} {cursor : Cursor} (shown : cursor.isBlank = false)
    {opened done : Bool} :
    (⟨top :: rest, [], definitions, cursor, opened, done⟩ : LineState).addText =
      ⟨top.addLine cursor.skipBlanks.text :: rest, [], definitions, cursor, opened, done⟩ := by
  simp [addText, closeUnmatched, closeMany, container, paragraph, modifyTop, shown]

/-- A shown line is the text of the heading it opened, save for a closing run of `#`. -/
theorem addText_heading {top : OpenBlock} {rest : List OpenBlock} {level : Nat}
    (heading : top.kind = .heading level)
    {definitions : List Definition} {cursor : Cursor} (shown : cursor.isBlank = false)
    {opened done : Bool} :
    (⟨top :: rest, [], definitions, cursor, opened, done⟩ : LineState).addText =
      ⟨top.addLine (chopHeading cursor.shown) :: rest, [], definitions, cursor, opened, done⟩ := by
  simp [addText, closeUnmatched, closeMany, container, heading, modifyTop, shown]

/-- A line that starts no block directly in a document. -/
structure IsBare (line : Text) : Prop where
  unindented : ∀ c ∈ line.head?, Ascii.isBlank c = false
  noQuote : line.head? ≠ some '>'
  noHeading : Fence.runLength '#' line = 0 ∨ 6 < Fence.runLength '#' line ∨
    ∃ c ∈ (line.drop (Fence.runLength '#' line)).head?, Ascii.isBlank c = false
  noFence : line.head? ≠ some '`' ∧ line.head? ≠ some '~'
  noHtml : HtmlBlockKind.ofLine? true line = none
  noBreak : isThematicBreak line = false
  noItem : listMarker? false line = none

theorem isBare_nil : IsBare [] where
  unindented := fun _ member => nomatch member
  noQuote := nofun
  noHeading := .inl rfl
  noFence := ⟨nofun, nofun⟩
  noHtml := rfl
  noBreak := rfl
  noItem := rfl

/-- A character that no start of a block begins with. -/
theorem isBare_cons {c : Char} (other : c ∉ " \t>#`~<*-_+".toList) (noDigit : c.isDigit = false)
    (rest : Text) : IsBare (c :: rest) := by
  simp at other
  obtain ⟨noSpace, noTab, noQuote, noHash, noTick, noTilde, noBracket, noStar, noDash, noLow,
    noPlus⟩ := other
  exact
    { unindented := by
        rintro d ⟨⟩
        simp [Ascii.isBlank, noSpace, noTab]
      noQuote := by simp [noQuote]
      noHeading := .inl (by simp [Fence.runLength, noHash])
      noFence := by simp [noTick, noTilde]
      noHtml := HtmlBlockKind.ofLine?_eq_none noBracket true rest
      noBreak := by simp [isThematicBreak, noStar, noDash, noLow]
      noItem := by simp [listMarker?, noStar, noDash, noPlus, noDigit] }

section Directly

variable {root : OpenBlock} (document : root.kind = .document) {s : LineState}
  (innermost : s.spine = [root]) {line : Text} (bare : IsBare line)
  (atStart : s.cursor = .ofLine line)
include document innermost bare atStart

theorem startBlock?_of_document (lineNumber depth : Nat) (afterParagraph : Bool) :
    s.startBlock? afterParagraph depth lineNumber = none := by
  have shown : s.cursor.shown = line := by rw [atStart, Cursor.shown_ofLine bare.unindented]
  have indent : s.cursor.indent = 0 := by rw [atStart, Cursor.indent_ofLine bare.unindented]
  have outside : s.container = .document := by simp [container, innermost, document]
  have noQuote : s.blockquote? = none := by simp [blockquote?, shown, bare.noQuote]
  have noHeading : s.atxHeading? = none := by
    simp only [atxHeading?, shown, ite_eq_right_iff, Bool.and_eq_true, Bool.or_eq_true,
      decide_eq_true_eq]
    rintro ⟨⟨⟨_, some⟩, short⟩, ends⟩
    rcases bare.noHeading with none | long | ⟨c, next, solid⟩
    · omega
    · omega
    · rw [Option.mem_def] at next
      rcases ends with nothing | blank
      · rw [List.isEmpty_iff.mp nothing, List.head?_nil] at next
        exact absurd next.symm (Option.some_ne_none c)
      · rw [next, Option.any_some, solid] at blank
        exact absurd blank Bool.false_ne_true
  have noFence : s.codeFence? = none := by
    have other := bare.noFence
    unfold codeFence?
    simp only [shown]
    cases line with
    | nil => rfl
    | cons mark rest =>
      simp only [List.head?_cons, ne_eq, Option.some.injEq] at other
      simp [other]
  have noHtml : s.htmlBlock? = none := by
    simp [htmlBlock?, shown, outside, OpenKind.isParagraph, bare.noHtml]
  have noUnderline : s.setextHeading? = none := by
    cases level : underlineLevel? s.cursor.shown <;>
      simp [setextHeading?, innermost, document, level, OpenKind.isParagraph]
  have noBreak : s.thematicBreak? = none := by simp [thematicBreak?, shown, bare.noBreak]
  have noItem : s.listItem? depth lineNumber = none := by
    simp [listItem?, shown, outside, OpenKind.isParagraph, bare.noItem]
  have noCode : s.indentedCode? afterParagraph = none := by simp [indentedCode?, indent]
  have noTable : s.tableHeader? = none := by simp [tableHeader?, innermost, document]
  have noRow : s.tableRow? = none := tableRow?_eq_none innermost (.inl document)
  simp only [startBlock?, noQuote, noHeading, noFence, noHtml, noUnderline, noBreak, noItem, noCode,
    noTable, noRow, Option.orElse_eq_orElse, Option.orElse_none, ite_self]

theorem startBlocks_of_document (lineNumber fuel depth : Nat) (afterParagraph : Bool) :
    s.startBlocks lineNumber fuel depth afterParagraph = s := by
  cases fuel with
  | zero => rfl
  | succ fuel =>
    have outside : s.container = .document := by simp [container, innermost, document]
    rw [startBlocks, startBlock?_of_document document innermost bare atStart, noteTableTried,
      outside]
    simp [OpenKind.mayBeTable]

end Directly

/-- A shown line settles the blocks it continues and is text for the innermost of them. -/
theorem finish_of_shown {top : OpenBlock} {rest : List OpenBlock} {definitions : List Definition}
    {cursor : Cursor} (shown : cursor.isBlank = false) {opened : Bool} (lineNumber : Nat) :
    (⟨top :: rest, [], definitions, cursor, opened, false⟩ : LineState).finish lineNumber =
      (⟨top.settled :: rest.map OpenBlock.settled, [], definitions, cursor, opened, false⟩ :
        LineState).addText := by
  simp only [finish, noteBlank, shown, Bool.false_and, Bool.false_eq_true, if_false,
    List.reverse_nil]
  rfl

/-- An empty line between paragraphs changes no block of the document. -/
theorem finish_nil {root : OpenBlock} (document : root.kind = .document) (lineNumber : Nat) :
    ∃ after : OpenBlock, after.kind = .document ∧
      after.children.map ClosedBlock.block = root.children.map ClosedBlock.block ∧
      (⟨[root], [], [], .ofLine [], false, false⟩ : LineState).finish lineNumber =
        ⟨[after], [], [], .ofLine [], false, false⟩ := by
  have blank : (Cursor.ofLine []).isBlank = true := rfl
  cases children : root.children with
  | nil =>
    refine ⟨{ root with blankAfter := true }, document, by simp [children], ?_⟩
    simp [finish, noteBlank, markLastChild, countsBlank, addText, closeUnmatched, closeMany,
      container, modifyTop, document, children, blank]
  | cons last earlier =>
    refine ⟨{ root with
      blankAfter := true, children := { last with blankAfter := true } :: earlier },
      document, rfl, ?_⟩
    simp [finish, noteBlank, markLastChild, countsBlank, addText, closeUnmatched, closeMany,
      container, modifyTop, document, children, blank]

/-- An empty line after a paragraph of prose closes it. -/
theorem finish_nil_paragraph {root paragraph : OpenBlock} (document : root.kind = .document)
    {ls : List Text} {tried : Bool} (kind : paragraph.kind = .paragraph tried)
    (lines : paragraph.lines = ls.reverse) (nonempty : ls ≠ [])
    (prose : ∀ line ∈ ls, IsProseLine line) (lineNumber : Nat) :
    (⟨[root], [paragraph], [], .ofLine [], false, false⟩ : LineState).finish lineNumber =
      ⟨[{ root with
          blankAfter := true, children := .leaf (proseBlock ls) true :: root.children }],
        [], [], .ofLine [], false, false⟩ := by
  have blank : (Cursor.ofLine []).isBlank = true := rfl
  have closed : OpenBlock.close { paragraph with blankAfter := true } =
      (some (.leaf (proseBlock ls) true), []) := close_of_prose kind lines nonempty prose
  simp [finish, noteBlank, markLastChild, countsBlank, addText, closeUnmatched, closeMany, closeTop,
    attach, closed, container, document, blank]

end LineState

/-- What an outline holds while prose is read: the paragraphs that are closed, and the lines of the
one that is open, if one is. -/
inductive Reads : Outline → List (List Text) → List Text → Prop
  | between {root : OpenBlock} {number : Nat} {closed : List (List Text)}
      (document : root.kind = .document)
      (children : root.children.reverse.map ClosedBlock.block = closed.map proseBlock) :
      Reads ⟨[root], [], number⟩ closed []
  | inside {root paragraph : OpenBlock} {number : Nat} {closed : List (List Text)}
      {current : List Text} (document : root.kind = .document)
      (children : root.children.reverse.map ClosedBlock.block = closed.map proseBlock)
      (kind : paragraph.kind = .paragraph false) (lines : paragraph.lines = current.reverse)
      (nonempty : current ≠ []) (prose : ∀ line ∈ current, IsProseLine line) :
      Reads ⟨[paragraph, root], [], number⟩ closed current

theorem paragraphs_of_prose {ls : List Text} (nonempty : ls ≠ [])
    (prose : ∀ line ∈ ls, IsProseLine line) : paragraphs ls = [ls] := by
  rw [paragraphs_of_shown, if_neg (by simpa using nonempty)]
  intro empty
  obtain ⟨c, rest, whole, _⟩ := (prose [] empty).led.exists_cons
  exact nomatch whole

theorem Reads.start : Reads start [] [] := .between rfl rfl

/-- A line of prose joins the open paragraph or opens one. -/
theorem Reads.readLine_prose {o : Outline} {closed : List (List Text)} {current : List Text}
    (reads : Reads o closed current) {line : Text} (prose : IsProseLine line) :
    Reads (o.readLine line) closed (current ++ [line]) := by
  have unmarked : Text.after? ['\ufeff'] line = none := by
    rw [Text.after?_eq_none_iff]
    intro mark
    exact Bool.noConfusion (prose.inert '\ufeff' (mark.subset List.mem_cons_self))
  have nonempty : line ≠ [] := by
    obtain ⟨c, rest, rfl, _⟩ := prose.led.exists_cons
    exact List.cons_ne_nil c rest
  have shown := Cursor.isBlank_ofLine (unindented_of_isLed prose.led) nonempty
  have text := Cursor.skipBlanks_ofLine (unindented_of_isLed prose.led)
  cases reads with
  | @between root number _ document children =>
    have noRow : (⟨[root], [], [], .ofLine line, false, false⟩ : LineState).tableRow? = none :=
      LineState.tableRow?_eq_none rfl (.inl document)
    have kept : root.settled.kind = .document := document
    simp only [readLine, unmarked, Option.getD_none, ite_self, List.reverse_singleton, matchLine,
      document, OpenBlock.continuation]
    rw [LineState.startBlocks_eq_self rfl prose noRow, LineState.finish_of_shown shown,
      List.map_nil, LineState.addText_document kept shown, text]
    exact .inside kept children rfl rfl (List.cons_ne_nil _ _) (by simpa using prose)
  | @inside root paragraph number _ _ document children kind lines nonempty all =>
    have noRow : (⟨[paragraph, root], [], [], .ofLine line, false, false⟩ :
        LineState).tableRow? = none := LineState.tableRow?_eq_none rfl (.inr kind)
    have kept : paragraph.settled.kind = .paragraph false := kind
    simp only [readLine, unmarked, Option.getD_none, ite_self, List.reverse_cons, List.reverse_nil,
      List.nil_append, List.singleton_append, matchLine, document, kind, OpenBlock.continuation,
      shown, Bool.false_eq_true, if_false]
    rw [LineState.startBlocks_eq_self rfl prose noRow, LineState.finish_of_shown shown,
      LineState.addText_paragraph kept shown, text]
    refine .inside document children kind ?_ (by simp) ?_
    · rw [List.reverse_concat, ← lines]
      rfl
    · simpa [or_imp, forall_and] using ⟨all, prose⟩

/-- An empty line closes the open paragraph. -/
theorem Reads.readLine_nil {o : Outline} {closed : List (List Text)} {current : List Text}
    (reads : Reads o closed current) :
    Reads (o.readLine []) (closed ++ paragraphs current) [] := by
  have blank : (Cursor.ofLine []).isBlank = true := rfl
  have unmarked : (Text.after? ['\ufeff'] ([] : Text)).getD [] = [] := rfl
  cases reads with
  | @between root number _ document children =>
    simp only [readLine, unmarked, ite_self, List.reverse_singleton, matchLine,
      document, OpenBlock.continuation]
    rw [LineState.startBlocks_of_document document rfl LineState.isBare_nil rfl]
    obtain ⟨after, document, same, finished⟩ := LineState.finish_nil document (number + 1)
    rw [finished, paragraphs_nil, List.append_nil]
    refine .between document ?_
    rw [List.map_reverse, same, ← List.map_reverse, children]
  | @inside root paragraph number _ _ document children kind lines nonempty all =>
    have alone := paragraphs_of_prose nonempty all
    simp only [readLine, unmarked, ite_self, List.reverse_cons, List.reverse_nil,
      List.nil_append, List.singleton_append, matchLine, document, kind, OpenBlock.continuation,
      blank, if_true]
    rw [LineState.startBlocks_of_document document rfl LineState.isBare_nil rfl,
      LineState.finish_nil_paragraph document kind lines nonempty all, alone]
    refine .between document ?_
    simp [children, ClosedBlock.leaf]

/-- The paragraphs of the lines that are read: those closed already, and those of the open one and
of the lines to come. -/
theorem Reads.foldl_readLine {o : Outline} {closed : List (List Text)} {current : List Text}
    (reads : Reads o closed current) {ls : List Text}
    (prose : ∀ line ∈ ls, line = [] ∨ IsProseLine line) :
    ∃ closed' current', Reads (ls.foldl readLine o) closed' current' ∧
      closed' ++ paragraphs current' = closed ++ paragraphs (current ++ ls) := by
  -- What a line adds to the closed paragraphs is no longer to come: the sum on the right is kept.
  induction ls generalizing o closed current with
  | nil => exact ⟨closed, current, reads, by rw [List.append_nil]⟩
  | cons line ls ih =>
    have others : ∀ other ∈ ls, other = [] ∨ IsProseLine other := fun other member =>
      prose other (List.mem_cons_of_mem line member)
    rcases prose line List.mem_cons_self with rfl | prose
    · obtain ⟨closed', current', reads', same⟩ := ih reads.readLine_nil others
      refine ⟨closed', current', reads', ?_⟩
      rw [same, List.nil_append, paragraphs_append_empty, List.append_assoc]
    · obtain ⟨closed', current', reads', same⟩ := ih (reads.readLine_prose prose) others
      refine ⟨closed', current', reads', ?_⟩
      rw [same, List.append_assoc, List.singleton_append]

/-- At the end of the text the open paragraph is closed. -/
theorem Reads.document {o : Outline} {closed : List (List Text)} {current : List Text}
    (reads : Reads o closed current) :
    (closeMany (o.spine.length - 1) o.spine o.definitions).2 = [] ∧
      ((closeMany (o.spine.length - 1) o.spine o.definitions).1.head?.map fun root =>
        root.children.reverse.map ClosedBlock.block) =
        some ((closed ++ paragraphs current).map proseBlock) := by
  cases reads with
  | between document children => exact ⟨rfl, by simpa [closeMany] using children⟩
  | @inside root paragraph _ _ _ document children kind lines nonempty all =>
    have alone := paragraphs_of_prose nonempty all
    have close := close_of_prose kind lines nonempty all
    refine ⟨by simp [closeMany, closeTop, close], ?_⟩
    rw [List.map_append, ← children, alone]
    simp [closeMany, closeTop, close, attach, ClosedBlock.leaf]

end Outline

/-- Without carriage returns and zero characters, the lines of a document are the lines of its text,
save for an empty one at the end. -/
theorem lines_eq_splitLines_go {t : Text} (clean : t.all fun c => c != '\r' && c != '\x00')
    {line : Text} (open_ : '\n' ∉ line) :
    ∃ tail, (tail = [] ∨ tail = [[]]) ∧
      Text.lines (line.reverse ++ t) = splitLines.go line t ++ tail := by
  induction t generalizing line with
  | nil =>
    have alone : Text.lines line.reverse = [line.reverse] :=
      List.splitOn_eq_singleton (by simpa using open_)
    rw [List.append_nil, alone, splitLines.go]
    cases line with
    | nil => exact ⟨[[]], .inr rfl, rfl⟩
    | cons c line => exact ⟨[], .inl rfl, rfl⟩
  | cons c t ih =>
    rw [List.all_cons, Bool.and_eq_true, Bool.and_eq_true, bne_iff_ne, bne_iff_ne] at clean
    obtain ⟨⟨noReturn, noZero⟩, clean⟩ := clean
    by_cases feed : c = '\n'
    · subst feed
      obtain ⟨tail, short, same⟩ := ih clean List.not_mem_nil
      refine ⟨tail, short, ?_⟩
      have split : Text.lines (line.reverse ++ '\n' :: t) = line.reverse :: Text.lines t :=
        List.splitOn_append_cons_self_of_not_mem (by simpa using open_) t
      rw [split, splitLines.go]
      · simpa using same
      · simp
    · have still : '\n' ∉ c :: line := by simp [open_, Ne.symm feed]
      obtain ⟨tail, short, same⟩ := ih clean still
      refine ⟨tail, short, ?_⟩
      rw [splitLines.go]
      · simpa [feed, noReturn, noZero] using same
      · simp [noReturn]

/-- A document whose last line is not empty has the lines of its text. -/
theorem splitLines_eq_lines {t : Text} (clean : t.all fun c => c != '\r' && c != '\x00')
    (ends : (Text.lines t).getLast? ≠ some []) : splitLines t = Text.lines t := by
  obtain ⟨tail, short, lines⟩ := lines_eq_splitLines_go clean List.not_mem_nil
  rw [List.reverse_nil, List.nil_append] at lines
  rcases short with rfl | rfl
  · rw [lines, List.append_nil]
    rfl
  · exact absurd (lines ▸ List.getLast?_concat) ends

/-- **Prose is read as its paragraphs.**  It holds no link definitions. -/
theorem Document.ofText_of_isProse {t : Text} (prose : IsProse t) :
    Document.ofText t = ⟨(paragraphs (Text.lines t)).map proseBlock, []⟩ := by
  have clean : t.all fun c => c != '\r' && c != '\x00' := by
    refine Text.all_of_splitOnP (p := (· == '\n')) ?_ ?_
    · intro c feed
      rw [beq_iff_eq.mp feed]; rfl
    · intro line member
      rw [List.all_eq_true]
      intro c inside
      rcases prose line member with rfl | prose
      · exact nomatch inside
      · have inert := prose.inert c inside
        have noReturn : c ≠ '\r' := by rintro rfl; exact Bool.noConfusion inert
        have noZero : c ≠ '\x00' := by rintro rfl; exact Bool.noConfusion inert
        rw [bne_iff_ne.mpr noReturn, bne_iff_ne.mpr noZero, Bool.true_and]
  obtain ⟨tail, short, lines⟩ := lines_eq_splitLines_go clean List.not_mem_nil
  rw [List.reverse_nil, List.nil_append] at lines
  have same : paragraphs (Text.lines t) = paragraphs (splitLines t) := by
    rw [lines]
    rcases short with rfl | rfl
    · rw [List.append_nil]; rfl
    · rw [paragraphs_append_empty, paragraphs_nil, List.append_nil]; rfl
  have all : ∀ line ∈ splitLines t, line = [] ∨ IsProseLine line := fun line member =>
    prose line (lines ▸ List.mem_append_left tail member)
  obtain ⟨closed, current, reads, read⟩ := Outline.Reads.start.foldl_readLine all
  obtain ⟨definitions, blocks⟩ := reads.document
  rw [List.nil_append, List.nil_append] at read
  simp only [Document.ofText]
  rw [definitions, blocks, read, Option.getD_some, same]

end Markdown

end MarkdownDialects
