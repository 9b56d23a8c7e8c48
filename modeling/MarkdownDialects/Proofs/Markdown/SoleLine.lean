import MarkdownDialects.Proofs.Markdown.Outline
import MarkdownDialects.Proofs.Text.Lines

/-!
# Documents of one line

A line that starts no block is a document of one paragraph
(`Markdown.Document.ofText_bare`), and a line that begins with up to six `#` and a space is one
of a heading (`Markdown.Document.ofText_heading`).
-/

namespace MarkdownDialects

namespace Markdown

namespace Cursor

theorem skipChars_rep (n column : Nat) (rest : Text) :
    skipChars n ⟨Text.rep n '#' ++ rest, column, false⟩ = ⟨rest, column + n, false⟩ := by
  induction n generalizing column with
  | zero => rfl
  | succ n ih =>
    have next : nextChar ⟨'#' :: (Text.rep n '#' ++ rest), column, false⟩ =
        ⟨Text.rep n '#' ++ rest, column + 1, false⟩ := rfl
    rw [Text.rep, List.replicate_succ, List.cons_append, skipChars, next, ih, Nat.add_assoc,
      Nat.add_comm 1]

/-- A single space before something shown is skipped. -/
theorem skipBlanks_space {rest : Text} (unindented : ∀ c ∈ rest.head?, Ascii.isBlank c = false)
    (column : Nat) :
    skipBlanks ⟨' ' :: rest, column, false⟩ = ⟨rest, column + 1, false⟩ := by
  have shown : (⟨' ' :: rest, column, false⟩ : Cursor).shown = rest := by
    rw [Cursor.shown, List.dropWhile_cons_of_pos rfl]
    exact Text.trimStartBy_eq_self_iff.mpr unindented
  rw [skipBlanks, shown, List.length_cons, Nat.add_sub_cancel_left]
  rfl

end Cursor

namespace Outline

/-- While the first line of a document is read. -/
def LineState.first (line : Text) : LineState :=
  ⟨[.ofKind .document], [], [], .ofLine line, false, false⟩

theorem readLine_start {line : Text} (unmarked : line.head? ≠ some '\ufeff') :
    start.readLine line =
      (fun s : LineState => (⟨s.spine, s.definitions, 1⟩ : Outline))
        (((LineState.first line).startBlocks 1 (line.length + 2) 1 false).finish 1) := by
  have kept : Text.after? ['\ufeff'] line = none := by
    rw [Text.after?_eq_none_iff]
    rintro ⟨rest, rfl⟩
    exact unmarked rfl
  have number : start.lineNumber + 1 = 1 := rfl
  simp only [readLine, number, if_true, kept, Option.getD_none]
  rfl

/-- In an empty document a line that starts no block opens a paragraph. -/
theorem readLine_bare {line : Text} (bare : LineState.IsBare line) (nonempty : line ≠ [])
    (unmarked : line.head? ≠ some '\ufeff') :
    start.readLine line =
      ⟨[(OpenBlock.ofKind (.paragraph false)).addLine line, .ofKind .document], [], 1⟩ := by
  have shown := Cursor.isBlank_ofLine bare.unindented nonempty
  rw [readLine_start unmarked, LineState.startBlocks_of_document rfl rfl bare rfl, LineState.first,
    LineState.finish_of_shown shown, List.map_nil, LineState.addText_document rfl shown,
    Cursor.skipBlanks_ofLine bare.unindented]
  rfl

namespace LineState

variable {level : Nat} (positive : 1 ≤ level) (low : level ≤ 6) {content : Text}
  (unindented : ∀ c ∈ content.head?, Ascii.isBlank c = false)
include positive low unindented

/-- The heading that up to six `#` and a space open. -/
theorem atxHeading?_first :
    (first (Text.rep level '#' ++ ' ' :: content)).atxHeading? =
      some ⟨[.ofKind (.heading level), .ofKind .document], [], [], ⟨content, level + 1, false⟩,
        true, false⟩ := by
  have start : ∀ c ∈ (Text.rep level '#' ++ ' ' :: content).head?, Ascii.isBlank c = false := by
    obtain ⟨n, rfl⟩ := Nat.exists_eq_add_of_le' positive
    rintro c ⟨⟩
    rfl
  have shown := Cursor.shown_ofLine start
  have indent := Cursor.indent_ofLine start
  have skipped := Cursor.skipBlanks_ofLine start
  have run : Fence.runLength '#' (Text.rep level '#' ++ ' ' :: content) = level := by
    rw [Fence.runLength, List.takeWhile_append_of_pos (by simp)]
    simp
  have behind : (Text.rep level '#' ++ ' ' :: content).drop level = ' ' :: content :=
    List.drop_left' List.length_replicate
  have cursor :
      ((Cursor.ofLine (Text.rep level '#' ++ ' ' :: content)).skipChars level).skipBlanks =
        ⟨content, level + 1, false⟩ := by
    rw [Cursor.ofLine, Cursor.skipChars_rep, Nat.zero_add,
      Cursor.skipBlanks_space unindented]
  have opened : (first (Text.rep level '#' ++ ' ' :: content)).openBlock (.heading level)
      ⟨content, level + 1, false⟩ =
        ⟨[.ofKind (.heading level), .ofKind .document], [], [], ⟨content, level + 1, false⟩, true,
          false⟩ := by
    simp [first, openBlock, judgeList, closeUnmatched, closeMany, closeUntilAdmits]
  have here : (first (Text.rep level '#' ++ ' ' :: content)).cursor =
      Cursor.ofLine (Text.rep level '#' ++ ' ' :: content) := rfl
  simp only [atxHeading?, here, shown, indent, run, behind, skipped, cursor, opened]
  simp [positive, low, Ascii.isBlank]

theorem startBlocks_first (fuel : Nat) :
    (first (Text.rep level '#' ++ ' ' :: content)).startBlocks 1 (fuel + 1) 1 false =
      ⟨[.ofKind (.heading level), .ofKind .document], [], [], ⟨content, level + 1, false⟩,
        true, false⟩ := by
  have heading := atxHeading?_first positive low unindented
  have noQuote : (first (Text.rep level '#' ++ ' ' :: content)).blockquote? = none := by
    obtain ⟨n, rfl⟩ := Nat.exists_eq_add_of_le' positive
    rfl
  have found : (first (Text.rep level '#' ++ ' ' :: content)).startBlock? false 1 1 =
      some ⟨[.ofKind (.heading level), .ofKind .document], [], [], ⟨content, level + 1, false⟩,
        true, false⟩ := by
    rw [startBlock?, noQuote, heading]
    rfl
  rw [startBlocks, found]
  rfl

end LineState

/-- In an empty document up to six `#` and a space open a heading. -/
theorem readLine_heading {level : Nat} (positive : 1 ≤ level) (low : level ≤ 6) {content : Text}
    (nonempty : content ≠ []) (unindented : ∀ c ∈ content.head?, Ascii.isBlank c = false) :
    start.readLine (Text.rep level '#' ++ ' ' :: content) =
      ⟨[(OpenBlock.ofKind (.heading level)).addLine (LineState.chopHeading content),
        .ofKind .document], [], 1⟩ := by
  have unmarked : (Text.rep level '#' ++ ' ' :: content).head? ≠ some '\ufeff' := by
    obtain ⟨n, rfl⟩ := Nat.exists_eq_add_of_le' positive
    rintro ⟨⟩
  have shown := Text.trimStartBy_eq_self_iff.mpr unindented
  have solid : (⟨content, level + 1, false⟩ : Cursor).isBlank = false := by
    rw [Cursor.isBlank, Cursor.shown, show content.dropWhile Ascii.isBlank = content from shown]
    exact List.isEmpty_eq_false_iff.mpr nonempty
  rw [readLine_start unmarked, LineState.startBlocks_first positive low unindented,
    LineState.finish_of_shown solid, List.map_singleton, LineState.addText_heading rfl solid,
    Cursor.shown, show content.dropWhile Ascii.isBlank = content from shown]
  rfl

end Outline

/-- A text that is a line of a document as it stands. -/
structure IsSoleLine (line : Text) : Prop where
  nonempty : line ≠ []
  noFeed : '\n' ∉ line
  noReturn : '\r' ∉ line
  noNull : '\x00' ∉ line

theorem splitLines_of_isSoleLine {line : Text} (sole : IsSoleLine line) :
    splitLines line = [line] := by
  have alone := Text.lines_of_not_mem sole.noFeed
  rw [splitLines_eq_lines, alone]
  · rw [List.all_eq_true]
    intro c member
    have otherReturn : c ≠ '\r' := fun same => sole.noReturn (same ▸ member)
    have otherNull : c ≠ '\x00' := fun same => sole.noNull (same ▸ member)
    simp [otherReturn, otherNull]
  · rw [alone]
    simpa using sole.nonempty

/-- A document of one line that opens one block is that block. -/
theorem Document.ofText_of_readLine {line : Text} (sole : IsSoleLine line) {b : OpenBlock}
    (read : Outline.start.readLine line = ⟨[b, .ofKind .document], [], 1⟩) {block : Block Text}
    (closed : b.close = (some (.leaf block false), [])) :
    Document.ofText line = ⟨[block], []⟩ := by
  have spine : Outline.closeMany 1 [b, .ofKind .document] [] =
      (Outline.attach b.close.1 [.ofKind .document], [] ++ b.close.2) := rfl
  rw [closed] at spine
  simp only [Document.ofText, splitLines_of_isSoleLine sole, List.foldl_cons, List.foldl_nil, read,
    List.length_cons, List.length_nil, Nat.reduceAdd, Nat.reduceSub, spine]
  rfl

theorem OpenBlock.content_addLine (kind : OpenKind) (line : Text) :
    ((ofKind kind).addLine line).content = line ++ ['\n'] := by
  simp [content, addLine, ofKind]

/-- **A line that starts no block and no definition is a document of one paragraph.** -/
theorem Document.ofText_bare {line : Text} (sole : IsSoleLine line)
    (bare : Outline.LineState.IsBare line) (unmarked : line.head? ≠ some '\ufeff')
    (undefined : Definition.read? (line ++ ['\n']) = none) :
    Document.ofText line = ⟨[.paragraph (line ++ ['\n'])], []⟩ := by
  have kept (fuel : Nat) : Definition.readAll fuel (line ++ ['\n']) = ([], line ++ ['\n']) := by
    rw [Definition.readAll.eq_def, undefined]
    cases fuel <;> rfl
  have solid : OpenBlock.isBlankStart (line ++ ['\n']) = false := by
    obtain ⟨c, rest, rfl⟩ := List.exists_cons_of_ne_nil sole.nonempty
    have noFeed : c ≠ '\n' := fun same => sole.noFeed (same ▸ List.mem_cons_self)
    simp [OpenBlock.isBlankStart, noFeed, bare.unindented c rfl]
  have kind : ((OpenBlock.ofKind (.paragraph false)).addLine line).kind = .paragraph false := rfl
  have closed : ((OpenBlock.ofKind (.paragraph false)).addLine line).close =
      (some (.leaf (.paragraph (line ++ ['\n'])) false), []) := by
    simp only [OpenBlock.close, kind, OpenBlock.content_addLine, kept, solid]
    rfl
  exact ofText_of_readLine sole (Outline.readLine_bare bare sole.nonempty unmarked) closed

/-- **A line that begins with up to six `#` and a space is a document of one heading.** -/
theorem Document.ofText_heading {level : Nat} (positive : 1 ≤ level) (low : level ≤ 6)
    {content : Text} (sole : IsSoleLine (Text.rep level '#' ++ ' ' :: content))
    (nonempty : content ≠ []) (unindented : ∀ c ∈ content.head?, Ascii.isBlank c = false) :
    Document.ofText (Text.rep level '#' ++ ' ' :: content) =
      ⟨[.heading level (Outline.LineState.chopHeading content ++ ['\n'])], []⟩ := by
  refine ofText_of_readLine sole (Outline.readLine_heading positive low nonempty unindented) ?_
  rw [← OpenBlock.content_addLine (.heading level)]
  rfl

end Markdown

end MarkdownDialects
