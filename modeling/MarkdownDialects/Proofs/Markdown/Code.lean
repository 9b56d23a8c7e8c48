import MarkdownDialects.Proofs.Line.Fenced
import MarkdownDialects.Proofs.Markdown.Render

/-!
# Fenced code as HTML

Between two fences every line is code, whatever else it looks like.  So fenced code becomes its
text (`Markdown.render_fenced`).
-/

namespace MarkdownDialects

namespace Markdown

namespace Outline

/-- While code is read: the lines of the open code block, newest first. -/
def ofCode (lines : List Text) (number : Nat) : Outline :=
  ⟨[{ OpenBlock.ofKind (.fencedCode ⟨'`', 3⟩ 0) with lines }, .ofKind .document], [], number⟩

/-- Three backticks open a code block in an empty document. -/
theorem readLine_opening : start.readLine "```".toList = ofCode [[]] 1 := by
  let s : LineState := ⟨[.ofKind .document], [], [], .ofLine "```".toList, false, false⟩
  let opened : LineState := ⟨[.ofKind (.fencedCode ⟨'`', 3⟩ 0), .ofKind .document], [], [],
    ⟨[], 3, false⟩, true, false⟩
  have fence : s.codeFence? = some (s.openBlock (.fencedCode ⟨'`', 3⟩ 0) ⟨[], 3, false⟩) := rfl
  have block : s.openBlock (.fencedCode ⟨'`', 3⟩ 0) ⟨[], 3, false⟩ = opened := by
    simp [s, opened, LineState.openBlock, LineState.judgeList, LineState.closeUnmatched, closeMany,
      closeUntilAdmits, OpenBlock.ofKind]
  have first : s.startBlock? false 1 1 = some opened := by
    have noQuote : s.blockquote? = none := rfl
    have noHeading : s.atxHeading? = none := rfl
    rw [LineState.startBlock?, noQuote, noHeading, fence, block]
    rfl
  have started : s.startBlocks 1 5 1 false = opened := by
    rw [LineState.startBlocks, first]
    rfl
  have read : start.readLine "```".toList =
      ⟨((s.startBlocks 1 5 1 false).finish 1).spine,
        ((s.startBlocks 1 5 1 false).finish 1).definitions, 1⟩ := rfl
  rw [read, started]
  rfl

/-- A line without backticks does not close a code block. -/
theorem closesFence_eq_false {line : Text} (clean : '`' ∉ line) :
    OpenBlock.closesFence ⟨'`', 3⟩ (.ofLine line) = false := by
  have noRun : Fence.runLength '`' (Cursor.ofLine line).shown = 0 :=
    Fence.runLength_eq_zero fun member => clean ((List.dropWhile_suffix Ascii.isBlank).mem member)
  simp [OpenBlock.closesFence, noRun]

theorem matchLine_code {root code : OpenBlock} (document : root.kind = .document)
    (kind : code.kind = .fencedCode ⟨'`', 3⟩ 0) {line : Text} (clean : '`' ∉ line) :
    matchLine [] [root, code] (.ofLine line) = ([code, root], [], .ofLine line, false) := by
  simp [matchLine, document, kind, OpenBlock.continuation, closesFence_eq_false clean,
    Cursor.skipBlankColumns]

/-- The rest of a line goes to the code block. -/
theorem LineState.finish_code {root code : OpenBlock} {fence : Fence} {indent : Nat}
    (kind : code.kind = .fencedCode fence indent) (childless : code.children = []) (line : Text)
    (number : Nat) :
    (⟨[code, root], [], [], .ofLine line, false, false⟩ : LineState).finish number =
      ⟨[(code.addLine line).settled, root.settled], [], [], .ofLine line, false, false⟩ := by
  have text : (Cursor.ofLine line).text = line := rfl
  cases blank : (Cursor.ofLine line).isBlank <;>
    simp [finish, noteBlank, markLastChild, countsBlank, addText, closeUnmatched, closeMany,
      container, modifyTop, kind, childless, blank, text, OpenBlock.settled, OpenBlock.addLine]

/-- A line without backticks is code. -/
theorem readLine_ofCode {line : Text} (clean : '`' ∉ line) (lines : List Text) (number : Nat) :
    (ofCode lines (number + 1)).readLine line = ofCode (line :: lines) (number + 2) := by
  let code : OpenBlock := { OpenBlock.ofKind (.fencedCode ⟨'`', 3⟩ 0) with lines }
  have matched := matchLine_code (show (OpenBlock.ofKind .document).kind = .document from rfl)
    (show code.kind = .fencedCode ⟨'`', 3⟩ 0 from rfl) clean
  have read : (ofCode lines (number + 1)).readLine line =
      (fun s : LineState => (⟨s.spine, s.definitions, number + 2⟩ : Outline))
        ((⟨[code, .ofKind .document], [], [], .ofLine line, false, false⟩ : LineState).finish
          (number + 2)) := by
    have spine : (ofCode lines (number + 1)).spine.reverse = [.ofKind .document, code] := rfl
    have later : (ofCode lines (number + 1)).lineNumber + 1 = number + 2 := rfl
    have notFirst : ¬ number + 2 = 1 := by omega
    simp only [readLine, spine, later, if_neg notFirst, matched]
    rfl
  rw [read, LineState.finish_code rfl rfl]
  rfl

theorem foldl_readLine_ofCode {code : List Text} (clean : ∀ line ∈ code, '`' ∉ line)
    (lines : List Text) (number : Nat) :
    code.foldl readLine (ofCode lines (number + 1)) =
      ofCode (code.reverse ++ lines) (number + 1 + code.length) := by
  induction code generalizing lines number with
  | nil => rfl
  | cons line code ih =>
    rw [List.foldl_cons, readLine_ofCode (clean line List.mem_cons_self),
      ih fun other member => clean other (.tail _ member)]
    have count : number + 1 + 1 + code.length = number + 1 + (line :: code).length := by
      rw [List.length_cons]
      omega
    rw [count, List.reverse_cons, List.append_assoc, List.singleton_append]

/-- Three backticks close the code block; its first line is the information string. -/
theorem readLine_closing (code : List Text) (number : Nat) :
    (ofCode (code ++ [[]]) (number + 1)).readLine "```".toList =
      ⟨[{ OpenBlock.ofKind .document with
          children := [.leaf (.code [] (Text.terminated code.reverse)) false] }], [],
        number + 2⟩ := by
  have content : (code ++ [[]]).reverse.flatMap (· ++ ['\n']) =
      '\n' :: Text.terminated code.reverse := by
    rw [List.reverse_append, List.reverse_singleton, List.singleton_append, List.flatMap_cons]
    rfl
  have info : OpenBlock.splitInfo ('\n' :: Text.terminated code.reverse) =
      ([], Text.terminated code.reverse) := rfl
  have read : (ofCode (code ++ [[]]) (number + 1)).readLine "```".toList =
      (fun block : Text × Text => (⟨[{ OpenBlock.ofKind .document with
        children := [.leaf (.code block.1 block.2) false] }], [], number + 2⟩ : Outline))
        (OpenBlock.splitInfo ((code ++ [[]]).reverse.flatMap (· ++ ['\n']))) := rfl
  rw [read, content, info]

end Outline

/-- Fenced code is a document of its own. -/
theorem Document.ofText_fenced {code : Text} (clean : IsCode code) :
    Document.ofText (fenced code) = ⟨[.code [] (code ++ ['\n'])], []⟩ := by
  have kept : (fenced code).all fun c => c != '\r' && c != '\x00' := by
    have inside : ∀ c ∈ code, c ≠ '\r' ∧ c ≠ '\x00' := fun c member =>
      ⟨fun same => clean.not_mem rfl (same ▸ member), fun same => clean.not_mem rfl (same ▸ member)⟩
    simpa [fenced] using inside
  have lines : splitLines (fenced code) = "```".toList :: (Text.lines code ++ ["```".toList]) := by
    rw [splitLines_eq_lines kept, Text.lines_fenced]
    rw [Text.lines_fenced, ← List.cons_append, List.getLast?_concat]
    decide
  have inside : ∀ line ∈ Text.lines code, '`' ∉ line := fun line member =>
    Text.not_mem_of_mem_lines (clean.not_mem rfl) member
  have content : Text.terminated (Text.lines code) = code ++ ['\n'] := by
    rw [Text.terminated_eq_unlines (List.splitOn_ne_nil '\n' code), Text.unlines,
      List.intercalate_splitOn]
  have read : (splitLines (fenced code)).foldl Outline.readLine Outline.start =
      ⟨[{ OpenBlock.ofKind .document with children := [.leaf (.code [] (code ++ ['\n'])) false] }],
        [], (Text.lines code).length + 2⟩ := by
    rw [lines, List.foldl_cons, Outline.readLine_opening, List.foldl_append,
      Outline.foldl_readLine_ofCode inside [[]] 0, List.foldl_cons, Nat.zero_add, Nat.add_comm 1,
      Outline.readLine_closing,
      List.reverse_reverse, content]
    rfl
  rw [Document.ofText, read]
  rfl

/-- **Fenced code becomes its text.** -/
theorem render_fenced (options : RenderOptions) {code : Text} (clean : IsCode code) :
    render options (fenced code) =
      "<pre><code>".toList ++ Html.escape (code ++ ['\n']) ++ "</code></pre>\n".toList := by
  have blocks : (Block.mapAllM (Inline.ofText options.linkify)
      [.code [] (code ++ ['\n'])]).run (References.ofDefinitions (Utf8.size (fenced code)) []) =
        ([.code [] (code ++ ['\n'])], .ofDefinitions (Utf8.size (fenced code)) []) := rfl
  have written : Render.blocks options false [.code [] (code ++ ['\n'])] =
      [.freshLine, .text "<pre><code>".toList, .text (Html.escape (code ++ ['\n'])),
        .str "</code></pre>\n"] := rfl
  simp only [render, Document.ofText_fenced clean, blocks, written]
  cases Html.escape (code ++ ['\n']) with
  | nil => rfl
  | cons c rest => simp [Chunk.join, Chunk.str]

end Markdown

end MarkdownDialects
