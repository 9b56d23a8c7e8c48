import MarkdownDialects.Proofs.Serialize.Behind
import MarkdownDialects.Proofs.Serialize.FencedCode

/-!
# Code blocks under reflow

Reflow keeps a code block as it was written, provided that it takes nothing in front of it for a
fence that is still open (`fencedCode_isInfix_reflow`).  It can: a code span with long delimiters
reads as one (`fencedCode_not_isInfix_reflow`).
-/

namespace MarkdownDialects

namespace Serialize

open Html (Node Attribute BodyPlace)

/-- The place behind the only paragraph of a document. -/
def behindParagraph (content : List Node) : BodyPlace where
  front := []
  htmlAttributes := []
  head := [.element "head" [] []]
  bodyAttributes := []
  before := [.element "p" [] content]
  after := []
  foot := []
  back := []

/-- The code of preformatted content, without the line feed at its end. -/
def preText (content : List Node) : Text :=
  let code := match content.find? (Node.isNamed "code") with
    | some n => n.textContent
    | none => Node.textContents content
  (Text.before? ['\n'] code).getD code

/-- The language that preformatted content is marked with. -/
def preLanguage (content : List Node) : Text :=
  match content.find? (Node.isNamed "code") with
  | some n => codeLanguage n.attributes
  | none => []

theorem codeBlock_eq (content : List Node) :
    codeBlock .fenced content = block (fencedCode (preLanguage content) (preText content)) := by
  simp only [codeBlock, preText, preLanguage]
  cases content.find? (Node.isNamed "code") <;> rfl

/-- The name of a language is part of a word. -/
theorem isBlank_of_mem_preLanguage {content : List Node} :
    ∀ c ∈ preLanguage content, Text.isBlank c = false := by
  intro c member
  simp only [preLanguage, codeLanguage] at member
  split at member
  next n _ =>
    split at member
    next a _ =>
      cases found : (Text.words a.value).findSome? (Text.after? "language-".toList) with
      | none =>
        rw [found] at member
        exact absurd member List.not_mem_nil
      | some language =>
        rw [found] at member
        obtain ⟨word, inside, cut⟩ := List.exists_of_findSome?_eq_some found
        rw [Text.after?_eq_some_iff] at cut
        refine (Text.isWord_of_mem_words inside).2 c ?_
        rw [← cut]
        exact List.mem_append_right _ member
    next => exact absurd member List.not_mem_nil
  next => exact absurd member List.not_mem_nil

theorem isShown_fencedCode (language code : Text) : IsShown (fencedCode language code) := by
  obtain ⟨n, length⟩ := Nat.exists_eq_add_of_le' (three_le_fenceLength code)
  constructor
  · refine ⟨'`', Text.rep (n + 2) '`' ++ language ++ ['\n'] ++ code ++ ['\n'] ++
      Text.rep (n + 3) '`', ?_, rfl⟩
    rw [fencedCode, length]
    rfl
  · refine ⟨Text.rep (n + 3) '`' ++ language ++ ['\n'] ++ code ++ ['\n'] ++
      Text.rep (n + 2) '`', '`', ?_, rfl⟩
    rw [fencedCode, length, List.append_assoc _ (Text.rep (n + 2) '`'), Text.rep, Text.rep,
      ← List.replicate_succ']

/-- **Reflow keeps the code blocks that are written** where it takes nothing in front of them for a
fence that is still open; and then none is open behind them. -/
theorem fencedCode_isInfix_reflow {options : SerializeOptions}
    (style : options.codeBlockStyle = .fenced) (place : BodyPlace) (attributes : List Attribute)
    {content : List Node} (clean : '`' ∉ preLanguage content)
    (closed : Fence.behind none
      (writeDocument options ElementRule.defaults place.preceding) = none) (width : Nat) :
    fencedCode (preLanguage content) (preText content) <:+:
        reflow width (writeDocument options ElementRule.defaults
          (place.document (.element "pre" attributes content))) ∧
      Fence.behind none (writeDocument options ElementRule.defaults
        (place.next (.element "pre" attributes content)).preceding) = none := by
  have written (pen : Pen) :
      (writeNode options ElementRule.defaults "body" (.element "pre" attributes content) pen).1 =
        block (fencedCode (preLanguage content) (preText content)) := by
    rw [← codeBlock_eq, ← style]
    rfl
  have shown := isShown_fencedCode (preLanguage content) (preText content)
  have solid : ∀ c ∈ preLanguage content, Text.isBlank c = false := isBlank_of_mem_preLanguage
  have lines := lines_fencedCode solid (preText content)
  have opens := ofLine?_fence solid (three_le_fenceLength (preText content)) clean
  constructor
  · obtain ⟨rest, behind⟩ := hasBehind_document shown rfl written place
    obtain ⟨before, after, read, state⟩ := behind.exists_lines shown
    rw [lines] at read
    have kept := isInfix_reflow_of_lines read (state.trans closed) opens
      (fun line member => closedBy_fenceLength member) width
    rw [← lines] at kept
    have text : Text.unlines (Text.lines (fencedCode (preLanguage content) (preText content))) =
        fencedCode (preLanguage content) (preText content) := List.intercalate_splitOn '\n'
    rwa [text] at kept
  · -- The text up to the next element ends with the block, which closes what it opens.
    obtain ⟨start, whole, same⟩ := hasBehind_next shown rfl written place
    have unopened : Fence.behind none start = none :=
      (Fence.behind_congr same none).trans
        ((Fence.behind_trimBy blank_of_isOuter none _).symm.trans closed)
    refine (Fence.behind_trimBy blank_of_isOuter none _).trans ?_
    rw [whole, Fence.behind_append_feed, unopened, Fence.behind_append_feed,
      behind_fencedCode solid clean]
    rfl

/-- Code with a run of backticks in it, behind a paragraph of text. -/
theorem fencedCode_isInfix_reflow_of_ticks :
    '`' ∉ preLanguage [.element "code" [] [.text "x   y\n````".toList]] ∧
      Fence.behind none (writeDocument {} ElementRule.defaults
        (behindParagraph [.text "a b".toList]).preceding) = none ∧
      "`````\nx   y\n````\n`````".toList <:+: reflow 8 (writeDocument {} ElementRule.defaults
        ((behindParagraph [.text "a b".toList]).document
          (.element "pre" [] [.element "code" [] [.text "x   y\n````".toList]]))) := by
  have clean : '`' ∉ preLanguage [.element "code" [] [.text "x   y\n````".toList]] := by
    decide +kernel
  have closed : Fence.behind none (writeDocument {} ElementRule.defaults
      (behindParagraph [.text "a b".toList]).preceding) = none := by decide +kernel
  exact ⟨clean, closed, (fencedCode_isInfix_reflow rfl _ [] clean closed 8).1⟩

/-- **Reflow does not keep all code blocks.**  A code span between runs of three backticks reads as
a fence, which the fence in front of the code closes. -/
theorem fencedCode_not_isInfix_reflow :
    serialize {} ElementRule.defaults
        "<p><code>a`b``c</code></p><pre><code>x   y\n</code></pre>".toList =
      "```a`b``c```\n\n```\nx   y\n```".toList ∧
    ¬ "```\nx   y\n```".toList <:+: reflow 40 (serialize {} ElementRule.defaults
        "<p><code>a`b``c</code></p><pre><code>x   y\n</code></pre>".toList) := by
  have written : serialize {} ElementRule.defaults
      "<p><code>a`b``c</code></p><pre><code>x   y\n</code></pre>".toList =
        "```a`b``c```\n\n```\nx   y\n```".toList := by decide +kernel
  refine ⟨written, ?_⟩
  rw [written]
  decide +kernel

end Serialize

end MarkdownDialects
