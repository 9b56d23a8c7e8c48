import MarkdownDialects.Proofs.Markdown.Inline
import MarkdownDialects.Proofs.Markdown.Outline

/-!
# Prose as HTML

A paragraph of prose becomes its text between two tags, and prose becomes its paragraphs
(`Markdown.render_of_isProse`).
-/

namespace MarkdownDialects

namespace Markdown

/-- The HTML of a paragraph of prose. -/
def proseHtml (ls : List Text) : Text :=
  "<p>".toList ++ Html.escape (Text.unlines ls) ++ "</p>\n".toList

namespace Block

variable {α β : Type} {m : Type → Type} [Monad m] (read : α → m β)

theorem mapM_paragraph (content : α) :
    mapM read (.paragraph content) = do return .paragraph (← read content) := rfl

theorem mapM_heading (level : Nat) (content : α) :
    mapM read (.heading level content) = do return .heading level (← read content) := rfl

theorem mapAllM_cons (b : Block α) (rest : List (Block α)) :
    mapAllM read (b :: rest) = do
      let b ← mapM read b
      let rest ← mapAllM read rest
      return b :: rest := rfl

end Block

namespace Render

variable (options : RenderOptions)

theorem inline_text (t : Text) : inline options (.text t) = Html.escape t := rfl

theorem inline_softBreak :
    inline options .softBreak = if options.breaks then hardBreak else ['\n'] := rfl

theorem inlines_cons (i : Inline) (rest : List Inline) :
    inlines options (i :: rest) = inline options i ++ inlines options rest := rfl

theorem inlines_text (t : Text) : inlines options [.text t] = Html.escape t := by
  rw [inlines_cons, inline_text]
  exact List.append_nil _

theorem block_paragraph (tight : Bool) (content : List Inline) :
    block options tight (.paragraph content) = paragraph tight (inlines options content) := rfl

theorem block_heading (tight : Bool) (level : Nat) (content : List Inline) :
    block options tight (.heading level content) =
      wrapped ("<" ++ headingTag level ++ ">") [.text (inlines options content)]
        ("</" ++ headingTag level ++ ">\n") := rfl

theorem blocks_cons (tight : Bool) (b : Block (List Inline)) (rest : List (Block (List Inline))) :
    blocks options tight (b :: rest) = block options tight b ++ blocks options tight rest := rfl

variable {options}

/-- Plain content is written as the text it was read from. -/
theorem inlines_of_isPlain (soft : options.breaks = false) {is : List Inline}
    (plain : ∀ i ∈ is, i.IsPlain) :
    inlines options is = Html.escape (is.flatMap Inline.source) := by
  induction is with
  | nil => rfl
  | cons i is ih =>
    have others := ih fun j member => plain j (List.mem_cons_of_mem i member)
    have first : inline options i = Html.escape i.source := by
      cases plain i List.mem_cons_self with
      | text => exact inline_text options _
      | softBreak => rw [inline_softBreak, soft]; rfl
    rw [inlines_cons, first, others, List.flatMap_cons, Html.escape, Html.escape, Html.escape,
      List.flatMap_append]

/-- Content between two tags, the last of which ends its line. -/
theorem join_wrapped {opening closing : String} (nonempty : opening.toList ≠ [])
    (ends : closing.toList.getLast? = some '\n') (inner : Text) (rest : List Chunk) :
    Chunk.join true (wrapped opening [.text inner] closing ++ rest) =
      opening.toList ++ inner ++ closing.toList ++ Chunk.join true rest := by
  have last (fresh : Bool) : Chunk.join fresh (.text closing.toList :: rest) =
      closing.toList ++ Chunk.join true rest := by
    obtain ⟨front, whole⟩ := List.getLast?_eq_some_iff.mp ends
    obtain ⟨c, back, shown⟩ := List.exists_cons_of_ne_nil (l := front ++ ['\n']) (by simp)
    rw [whole, shown, Chunk.join, ← shown, List.getLast?_concat]
    · rfl
    · exact nofun
  obtain ⟨c, back, whole⟩ := List.exists_cons_of_ne_nil nonempty
  cases inner <;> simp [wrapped, Chunk.str, Chunk.join, whole, last]

theorem join_paragraph (inner : Text) (rest : List Chunk) :
    Chunk.join true (paragraph false inner ++ rest) =
      "<p>".toList ++ inner ++ "</p>\n".toList ++ Chunk.join true rest :=
  join_wrapped (by decide) rfl inner rest

end Render

/-- A document of one paragraph becomes the content of the paragraph between two tags. -/
theorem render_of_paragraph {options : RenderOptions} {t shown : Text} {content : List Inline}
    (document : Document.ofText t = ⟨[.paragraph shown], []⟩)
    (read : ∀ references,
      (Inline.ofText options.linkify shown).run references = (content, references)) :
    render options t = "<p>".toList ++ Render.inlines options content ++ "</p>\n".toList := by
  have blocks (references : References) :
      (Block.mapAllM (Inline.ofText options.linkify) [.paragraph shown]).run references =
        ([.paragraph content], references) := by
    rw [Block.mapAllM_cons, Block.mapM_paragraph]
    simp only [StateT.run_bind, read]
    rfl
  simp only [render, document, blocks]
  rw [Render.blocks_cons, Render.block_paragraph, Render.join_paragraph]
  exact List.append_nil _

/-- Next to the line ends between lines that show something at both ends nothing is blank. -/
theorem isChain_showsEnds {ls : List Text}
    (all : ∀ line ∈ ls, line ≠ [] ∧ Text.trim line = line ∧ '\n' ∉ line) :
    (Text.unlines ls).IsChain ShowsEnds := by
  have inside {line : Text} (noFeed : '\n' ∉ line) : line.IsChain ShowsEnds := by
    rw [List.isChain_iff_forall_rel_of_append_cons_cons]
    rintro c d front back rfl
    constructor
    · rintro rfl
      exact absurd (by simp) noFeed
    · rintro rfl
      exact absurd (by simp) noFeed
  induction ls with
  | nil => exact .nil
  | cons line ls ih =>
    obtain ⟨shown, trimmed, noFeed⟩ := all line List.mem_cons_self
    have others := ih fun other member => all other (List.mem_cons_of_mem line member)
    cases ls with
    | nil => rw [Text.unlines, List.intercalate_singleton]; exact inside noFeed
    | cons next ls =>
      have front : Text.trim (Text.unlines (next :: ls)) = Text.unlines (next :: ls) :=
        Text.trimBy_intercalate fun other member =>
          have kept := all other (List.mem_cons_of_mem line member)
          ⟨kept.1, kept.2.1⟩
      have last := Text.trimEndBy_eq_self_iff.mp (Text.trimBy_eq_self_iff.mp trimmed).2
      have first := Text.trimStartBy_eq_self_iff.mp (Text.trimBy_eq_self_iff.mp front).1
      rw [Text.unlines_cons_cons, List.isChain_append, List.isChain_cons]
      refine ⟨inside noFeed, ⟨fun d member => ⟨?_, fun _ => first d member⟩, others⟩, ?_⟩
      · rintro rfl
        exact absurd (first _ member) (by decide)
      · intro c member d feed
        cases feed
        refine ⟨fun _ => last c member, ?_⟩
        rintro rfl
        exact absurd (List.mem_of_getLast? member) noFeed

/-- A paragraph of prose, as it stands in a text. -/
structure IsProseParagraph (ls : List Text) : Prop where
  nonempty : ls ≠ []
  prose : ∀ line ∈ ls, IsProseLine line
  noFeed : ∀ line ∈ ls, '\n' ∉ line

/-- The paragraphs of prose are paragraphs of prose. -/
theorem IsProse.isProseParagraph {t : Text} (prose : IsProse t) {ls : List Text}
    (member : ls ∈ paragraphs (Text.lines t)) : IsProseParagraph ls := by
  obtain ⟨nonempty, all⟩ := of_mem_paragraphs member
  refine ⟨nonempty, fun line inside => ?_, fun line inside => ?_⟩
  · exact (prose line (all line inside).1).resolve_left (all line inside).2
  · exact Text.feed_not_mem_of_mem_lines (all line inside).1

namespace IsProseParagraph

variable {ls : List Text} (paragraph : IsProseParagraph ls)
include paragraph

theorem trim_unlines : Text.trim (Text.unlines ls) = Text.unlines ls := by
  apply Text.trimBy_intercalate
  intro line member
  have led := (paragraph.prose line member).led
  obtain ⟨c, rest, whole, _⟩ := led.exists_cons
  exact ⟨whole ▸ List.cons_ne_nil c rest, led.trim_eq⟩

theorem isChain_unlines : (Text.unlines ls).IsChain ShowsEnds :=
  isChain_showsEnds fun line member => by
    obtain ⟨c, rest, whole, _⟩ := (paragraph.prose line member).led.exists_cons
    exact ⟨whole ▸ List.cons_ne_nil c rest, (paragraph.prose line member).led.trim_eq,
      paragraph.noFeed line member⟩

theorem isTidy : IsTidy (Text.unlines ls) := by
  have tame : ∀ word ∈ Text.words (Text.unlines ls), IsTame word := by
    rw [Text.words_unlines]
    intro word member
    obtain ⟨line, inside, read⟩ := List.mem_flatMap.mp member
    exact (paragraph.prose line inside).tame word read
  refine ⟨fun c member => ?_, ?_, ?_, paragraph.isChain_unlines⟩
  · rcases Text.mem_intercalate member with feed | ⟨line, inside, within⟩
    · rw [List.mem_singleton.mp feed]
      rfl
    · exact (paragraph.prose line inside).inert c within
  · rw [Text.isInfix_iff_words (by decide)]
    rintro ⟨word, member, found⟩
    exact (tame word member).noScheme found
  · rw [Text.isInfix_iff_words (by decide)]
    rintro ⟨word, member, found⟩
    exact (tame word member).noHost found

theorem trimEndBy_lines :
    Text.trimEndBy Ascii.isTrimmed (Text.terminated ls) = Text.unlines ls := by
  have feed : ∀ c ∈ ['\n'], Ascii.isTrimmed c := List.forall_mem_singleton.mpr rfl
  rw [Text.terminated_eq_unlines paragraph.nonempty, Text.trimEndBy_append feed,
    Text.trimEndBy_eq_self_iff]
  intro c last
  have ends := (Text.trimBy_eq_self_iff.mp paragraph.trim_unlines).2
  have shown : Text.isBlank c = false := Text.trimEndBy_eq_self_iff.mp ends c last
  exact Text.eq_false_of_shown isBlank_of_isTrimmed shown

end IsProseParagraph

/-- The HTML of paragraphs of prose, whatever definitions there are. -/
theorem join_mapAllM_proseBlock {options : RenderOptions} (soft : options.breaks = false)
    {ps : List (List Text)} (prose : ∀ ls ∈ ps, IsProseParagraph ls) (references : References) :
    ∃ blocks, (Block.mapAllM (Inline.ofText options.linkify) (ps.map proseBlock)).run references =
        (blocks, references) ∧
      Chunk.join true (Render.blocks options false blocks) = ps.flatMap proseHtml := by
  induction ps with
  | nil => exact ⟨[], rfl, rfl⟩
  | cons ls ps ih =>
    obtain ⟨blocks, read, shown⟩ := ih fun other member => prose other (.tail _ member)
    have paragraph := prose ls List.mem_cons_self
    have tidy : IsTidy (Text.trimEndBy Ascii.isTrimmed (Text.terminated ls)) := by
      rw [paragraph.trimEndBy_lines]
      exact paragraph.isTidy
    obtain ⟨content, inner, plain, source⟩ :=
      Inline.ofText_of_isTidy options.linkify tidy references
    refine ⟨.paragraph content :: blocks, ?_, ?_⟩
    · rw [List.map_cons, proseBlock, Block.mapAllM_cons, Block.mapM_paragraph]
      simp only [StateT.run_bind, inner]
      exact congrArg (fun later => (Block.paragraph content :: later.1, later.2)) read
    · rw [Render.blocks_cons, Render.block_paragraph, Render.inlines_of_isPlain soft plain, source,
        paragraph.trimEndBy_lines, Render.join_paragraph, shown, List.flatMap_cons, proseHtml]

/-- **Prose becomes its paragraphs.** -/
theorem render_of_isProse {options : RenderOptions} (soft : options.breaks = false) {t : Text}
    (prose : IsProse t) :
    render options t = (paragraphs (Text.lines t)).flatMap proseHtml := by
  have read := Document.ofText_of_isProse prose
  obtain ⟨blocks, inner, shown⟩ := join_mapAllM_proseBlock soft
    (fun ls member => prose.isProseParagraph member)
    (References.ofDefinitions (Utf8.size t) [])
  simp only [render, read, inner, shown]

end Markdown

end MarkdownDialects
