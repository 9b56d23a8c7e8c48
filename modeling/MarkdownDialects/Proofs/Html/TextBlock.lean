import MarkdownDialects.Proofs.Html.Page

/-!
# Reading a block of text

The tags of a paragraph or a heading around escaped text are read as that element with the text
(`Html.parse_textBlock`).
-/

namespace MarkdownDialects

namespace Html

/-- A paragraph or a heading with a text in it, as it is written. -/
def textBlock (tag : String) (t : Text) : Text :=
  ("<" ++ tag ++ ">").toList ++ escape t ++ ("</" ++ tag ++ ">\n").toList

/-- The elements of text: paragraphs and headings. -/
def textTags : List String := ["p", "h1", "h2", "h3", "h4", "h5", "h6"]

namespace Builder

/-- A page with one block and a text in it. -/
def textForest (tag : String) : Text → Forest
  | [] => blockForest tag
  | c :: t =>
    ⟨#[⟨.document, none, [1]⟩, ⟨.element .html "html" [], some 0, [2, 3]⟩,
      ⟨.element .html "head" [], some 1, []⟩, ⟨.element .html "body" [], some 1, [4]⟩,
      ⟨.element .html tag [], some 3, [5]⟩, ⟨.text (c :: t), some 4, []⟩]⟩

/-- While the text of a block is read. -/
def collectText (tag : String) (ok : Bool) (t : Text) : Builder :=
  inPage (textForest tag t) (⟨4, .html, tag⟩ :: pageRoot) [] ok false

theorem collects_text {tag : String} (plain : tag ≠ "template") : Collects (collectText tag) := by
  have place (ok : Bool) (t : Text) : (collectText tag ok t).place = .lastChild 4 := by
    have unlike : (⟨4, .html, tag⟩ : OpenElement).isNamed "template" = false := by
      simp [OpenElement.isNamed, plain]
    change Place.lastChild (holder _ _) = .lastChild 4
    rw [holder, unlike]
    rfl
  have joined (ok : Bool) (t : Text) {s : Text} (nonempty : s ≠ []) :
      (collectText tag ok t).insertText s = collectText tag ok (t ++ s) := by
    obtain ⟨c, s, rfl⟩ := List.exists_cons_of_ne_nil nonempty
    rw [insertText, place]
    cases t <;> rfl
  exact
    { content := fun _ _ => rfl
      outside := fun _ _ => rfl
      kept := fun _ _ => rfl
      space := fun ok t s nonempty => joined ok t nonempty
      text := fun ok t s nonempty => joined false t nonempty }

/-- The nodes of a page when everything is read. -/
def textEnd (tag : String) (t : Text) : Forest :=
  ⟨#[⟨.document, none, [1]⟩, ⟨.element .html "html" [], some 0, [2, 3]⟩,
      ⟨.element .html "head" [], some 1, []⟩, ⟨.element .html "body" [], some 1, [4, 6]⟩,
      ⟨.element .html tag [], some 3, [5]⟩, ⟨.text t, some 4, []⟩, ⟨.text ['\n'], some 3, []⟩]⟩

theorem document_textEnd (tag : String) (t : Text) :
    (textEnd tag t).document = soleDocument (.element tag [] [.text t]) := rfl

end Builder

/-- A paragraph or a heading opens with its start tag. -/
theorem reads_opening {tag : String} (known : tag ∈ textTags) (rest : Text) :
    Reads ⟨"", '<' :: ((tag ++ ">").toList ++ rest), .start⟩
      ⟨tag, rest, Builder.collectText tag true []⟩ := by
  simp only [textTags, List.mem_cons, List.not_mem_nil, or_false] at known
  rcases known with rfl | rfl | rfl | rfl | rfl | rfl | rfl <;>
    exact reads_tag (.startTag (.ofName _)) (by simp; omega) rfl rfl

/-- It closes with its end tag. -/
theorem reads_closing {tag : String} (known : tag ∈ textTags) {t : Text} (nonempty : t ≠ [])
    (ok : Bool) :
    Reads ⟨tag, '<' :: ("/" ++ tag ++ ">\n").toList, Builder.collectText tag ok t⟩
      ⟨tag, [], Builder.inPage (Builder.textEnd tag t) Builder.pageRoot [] ok false⟩ := by
  obtain ⟨c, t, rfl⟩ := List.exists_cons_of_ne_nil nonempty
  have feed : Reads ⟨tag, ['\n'],
      Builder.inPage (Builder.textForest tag (c :: t)) Builder.pageRoot [] ok false⟩
        ⟨tag, [], Builder.inPage (Builder.textEnd tag (c :: t)) Builder.pageRoot [] ok false⟩ :=
    reads_tag (.characters ['\n']) Nat.zero_lt_one rfl rfl
  refine .trans ?_ feed
  simp only [textTags, List.mem_cons, List.not_mem_nil, or_false] at known
  rcases known with rfl | rfl | rfl | rfl | rfl | rfl | rfl <;>
    exact reads_tag (.endTag (.ofName _)) (by decide) rfl rfl

/-- **A paragraph or a heading is read as its text.** -/
theorem parse_textBlock {tag : String} (known : tag ∈ textTags) {t : Text} (nonempty : t ≠ [])
    (noNull : '\x00' ∉ t) (noReturn : '\r' ∉ t) :
    parse (textBlock tag t) = Builder.soleDocument (.element tag [] [.text t]) := by
  have shape : textBlock tag t =
      '<' :: ((tag ++ ">").toList ++ (escape t ++ '<' :: ("/" ++ tag ++ ">\n").toList)) := by
    simp [textBlock]
  have plain : tag ≠ "template" := by
    rintro rfl
    exact absurd known (by decide)
  have clean : '\r' ∉ tag.toList := by
    simp only [textTags, List.mem_cons, List.not_mem_nil, or_false] at known
    rcases known with rfl | rfl | rfl | rfl | rfl | rfl | rfl <;> decide
  have escaped : '\r' ∉ escape t := fun member =>
    noReturn (mem_of_mem_escape (by decide) member)
  have kept : cleaned (textBlock tag t) = textBlock tag t := by
    rw [shape]
    exact cleaned_eq_self (by decide) (by simp [clean, escaped])
  obtain ⟨after, inside⟩ := (Builder.collects_text plain).reads_escape noNull
    ("/" ++ tag ++ ">\n").toList tag true []
  have whole := (reads_opening known _).trans (inside.trans (reads_closing known nonempty after))
  rw [← shape, ← kept] at whole
  rw [parse_of_reads whole, Builder.takeToken_eof]
  exact Builder.document_textEnd tag t

end Html

end MarkdownDialects
