import MarkdownDialects.Proofs.Markdown.Caption
import MarkdownDialects.Proofs.Markdown.LinkSyntax
import MarkdownDialects.Proofs.Markdown.Render
import MarkdownDialects.Proofs.Markdown.SoleLine

/-!
# Links to pages as HTML

Between the brackets of a link a name without low lines means itself.  So a link that shows such a
name is read as a link with that text, whatever its destination (`Markdown.Inline.ofText_link`), and
a document that is nothing but the link becomes one paragraph (`Markdown.render_link`).
-/

namespace MarkdownDialects

namespace Markdown

/-- A link that shows a label, as it is written. -/
def linkSyntax (label destination : Text) : Text :=
  '[' :: (label ++ "](".toList ++ destination ++ [')'])

/-- A name without low lines means itself between the brackets of a link. -/
theorem isCaptionBehind_of_isNameChar {label : Text} (named : ∀ c ∈ label, isNameChar c)
    (noLow : '_' ∉ label) (seen : Text) : isCaptionBehind seen label := by
  induction label generalizing seen with
  | nil => rfl
  | cons c label ih =>
    rw [List.mem_cons, not_or] at noLow
    have other {d : Char} (none : isNameChar d = false) : c ≠ d :=
      ne_of_isNameChar (named c List.mem_cons_self) none
    have plain : isPlainBetween seen c label := by
      simp [isPlainBetween, isDelimiter, Ne.symm noLow.1, other (d := '&') rfl,
        other (d := '<') rfl, other (d := '\\') rfl, other (d := '*') rfl, other (d := '~') rfl,
        other (d := '`') rfl, other (d := '[') rfl, other (d := ']') rfl, other (d := '\n') rfl,
        other (d := '\r') rfl, other (d := '\x00') rfl]
    exact Bool.and_eq_true_iff.mpr
      ⟨plain, ih (fun d member => named d (.tail c member)) noLow.2 (c :: seen)⟩

/-- **A link that shows a name is read as a link with that text.** -/
theorem Inline.ofText_link (linkify : Bool) {label destination : Text}
    (named : ∀ c ∈ label, isNameChar c) (noLow : '_' ∉ label) (nonempty : label ≠ [])
    {target : Target} (found : inlineTarget? (destination ++ [')']) = some (target, []))
    {t : Text} (trimmed : Text.trimEndBy Ascii.isTrimmed t = linkSyntax label destination)
    (references : References) :
    (Inline.ofText linkify t).run references =
      ([.link target [.text label]], references) := by
  have absent {c : Char} (other : isNameChar c = false) : c ∉ label := fun member =>
    Bool.noConfusion (other.symm.trans (named c member))
  have shape : linkSyntax label destination =
      Reader.opening false ++ (label ++ ']' :: '(' :: (destination ++ [')'])) := by
    simp [linkSyntax, Reader.opening]
  have read := Inline.ofText_captioned linkify false (isCaptionBehind_of_isNameChar named noLow _)
    (by simp) (fun member => absurd member (absent rfl)) (fun member => absurd member (absent rfl))
    found (trimmed.trans shape) references
  cases label with
  | nil => exact absurd rfl nonempty
  | cons c label => exact read

/-- A link is a document of one paragraph. -/
theorem Document.ofText_link {label destination : Text} (named : ∀ c ∈ label, isNameChar c)
    (noFeed : '\n' ∉ destination) (noReturn : '\r' ∉ destination)
    (noNull : '\x00' ∉ destination) :
    Document.ofText (linkSyntax label destination) =
      ⟨[.paragraph (linkSyntax label destination ++ ['\n'])], []⟩ := by
  have shape : linkSyntax label destination =
      '[' :: (label ++ ']' :: '(' :: (destination ++ [')'])) := by
    simp [linkSyntax]
  have absent {c : Char} (other : isNameChar c = false) (syntactic : c ∉ "[]()".toList)
      (outside : c ∉ destination) : c ∉ linkSyntax label destination := by
    have inside : c ∉ label := fun member => Bool.noConfusion (other.symm.trans (named c member))
    simp at syntactic
    simp [linkSyntax, syntactic, inside, outside]
  have sole : IsSoleLine (linkSyntax label destination) :=
    ⟨shape ▸ List.cons_ne_nil _ _, absent rfl (by decide) noFeed, absent rfl (by decide) noReturn,
      absent rfl (by decide) noNull⟩
  have undefined : Definition.read? (linkSyntax label destination ++ ['\n']) = none := by
    have same : linkSyntax label destination ++ ['\n'] =
        '[' :: (label ++ ']' :: '(' :: (destination ++ [')', '\n'])) := by
      simp [shape]
    rw [same]
    exact Definition.read?_link named (destination ++ [')', '\n'])
  have bare : Outline.LineState.IsBare (linkSyntax label destination) :=
    shape ▸ Outline.LineState.isBare_cons (by decide) rfl _
  exact ofText_bare sole bare (by simp [shape]) undefined

/-- **A link that shows a name becomes a link with that name.** -/
theorem render_link {options : RenderOptions} (raw : options.html) {name destination : Text}
    (page : IsPageName name) (noLow : '_' ∉ name)
    (found : inlineTarget? (destination ++ [')']) = some (⟨name, []⟩, []))
    (noFeed : '\n' ∉ destination) (noReturn : '\r' ∉ destination)
    (noNull : '\x00' ∉ destination) :
    render options (linkSyntax name destination) =
      "<p><a href=\"".toList ++ (Html.escapeAddress name ++ "\">".toList ++
        (Html.escape name ++ "</a></p>\n".toList)) := by
  have document := Document.ofText_link page.chars noFeed noReturn noNull
  have trimmed : Text.trimEndBy Ascii.isTrimmed (linkSyntax name destination ++ ['\n']) =
      linkSyntax name destination := by
    have feed : ∀ c ∈ ['\n'], Ascii.isTrimmed c := List.forall_mem_singleton.mpr rfl
    rw [Text.trimEndBy_append feed]
    exact Text.trimEndBy_concat rfl ('[' :: (name ++ "](".toList ++ destination))
  have address : Render.address options name = Html.escapeAddress name := by
    rw [Render.address, raw, Bool.true_or, if_pos rfl]
  have inner : Render.inlines options [.link ⟨name, []⟩ [.text name]] =
      "<a href=\"".toList ++ (Html.escapeAddress name ++ "\">".toList ++
        (Html.escape name ++ "</a>".toList)) := by
    have written : Render.inlines options [.link ⟨name, []⟩ [.text name]] =
        "<a href=\"".toList ++ Render.address options name ++ ['"'] ++ [] ++ ['>'] ++
          (Html.escape name ++ []) ++ "</a>".toList ++ [] := rfl
    rw [written, address]
    simp
  rw [render_of_paragraph document
    (Inline.ofText_link options.linkify page.chars noLow page.ne_nil found trimmed), inner]
  simp

end Markdown

end MarkdownDialects
