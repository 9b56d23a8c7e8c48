import MarkdownDialects.Proofs.Markdown.Prose
import MarkdownDialects.Proofs.Text.PageName

/-!
# Links to pages

The name of a page is read as the target of a link, bare if there is no space in it
(`Markdown.inlineTarget?_bare`) and between angle brackets in any case
(`Markdown.inlineTarget?_angled`).  A link is no link definition
(`Markdown.Definition.read?_link`).
-/

namespace MarkdownDialects

namespace Markdown

theorem decodeReferencesFrom_of_not_mem {t : Text} (noReference : '&' ∉ t) :
    decodeReferencesFrom 0 t = t := by
  induction t with
  | nil => rfl
  | cons c t ih =>
    rw [List.mem_cons, not_or] at noReference
    rw [decodeReferencesFrom, if_neg (Ne.symm noReference.1), ih noReference.2]

theorem unescape_of_not_mem {t : Text} (noEscape : '\\' ∉ t) : unescape t = t := by
  fun_induction unescape t with
  | case1 _ _ _ _ => exact absurd List.mem_cons_self noEscape
  | case2 _ _ _ _ => exact absurd List.mem_cons_self noEscape
  | case3 c rest _ ih => rw [ih fun member => noEscape (.tail c member)]
  | case4 => rfl

/-- A text without escapes and references stands for itself. -/
theorem plainText_of_not_mem {t : Text} (noEscape : '\\' ∉ t) (noReference : '&' ∉ t) :
    plainText t = t := by
  rw [plainText, decodeReferences, decodeReferencesFrom_of_not_mem noReference,
    unescape_of_not_mem noEscape]

/-- A bare destination ends at the closing parenthesis. -/
theorem bareDestination?_append {url : Text} (named : ∀ c ∈ url, isNameChar c) (solid : ' ' ∉ url)
    (inside rest : Text) :
    bareDestination? 0 inside (url ++ ')' :: rest) = some (inside.reverse ++ url, ')' :: rest) := by
  induction url generalizing inside with
  | nil =>
    rw [List.nil_append, bareDestination?]
    · simp
    · exact fun _ _ same => absurd same (by decide)
  | cons c url ih =>
    rw [List.mem_cons, not_or] at solid
    have nameChar := named c List.mem_cons_self
    have others := ih (fun d member => named d (.tail c member)) solid.2 (c :: inside)
    have noOpen : c ≠ '(' := ne_of_isNameChar nameChar rfl
    have noClose : c ≠ ')' := ne_of_isNameChar nameChar rfl
    have noSpace := isSpace_of_isNameChar nameChar (Ne.symm solid.1)
    have noControl := isControl_of_isNameChar nameChar
    rw [List.cons_append, bareDestination?]
    · simp [noOpen, noClose, noSpace, noControl, others]
    · exact fun _ _ same => absurd same (ne_of_isNameChar nameChar rfl)

/-- A destination between angle brackets ends at the closing one. -/
theorem bracketedDestination?_append {url : Text} (named : ∀ c ∈ url, isNameChar c)
    (inside rest : Text) :
    bracketedDestination? inside (url ++ '>' :: ')' :: rest) =
      some (inside.reverse ++ url, ')' :: rest) := by
  induction url generalizing inside with
  | nil => simp [bracketedDestination?]
  | cons c url ih =>
    have nameChar := named c List.mem_cons_self
    have others := ih (fun d member => named d (.tail c member)) (c :: inside)
    have noFeed : c ≠ '\n' := ne_of_isNameChar nameChar rfl
    have noReturn : c ≠ '\r' := ne_of_isNameChar nameChar rfl
    have noOpen : c ≠ '<' := ne_of_isNameChar nameChar rfl
    rw [List.cons_append, bracketedDestination?]
    · simp [noFeed, noReturn, noOpen, others]
    · exact ne_of_isNameChar nameChar rfl
    · exact fun _ _ same => absurd same (ne_of_isNameChar nameChar rfl)

section Page

variable {name : Text} (page : IsPageName name) (rest : Text)
include page

theorem plainText_trimAscii_name : plainText (trimAscii name) = name := by
  rw [trimAscii, page.trimBy_eq fun _ => isBlank_of_isTrimmed,
    plainText_of_not_mem (page.not_mem rfl) (page.not_mem rfl)]

/-- What is read of the inside of a link, once its destination is known to be a name. -/
theorem inlineTarget?_of_destination? {inside : Text}
    (start : inside.dropWhile Ascii.isSpace = inside)
    (found : destination? inside = some (name, ')' :: rest)) :
    inlineTarget? inside = some (⟨name, []⟩, rest) := by
  have none : plainText [] = [] := rfl
  have closed : (')' :: rest).dropWhile Ascii.isSpace = ')' :: rest := rfl
  simp only [inlineTarget?, start, found, Option.bind_eq_bind, Option.bind_some, closed,
    if_true, plainText_trimAscii_name page, none]

theorem inlineTarget?_bare (solid : ' ' ∉ name) :
    inlineTarget? (name ++ ')' :: rest) = some (⟨name, []⟩, rest) := by
  obtain ⟨c, others, rfl, letter⟩ := page.exists_cons
  have named := page.chars c List.mem_cons_self
  have noSpace : c ≠ ' ' := fun same => solid (same ▸ List.mem_cons_self)
  have start : Ascii.isSpace c = false := isSpace_of_isNameChar named noSpace
  refine inlineTarget?_of_destination? page rest ?_ ?_
  · exact List.dropWhile_cons_of_neg (by simp [start])
  · rw [destination?]
    · exact bareDestination?_append page.chars solid [] rest
    · exact fun _ same => ne_of_isNameChar named rfl (List.cons.inj same).1

theorem inlineTarget?_angled :
    inlineTarget? ('<' :: name ++ '>' :: ')' :: rest) = some (⟨name, []⟩, rest) :=
  inlineTarget?_of_destination? page rest rfl (bracketedDestination?_append page.chars [] rest)

end Page

/-- A label of the characters of names ends at the closing bracket, unless it is too long. -/
theorem eq_of_labelInside?_eq_some {label rest : Text} (named : ∀ c ∈ label, isNameChar c)
    {size : Nat} {inside : Text} {found : Text × Text}
    (read : labelInside? size inside (label ++ ']' :: rest) = some found) : found.2 = rest := by
  induction label generalizing size inside with
  | nil =>
    rw [List.nil_append, labelInside?] at read
    rw [← Option.some.inj read]
  | cons c label ih =>
    have nameChar := named c List.mem_cons_self
    rw [List.cons_append, labelInside?] at read
    · split at read
      · exact absurd read.symm (Option.some_ne_none found)
      · exact ih (fun d member => named d (.tail c member)) read
    · exact ne_of_isNameChar nameChar rfl
    · exact ne_of_isNameChar nameChar rfl
    · exact fun _ _ same => absurd same (ne_of_isNameChar nameChar rfl)

/-- A link whose target is in parentheses is no link definition. -/
theorem Definition.read?_link {label : Text} (named : ∀ c ∈ label, isNameChar c) (rest : Text) :
    read? ('[' :: (label ++ ']' :: '(' :: rest)) = none := by
  have read : label? ('[' :: (label ++ ']' :: '(' :: rest)) =
      (labelInside? 0 [] (label ++ ']' :: '(' :: rest)).map fun found =>
        (trimAscii found.1, found.2) := rfl
  cases found : labelInside? 0 [] (label ++ ']' :: '(' :: rest) with
  | none =>
    rw [read?, read, found]
    rfl
  | some found' =>
    obtain ⟨inside, after⟩ := found'
    obtain rfl : after = '(' :: rest := eq_of_labelInside?_eq_some named found
    rw [read?, read, found]
    -- No colon follows the label.
    change (guard (!(trimAscii inside).isEmpty) : Option Unit).bind (fun _ => none) = none
    exact Option.bind_fun_none _

end Markdown

end MarkdownDialects
