import MarkdownDialects.Proofs.Serialize.Literal
import MarkdownDialects.Proofs.Serialize.Page
import MarkdownDialects.Proofs.Text.PageName
import MarkdownDialects.Proofs.Text.Part

/-!
# Writing links to pages

A name without low lines needs no escapes and has no white space that collapses
(`Serialize.writeText_name`), so a link that shows it is written as it was
(`Serialize.writeDocument_link`).
-/

namespace MarkdownDialects

namespace Serialize

open Html (Node)
open Html.Builder (pageDocument)

theorem collapses_of_isNameChar {c : Char} (named : isNameChar c) (solid : c ≠ ' ') :
    collapses c = false := by
  have noTab : c ≠ '\t' := ne_of_isNameChar named rfl
  have noReturn : c ≠ '\r' := ne_of_isNameChar named rfl
  have noFeed : c ≠ '\n' := ne_of_isNameChar named rfl
  simp [collapses, solid, noTab, noReturn, noFeed]

theorem isSolid_name {name : Text} (page : IsPageName name) : IsSolid name := by
  have inside {c : Char} (member : c ∈ name) : isOuter c = false := by
    have other {d : Char} (none : isNameChar d = false) : c ≠ d :=
      ne_of_isNameChar (page.chars c member) none
    simp [isOuter, other (d := '\n') rfl, other (d := '\r') rfl, other (d := '\t') rfl]
  exact ⟨page.ne_nil, fun _ first => inside (List.mem_of_mem_head? first),
    fun _ final => inside (List.mem_of_getLast? final)⟩

section Name

variable {name : Text} (page : IsPageName name) (noLow : '_' ∉ name)
include page noLow

/-- Nothing in a name needs an escape, if there are no low lines in it. -/
theorem escape_name : escape name = name := by
  have plain : ∀ c ∈ name, isMarkup c = false := by
    intro c member
    have low : c ≠ '_' := fun same => noLow (same ▸ member)
    have other {d : Char} (none : isNameChar d = false) : c ≠ d :=
      ne_of_isNameChar (page.chars c member) none
    simp [isMarkup, low, other (d := '\\') rfl, other (d := '*') rfl, other (d := '`') rfl,
      other (d := '[') rfl, other (d := ']') rfl]
  obtain ⟨c, rest, rfl, letter⟩ := page.exists_cons
  exact escape_eq_self plain fun d first => .inl (Option.some.inj first ▸ letter)

theorem writeText_name : writeText name ⟨true, false⟩ = (name, ⟨false, false⟩) := by
  have first : name.head? ≠ some ' ' := by
    obtain ⟨c, rest, rfl, letter⟩ := page.exists_cons
    have solid : c ≠ ' ' := Line.ne_of_isAlpha letter rfl
    simpa using solid
  have last : name.getLast? ≠ some ' ' := by
    intro space
    have alphanum := page.last
    rw [space] at alphanum
    exact Bool.noConfusion alphanum
  have single : ∀ c ∈ name, c ≠ ' ' → collapses c = false := fun c member =>
    collapses_of_isNameChar (page.chars c member)
  rw [writeText_of_spaced page.ne_nil single page.spaced first last, escape_name page noLow]

end Name

/-- The fragment of a link. -/
theorem link_eq (content : Text) {address : Text} (noOpen : '(' ∉ address)
    (noClose : ')' ∉ address) :
    link ⟨"a", [⟨"href", address⟩]⟩ content =
      ['['] ++ content ++ "](".toList ++ address ++ [')'] := by
  have read : link ⟨"a", [⟨"href", address⟩]⟩ content =
      '[' :: content ++ "](".toList ++
        Text.replaceChar ')' ['\\', ')'] (Text.replaceChar '(' ['\\', '('] address) ++ [] ++
          [')'] := rfl
  rw [read, Text.replaceChar_of_not_mem noOpen, Text.replaceChar_of_not_mem noClose,
    List.append_nil]
  rfl

/-- **A link that shows a name is written as it was.** -/
theorem writeDocument_link (options : SerializeOptions) {name address : Text}
    (page : IsPageName name) (noLow : '_' ∉ name) (noOpen : '(' ∉ address)
    (noClose : ')' ∉ address) :
    writeDocument options ElementRule.defaults (pageDocument "p" (.link address) name) =
      ['['] ++ name ++ "](".toList ++ address ++ [')'] := by
  have target := link_eq name noOpen noClose
  have solid : IsSolid (['['] ++ name ++ "](".toList ++ address ++ [')']) :=
    isSolid_of_ends rfl rfl _
  have trimmed : Text.trim (['['] ++ name ++ "](".toList ++ address ++ [')']) =
      ['['] ++ name ++ "](".toList ++ address ++ [')'] := Text.trimBy_of_ends rfl rfl _
  generalize ['['] ++ name ++ "](".toList ++ address ++ [')'] = t at target solid trimmed ⊢
  have shown : isBlankText (.text name) = false := by
    obtain ⟨c, rest, rfl, letter⟩ := page.exists_cons
    simp [isBlankText, Text.isAllBlank, Line.isBlank_of_isAlpha letter]
  have text : writeNode options ElementRule.defaults "a" (.text name) ⟨true, false⟩ =
      (name, ⟨false, false⟩) := writeText_name page noLow
  have content : writeChildren options ElementRule.defaults "a" true [.text name] ⟨true, false⟩ [] =
      (name, ⟨false, false⟩) := by
    simp only [writeChildren, shown, text, Bool.false_and, Bool.false_eq_true, if_false]
    rw [join_nil_solid (isSolid_name page)]
  have inner : writeNode options ElementRule.defaults "p"
      (.element "a" [⟨"href", address⟩] [.text name]) ⟨true, false⟩ = (t, ⟨false, false⟩) := by
    rw [← target]
    exact congrArg (fun written => (link ⟨"a", [⟨"href", address⟩]⟩ written.1, written.2)) content
  have written : writeNode options ElementRule.defaults "body"
      (.element "p" [] [.element "a" [⟨"href", address⟩] [.text name]]) ⟨true, false⟩ =
        (block t, ⟨true, false⟩) := by
    have read : writeNode options ElementRule.defaults "body"
        (.element "p" [] [.element "a" [⟨"href", address⟩] [.text name]]) ⟨true, false⟩ =
          (fun written => (block (Text.trim (join [] written.1)), written.2.dropping true))
            (writeNode options ElementRule.defaults "p"
              (.element "a" [⟨"href", address⟩] [.text name]) ⟨true, false⟩) := rfl
    rw [read, inner]
    dsimp only
    rw [join_nil_solid solid, trimmed]
    rfl
  exact writeDocument_sole rfl solid written

end Serialize

end MarkdownDialects
