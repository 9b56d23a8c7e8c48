import MarkdownDialects.Proofs.Serialize.Literal
import MarkdownDialects.Proofs.Serialize.Page
import MarkdownDialects.Proofs.Text.Part

/-!
# Writing a block of text

A paragraph of printed text is written as the escaped text (`Serialize.writeDocument_paragraph`),
and a heading as the escaped text behind its `#`s (`Serialize.writeDocument_heading`).
-/

namespace MarkdownDialects

namespace Serialize

open Html.Builder (soleDocument)

section Printed

variable {t : Text} (printed : IsPrinted t) (literal : IsLiteral t)
include printed literal

theorem trimBy_escape {p : Char → Bool} (blank : ∀ c, p c → Text.isBlank c)
    (kept : p '\\' = false) :
    Text.trimBy p (escape t) = escape t :=
  (escapes_escape literal (printed.not_mem rfl)).trimBy_eq kept (printed.trimBy_eq blank)

theorem not_mem_escape {c : Char} (other : isPrintable c = false) : c ∉ escape t := by
  intro member
  rcases (escapes_escape literal (printed.not_mem rfl)).mem member with rfl | inside
  · exact Bool.noConfusion other
  · exact printed.not_mem other inside

theorem escape_ne_nil : escape t ≠ [] := fun empty =>
  printed.nonempty ((escapes_escape literal (printed.not_mem rfl)).eq_nil_iff.mp empty)

theorem isSolid_escape : IsSolid (escape t) := by
  have inside {c : Char} (member : c ∈ escape t) : isOuter c = false := by
    rw [Bool.eq_false_iff]
    intro outer
    simp only [isOuter, Bool.or_eq_true, beq_iff_eq] at outer
    rcases outer with (rfl | rfl) | rfl <;>
      exact not_mem_escape printed literal rfl member
  exact ⟨escape_ne_nil printed literal, fun _ first => inside (List.mem_of_mem_head? first),
    fun _ last => inside (List.mem_of_getLast? last)⟩

/-- The content of an element with a printed text is the escaped text. -/
theorem writeChildren_printed (options : SerializeOptions) (tag : String) :
    writeChildren options ElementRule.defaults tag true [.text t] ⟨true, false⟩ [] =
      (escape t, ⟨false, false⟩) := by
  -- The white space is single spaces between words, so that collapsing it changes nothing.
  have single : ∀ c ∈ t, c ≠ ' ' → collapses c = false := by
    intro c member solid
    rw [Bool.eq_false_iff]
    intro collapsed
    simp only [collapses, Bool.or_eq_true, beq_iff_eq, solid, false_or] at collapsed
    rcases collapsed with (rfl | rfl) | rfl <;> exact printed.not_mem rfl member
  have first : t.head? ≠ some ' ' := fun space => Bool.noConfusion (printed.first _ space)
  have last : t.getLast? ≠ some ' ' := fun space => Bool.noConfusion (printed.last _ space)
  have text : writeNode options ElementRule.defaults tag (.text t) ⟨true, false⟩ =
      (escape t, ⟨false, false⟩) :=
    writeText_of_spaced printed.nonempty single printed.spaced first last
  have shown : isBlankText (.text t) = false := by
    obtain ⟨c, rest, rfl⟩ := List.exists_cons_of_ne_nil printed.nonempty
    simp [isBlankText, Text.isAllBlank, printed.first c rfl]
  simp only [writeChildren, shown, text, Bool.false_and, Bool.false_eq_true, if_false]
  rw [join_nil_solid (isSolid_escape printed literal)]

theorem trim_escape : Text.trim (escape t) = escape t :=
  trimBy_escape printed literal (fun _ blank => blank) rfl

/-- **A paragraph of printed text is written as the escaped text.** -/
theorem writeDocument_paragraph (options : SerializeOptions) :
    writeDocument options ElementRule.defaults (soleDocument (.element "p" [] [.text t])) =
      escape t := by
  have written : writeNode options ElementRule.defaults "body" (.element "p" [] [.text t])
      ⟨true, false⟩ = (block (escape t), ⟨true, false⟩) := by
    have read : writeNode options ElementRule.defaults "body" (.element "p" [] [.text t])
        ⟨true, false⟩ =
          (fun written => (block (Text.trim written.1), written.2.dropping true))
            (writeChildren options ElementRule.defaults "p" true [.text t] ⟨true, false⟩ []) := rfl
    rw [read, writeChildren_printed printed literal]
    dsimp only
    rw [trim_escape printed literal]
    rfl
  exact writeDocument_sole rfl (isSolid_escape printed literal) written

/-- **A heading of printed text is written as the escaped text behind its `#`s.** -/
theorem writeDocument_heading {options : SerializeOptions} (atx : options.headingStyle = .atx)
    {level : Nat} (positive : 1 ≤ level) (low : level ≤ 6) :
    writeDocument options ElementRule.defaults
        (soleDocument (.element (Markdown.Render.headingTag level) [] [.text t])) =
      Text.rep level '#' ++ ' ' :: escape t := by
  have known : level = 1 ∨ level = 2 ∨ level = 3 ∨ level = 4 ∨ level = 5 ∨ level = 6 := by omega
  have content : heading .atx level (escape t) = block (Text.rep level '#' ++ ' ' :: escape t) := by
    rw [heading, trim_escape printed literal,
      Text.replaceChar_of_not_mem (not_mem_escape printed literal rfl)]
    rfl
  have solid : IsSolid (Text.rep level '#' ++ ' ' :: escape t) := by
    obtain ⟨n, rfl⟩ := Nat.exists_eq_add_of_le' positive
    refine ⟨by simp, ?_, fun c last => (isSolid_escape printed literal).last c ?_⟩
    · rintro c ⟨⟩
      rfl
    · have shown := escape_ne_nil printed literal
      rwa [List.getLast?_append_of_ne_nil _ (List.cons_ne_nil _ _),
        List.getLast?_cons_of_ne_nil shown] at last
  have written : writeNode options ElementRule.defaults "body"
      (.element (Markdown.Render.headingTag level) [] [.text t]) ⟨true, false⟩ =
        (block (Text.rep level '#' ++ ' ' :: escape t), ⟨true, false⟩) := by
    have read : writeNode options ElementRule.defaults "body"
        (.element (Markdown.Render.headingTag level) [] [.text t]) ⟨true, false⟩ =
          (fun written => (heading options.headingStyle level written.1, written.2.dropping true))
            (writeChildren options ElementRule.defaults (Markdown.Render.headingTag level) true
              [.text t] ⟨true, false⟩ []) := by
      rcases known with rfl | rfl | rfl | rfl | rfl | rfl <;> rfl
    rw [read, writeChildren_printed printed literal, atx]
    dsimp only
    rw [content]
    rfl
  refine writeDocument_sole ?_ solid written
  rcases known with rfl | rfl | rfl | rfl | rfl | rfl <;> rfl

end Printed

end Serialize

end MarkdownDialects
