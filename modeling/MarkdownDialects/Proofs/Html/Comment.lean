import MarkdownDialects.Html.Lexer
import MarkdownDialects.Proofs.Text.Mark

/-!
# Where a comment ends

A comment ends at the first `-->` or `--!>` behind its start, so what is written between the marks
of a comment is read as its text exactly if it holds neither (`Html.Lexer.next_comment_iff`).
-/

namespace MarkdownDialects

namespace Html

namespace Lexer

/-- A text begins with an end mark of comments. -/
def EndsComment (t : Text) : Prop := "-->".toList <+: t ∨ "--!>".toList <+: t

theorem commentText_of_endsComment {t : Text} (ends : EndsComment t) : (commentText t).1 = [] := by
  rcases ends with ⟨rest, rfl⟩ | ⟨rest, rfl⟩ <;> rfl

/-- A character that begins no end mark belongs to the comment. -/
theorem commentText_cons {c : Char} {t : Text} (long : 3 ≤ t.length)
    (goesOn : ¬ EndsComment (c :: t)) :
    commentText (c :: t) = (shown c :: (commentText t).1, (commentText t).2) := by
  unfold EndsComment at goesOn
  rw [commentText.eq_def]
  split
  -- A comment that breaks off within an end mark is shorter.
  all_goals simp_all

/-- No end mark runs from a text into the end mark behind it. -/
theorem endsComment_append_iff {c : Char} {s rest : Text} :
    EndsComment (c :: (s ++ "-->".toList ++ rest)) ↔ EndsComment (c :: s) := by
  rcases s with _ | ⟨d, _ | ⟨e, _ | ⟨f, s⟩⟩⟩ <;> simp [EndsComment]

/-- **A comment is read as its text** exactly if no end mark is in it. -/
theorem commentText_append_iff (s rest : Text) :
    commentText (s ++ "-->".toList ++ rest) = (s.map shown, rest) ↔
      ¬ "-->".toList <:+: s ∧ ¬ "--!>".toList <:+: s := by
  induction s with
  | nil =>
    have ends : commentText ("-->".toList ++ rest) = ([], rest) := rfl
    rw [List.nil_append, ends]
    exact iff_of_true rfl (by decide)
  | cons c s ih =>
    rw [List.cons_append, List.cons_append, List.infix_cons_iff, List.infix_cons_iff]
    by_cases ends : EndsComment (c :: s)
    · have nothing : (commentText (c :: (s ++ "-->".toList ++ rest))).1 = [] :=
        commentText_of_endsComment (endsComment_append_iff.mpr ends)
      refine iff_of_false (fun read => ?_) fun missing => ?_
      · rw [read] at nothing
        exact nomatch nothing
      · exact ends.elim (missing.1 ∘ .inl) (missing.2 ∘ .inl)
    · have goesOn : ¬ EndsComment (c :: (s ++ "-->".toList ++ rest)) :=
        fun found => ends (endsComment_append_iff.mp found)
      have long : 3 ≤ (s ++ "-->".toList ++ rest).length := by
        simp only [List.length_append]
        exact Nat.le_add_right_of_le (Nat.le_add_left 3 _)
      rw [commentText_cons long goesOn, List.map_cons, Prod.mk.injEq, List.cons.injEq]
      unfold EndsComment at ends
      rw [not_or] at ends
      simp only [ends.1, ends.2, false_or, true_and]
      rw [← ih, Prod.ext_iff]

/-- Behind its start a comment is read as text, unless an end mark follows at once in part. -/
theorem next_comment (last : String) (foreign : Bool) {c : Char} {t : Text} (bracket : c ≠ '>')
    (dash : c ≠ '-') :
    next .data last foreign ("<!--".toList ++ c :: t) =
      (some (.comment (commentText (c :: t)).1), (commentText (c :: t)).2) := by
  have text : comment (c :: t) = commentText (c :: t) := by
    unfold comment
    split
    · rename_i same
      exact absurd (List.cons.inj same).1 bracket
    · rename_i same
      exact absurd (List.cons.inj same).1 dash
    · rfl
  rw [← text]
  rfl

/-- **A comment is one token with its whole text** exactly if no end mark is in it. -/
theorem next_comment_iff (last : String) (foreign : Bool) {c : Char} {s rest : Text}
    (bracket : c ≠ '>') (dash : c ≠ '-') :
    next .data last foreign ("<!--".toList ++ (c :: s ++ "-->".toList ++ rest)) =
        (some (.comment ((c :: s).map shown)), rest) ↔
      ¬ "-->".toList <:+: c :: s ∧ ¬ "--!>".toList <:+: c :: s := by
  rw [← commentText_append_iff, List.cons_append, List.cons_append, next_comment _ _ bracket dash,
    Prod.ext_iff, Prod.ext_iff, Option.some.injEq, Token.comment.injEq]

end Lexer

end Html

end MarkdownDialects
