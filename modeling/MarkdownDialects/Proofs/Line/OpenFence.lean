import MarkdownDialects.Proofs.Line.Kind
import MarkdownDialects.Proofs.Text.Lines

/-!
# The fence that is open

Reading line by line, a fence is opened by a fence delimiter and closed by a long enough run of the
same character.  Which fence is open behind a text is all that the lines before it mean to the lines
behind it (`Fence.behind_append_feed`), and white space around a text does not change it
(`Fence.behind_trimBy`).
-/

namespace MarkdownDialects

namespace Fence

theorem of_ofLine?_eq_some {line : Text} {fence : Fence} (found : ofLine? line = some fence) :
    (fence.mark = '`' ∨ fence.mark = '~') ∧ 3 ≤ fence.length ∧
      fence.length = runLength fence.mark (Text.trim line) := by
  obtain ⟨mark, member, run⟩ := List.exists_of_findSome?_eq_some found
  dsimp only at run
  split at run
  next long =>
    cases run
    exact ⟨List.mem_pair.mp member, long, rfl⟩
  next => exact nomatch run

/-- The fence that is open behind a line, given the one that is open before it. -/
def behindLine : Option Fence → Text → Option Fence
  | none, line => ofLine? line
  | some fence, line => if fence.closedBy line then none else some fence

/-- The fence that is open behind some lines. -/
def behindLines (opened : Option Fence) (ls : List Text) : Option Fence :=
  ls.foldl behindLine opened

/-- The fence that is open behind a text. -/
def behind (opened : Option Fence) (t : Text) : Option Fence := behindLines opened (Text.lines t)

theorem behindLine_none (line : Text) : behindLine none line = ofLine? line := rfl

theorem behindLines_cons (opened : Option Fence) (line : Text) (ls : List Text) :
    behindLines opened (line :: ls) = behindLines (behindLine opened line) ls := rfl

theorem behindLines_append (opened : Option Fence) (ls ms : List Text) :
    behindLines opened (ls ++ ms) = behindLines (behindLines opened ls) ms := List.foldl_append

/-- White space around a line does not count. -/
theorem behindLine_congr {line other : Text} (same : Text.trim line = Text.trim other)
    (opened : Option Fence) : behindLine opened line = behindLine opened other := by
  have read : ofLine? line = ofLine? other := by rw [ofLine?, ofLine?, same]
  cases opened with
  | none => exact read
  | some fence => rw [behindLine, behindLine, closedBy, closedBy, read, same]

/-- A fence stays open across code none of whose lines closes it. -/
theorem behindLines_of_not_closedBy {fence : Fence} {ls : List Text}
    (stays : ∀ line ∈ ls, fence.closedBy line = false) :
    behindLines (some fence) ls = some fence := by
  induction ls with
  | nil => rfl
  | cons line ls ih =>
    have step : behindLine (some fence) line = some fence := by
      rw [behindLine, stays line List.mem_cons_self, if_neg Bool.false_ne_true]
    rw [behindLines_cons, step]
    exact ih fun other member => stays other (.tail _ member)

theorem behind_of_not_mem {line : Text} (clean : '\n' ∉ line) (opened : Option Fence) :
    behind opened line = behindLine opened line := by
  rw [behind, Text.lines_of_not_mem clean]
  rfl

/-- The lines before a line feed, then those behind it. -/
theorem behind_append_feed (opened : Option Fence) (front rest : Text) :
    behind opened (front ++ '\n' :: rest) = behind (behind opened front) rest := by
  rw [behind, Text.lines_append_feed, behindLines_append]
  rfl

theorem behind_nil (opened : Option Fence) : behind opened [] = opened := by
  cases opened <;> rfl

section Blank

variable {c : Char} (blank : Text.isBlank c)
include blank

theorem behind_cons (opened : Option Fence) (t : Text) :
    behind opened (c :: t) = behind opened t := by
  by_cases feed : c = '\n'
  · subst feed
    exact (behind_append_feed opened [] t).trans (by rw [behind_nil])
  · obtain ⟨line, clean, whole⟩ := Text.exists_first_line t
    have longer : '\n' ∉ c :: line := by simp [clean, Ne.symm feed]
    have same : behind opened (c :: line) = behind opened line := by
      rw [behind_of_not_mem longer, behind_of_not_mem clean]
      exact behindLine_congr (Text.trimBy_cons_of_pos blank line) opened
    rcases whole with rfl | ⟨rest, rfl⟩
    · exact same
    · rw [← List.cons_append, behind_append_feed, same, behind_append_feed]

theorem behind_concat (opened : Option Fence) (t : Text) :
    behind opened (t ++ [c]) = behind opened t := by
  by_cases feed : c = '\n'
  · subst feed
    rw [behind_append_feed, behind_nil]
  · obtain ⟨line, clean, whole⟩ := Text.exists_last_line t
    have longer : '\n' ∉ line ++ [c] := by simp [clean, Ne.symm feed]
    have same (opened : Option Fence) : behind opened (line ++ [c]) = behind opened line := by
      rw [behind_of_not_mem longer, behind_of_not_mem clean]
      exact behindLine_congr (Text.trimBy_concat_of_pos blank line) opened
    rcases whole with rfl | ⟨front, rfl⟩
    · exact same opened
    · rw [List.append_assoc, List.cons_append, behind_append_feed, same, behind_append_feed]

end Blank

/-- White space behind a text does not count. -/
theorem behind_append_of_blank {back : Text} (blank : ∀ c ∈ back, Text.isBlank c)
    (opened : Option Fence) (t : Text) : behind opened (t ++ back) = behind opened t := by
  induction back generalizing t with
  | nil => rw [List.append_nil]
  | cons c back ih =>
    rw [← List.singleton_append, ← List.append_assoc, ih fun d member => blank d (.tail _ member),
      behind_concat (blank c List.mem_cons_self)]

theorem behind_append_of_blank_left {front : Text} (blank : ∀ c ∈ front, Text.isBlank c)
    (opened : Option Fence) (t : Text) : behind opened (front ++ t) = behind opened t := by
  induction front with
  | nil => rfl
  | cons c front ih =>
    rw [List.cons_append, behind_cons (blank c List.mem_cons_self),
      ih fun d member => blank d (.tail _ member)]

section Trim

variable {p : Char → Bool} (blank : ∀ c, p c → Text.isBlank c)
include blank

theorem behind_trimStartBy (opened : Option Fence) (t : Text) :
    behind opened (Text.trimStartBy p t) = behind opened t := by
  conv_rhs => rw [← List.takeWhile_append_dropWhile (p := p) (l := t)]
  exact (behind_append_of_blank_left
    (fun c member => blank c (List.all_eq_true.mp List.all_takeWhile c member)) opened _).symm

theorem behind_trimEndBy (opened : Option Fence) (t : Text) :
    behind opened (Text.trimEndBy p t) = behind opened t := by
  obtain ⟨back, dropped, whole⟩ := Text.exists_trimEndBy_append p t
  conv_rhs => rw [whole]
  exact (behind_append_of_blank (fun c member => blank c (dropped c member)) opened _).symm

/-- White space around a text does not count. -/
theorem behind_trimBy (opened : Option Fence) (t : Text) :
    behind opened (Text.trimBy p t) = behind opened t := by
  rw [Text.trimBy, behind_trimEndBy blank, behind_trimStartBy blank]

end Trim

/-- White space at the end of a text does not count. -/
theorem behind_congr {t other : Text} (same : Text.trimEnd t = Text.trimEnd other)
    (opened : Option Fence) : behind opened t = behind opened other := by
  have trimmed (t : Text) : behind opened (Text.trimEnd t) = behind opened t :=
    behind_trimEndBy (fun _ blank => blank) opened t
  rw [← trimmed t, same, trimmed]

end Fence

end MarkdownDialects
