import MarkdownDialects.Proofs.Markdown.Inline

/-!
# Reading code spans

A code span ends with the next run of backticks that is as long as the one it begins with
(`Markdown.codeSpan?`).  The reader notes the runs it meets on its way, but the end it finds is that
one, and a text that is nothing but a code span is read as its code
(`Markdown.Inline.ofText_codeSpan`).
-/

namespace MarkdownDialects

namespace Markdown

/-- The text up to the next run of exactly `n` backticks, and what follows the run. -/
def closing? (n : Nat) : Text → Option (Text × Text)
  | [] => none
  | c :: rest =>
    if c = '`' then
      let run := 1 + (rest.takeWhile (· == '`')).length
      let after := rest.dropWhile (· == '`')
      if run = n then some ([], after)
      else (closing? n after).map fun (inside, left) => (Text.rep run '`' ++ inside, left)
    else (closing? n rest).map fun (inside, left) => (c :: inside, left)
termination_by t => t.length
decreasing_by
  · exact Nat.lt_succ_of_le (List.dropWhile_suffix _).length_le
  · exact Nat.lt_succ_self _

/-- The code of the span that a text begins with, and what follows the span. -/
def codeSpan? (t : Text) : Option (Text × Text) :=
  let ticks := (t.takeWhile (· == '`')).length
  if ticks = 0 then none
  else (closing? ticks (t.dropWhile (· == '`'))).map fun (inside, left) =>
    (Reader.codeText inside, left)

/-- A text is a run of backticks, maybe of none, and what follows the run. -/
theorem exists_ticks (t : Text) :
    ∃ run back, t = Text.rep run '`' ++ back ∧ back.head? ≠ some '`' := by
  induction t with
  | nil => exact ⟨0, [], rfl, nofun⟩
  | cons c t ih =>
    by_cases tick : c = '`'
    · obtain ⟨run, back, rfl, ends⟩ := ih
      exact ⟨run + 1, back, by rw [tick]; rfl, ends⟩
    · exact ⟨0, c :: t, rfl, by simpa using tick⟩

section Ticks

variable {back : Text} (ends : back.head? ≠ some '`')
include ends

theorem takeWhile_ticks (run : Nat) :
    (Text.rep run '`' ++ back).takeWhile (· == '`') = Text.rep run '`' := by
  have none : back.takeWhile (· == '`') = [] := by
    cases back with
    | nil => rfl
    | cons c back => exact List.takeWhile_cons_of_neg (by simpa using ends)
  rw [List.takeWhile_append_of_pos (by simp), none, List.append_nil]

theorem dropWhile_ticks (run : Nat) :
    (Text.rep run '`' ++ back).dropWhile (· == '`') = back := by
  have all : back.dropWhile (· == '`') = back := by
    cases back with
    | nil => rfl
    | cons c back => exact List.dropWhile_cons_of_neg (by simpa using ends)
  rw [List.dropWhile_append_of_pos (by simp), all]

/-- A run of backticks closes the code exactly if it has the right length. -/
theorem closing?_ticks (n run : Nat) :
    closing? n (Text.rep (run + 1) '`' ++ back) =
      if run + 1 = n then some ([], back)
      else (closing? n back).map fun (inside, left) =>
        (Text.rep (run + 1) '`' ++ inside, left) := by
  have first : Text.rep (run + 1) '`' ++ back = '`' :: (Text.rep run '`' ++ back) := rfl
  rw [first, closing?, if_pos rfl]
  simp only [takeWhile_ticks ends, dropWhile_ticks ends, List.length_replicate, Nat.add_comm 1]

end Ticks

theorem closing?_cons (n : Nat) {c : Char} (other : c ≠ '`') (rest : Text) :
    closing? n (c :: rest) = (closing? n rest).map fun (inside, left) => (c :: inside, left) := by
  rw [closing?, if_neg other]

namespace Reader

/-- The search of the reader ends where the next run of the right length does. -/
theorem findTicks_fst (n : Nat) {fuel : Nat} {t : Text} (enough : t.length < fuel) (place : Nat)
    (runs : List (Nat × Nat)) (inside : Text) :
    (findTicks n place runs inside fuel t).1 =
      (closing? n t).map fun (front, left) => (inside.reverse ++ front, left) := by
  -- The fuel bounds what is ahead; a whole run of backticks is one step.
  induction fuel generalizing t place runs inside with
  | zero => exact absurd enough (Nat.not_lt_zero _)
  | succ fuel ih =>
    match t with
    | [] => rw [findTicks, closing?, Option.map_none]
    | c :: rest =>
      have left : rest.length < fuel := Nat.lt_of_succ_lt_succ enough
      by_cases tick : c = '`'
      · subst tick
        obtain ⟨run, back, rfl, ends⟩ := exists_ticks rest
        have shorter : back.length < fuel := by
          rw [List.length_append] at left
          omega
        have whole : '`' :: (Text.rep run '`' ++ back) = Text.rep (run + 1) '`' ++ back := rfl
        rw [findTicks, whole, closing?_ticks ends]
        simp only [takeWhile_ticks ends, dropWhile_ticks ends, List.length_replicate,
          Nat.add_comm 1]
        split
        · simp
        · simp [ih shorter, Option.map_map, Function.comp_def]
      · rw [findTicks.eq_4 _ _ _ _ _ _ _ tick, ih left, closing?_cons n tick]
        simp [Option.map_map, Function.comp_def]

/-- A span that is not longer than the reader allows is read as its code. -/
theorem readTicks_of_codeSpan? {r : Reader} (fresh : r.ticksScanned = false)
    (short : (r.rest.takeWhile (· == '`')).length ≤ maxTicks) {content left : Text}
    (found : codeSpan? r.rest = some (content, left)) :
    ∃ runs, r.readTicks =
      { ((r.goTo (r.rest.dropWhile (· == '`'))).goTo left).add (.code content) with
        tickRuns := runs } := by
  obtain ⟨-, inside, closed, rfl⟩ : (r.rest.takeWhile (· == '`')).length ≠ 0 ∧ ∃ inside,
      closing? (r.rest.takeWhile (· == '`')).length (r.rest.dropWhile (· == '`')) =
        some (inside, left) ∧ codeText inside = content := by
    simp only [codeSpan?] at found
    split at found
    · exact nomatch found
    · rename_i ticks
      simp only [Option.map_eq_some_iff, Prod.mk.injEq, Prod.exists] at found
      obtain ⟨inside, _, closed, same, rfl⟩ := found
      exact ⟨ticks, inside, closed, same⟩
  have search := findTicks_fst (r.rest.takeWhile (· == '`')).length
    (Nat.lt_succ_self (r.rest.dropWhile (· == '`')).length)
    (r.goTo (r.rest.dropWhile (· == '`'))).seen.length r.tickRuns []
  rw [closed] at search
  obtain ⟨runs, scan⟩ : ∃ runs, findTicks (r.rest.takeWhile (· == '`')).length
      (r.goTo (r.rest.dropWhile (· == '`'))).seen.length r.tickRuns []
      ((r.goTo (r.rest.dropWhile (· == '`'))).rest.length + 1)
      (r.goTo (r.rest.dropWhile (· == '`'))).rest = (some (inside, left), runs) :=
    ⟨_, Prod.ext search rfl⟩
  refine ⟨runs, ?_⟩
  have allowed : ¬ maxTicks < (r.rest.takeWhile (· == '`')).length := Nat.not_lt.mpr short
  simp only [readTicks, fresh, Bool.false_and, Bool.or_false, decide_eq_true_eq, if_neg allowed,
    scan]

end Reader

/-- **A text that is nothing but a code span is read as its code.** -/
theorem Inline.ofText_codeSpan (linkify : Bool) {t content : Text}
    (trimmed : Text.trimEndBy Ascii.isTrimmed t = t) (found : codeSpan? t = some (content, []))
    (short : (t.takeWhile (· == '`')).length ≤ Reader.maxTicks) (references : References) :
    (Inline.ofText linkify t).run references = ([.code content], references) := by
  obtain ⟨rest, rfl⟩ : ∃ rest, t = '`' :: rest := by
    cases t with
    | nil => exact nomatch found
    | cons c rest =>
      by_cases tick : c = '`'
      · exact ⟨rest, by rw [tick]⟩
      · simp [codeSpan?, tick] at found
  obtain ⟨runs, read⟩ := Reader.readTicks_of_codeSpan? (r := .ofText references ('`' :: rest)) rfl
    short found
  have whole : (Inline.ofText linkify ('`' :: rest)).run references =
      (fun r : Reader => (if linkify then
          joinTexts (Autolink.mailsInAll (Emphasis.resolve r.tokens.reverse))
        else Emphasis.resolve r.tokens.reverse, r.references))
        (Reader.readAll linkify (Text.trimEndBy Ascii.isTrimmed ('`' :: rest)).length
          (Reader.ofText references (Text.trimEndBy Ascii.isTrimmed ('`' :: rest)))) := rfl
  have first : Reader.readAll linkify ('`' :: rest).length
      (Reader.ofText references ('`' :: rest)) =
        Reader.readAll linkify rest.length (Reader.ofText references ('`' :: rest)).readTicks := rfl
  rw [whole, trimmed, first, read]
  cases rest.length <;> cases linkify <;> rfl

end Markdown

end MarkdownDialects
