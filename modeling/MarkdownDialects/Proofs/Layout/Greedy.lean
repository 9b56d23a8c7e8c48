import Mathlib.Data.List.Chain
import MarkdownDialects.Proofs.Layout.Wrap

/-!
# How wrapped lines end

Lines are filled as far as they go, and block syntax keeps them from starting with some words.  A
row runs over the width only with words that may not lead a line and could not take the word before
them down with them (`Wrap.IsBound`), and a row ends only where the next one could not have begun
later (`Wrap.EndsBefore`).  Every row that filling puts out is of the first kind, and every two
neighbours are of the second (`Wrap.isBound_of_mem_fill`, `Wrap.isChain_fill`).
-/

namespace MarkdownDialects

namespace Wrap

/-- A row whose words beyond the width are bound to it: none of them may lead a line, nor may the
word before it, unless that is the first of the row. -/
def IsBound (width : Nat) (row : List Text) : Prop :=
  ∀ front before word back, row = front ++ before :: word :: back →
    width < lineWidth (front ++ [before, word]) →
      canLead word = false ∧ (front = [] ∨ canLead before = false)

/-- A row that ends before the next one: the first word of the next one may lead a line, and it does
not fit behind the row, or it is carried down by the word behind it. -/
def EndsBefore (width : Nat) (row next : List Text) : Prop :=
  ∃ first rest, next = first :: rest ∧ canLead first ∧
    (width < lineWidth row + 1 + first.length ∨
      ∃ second more, rest = second :: more ∧ canLead second = false ∧
        width < lineWidth row + 1 + first.length + 1 + second.length)

variable {width : Nat}

theorem isBound_nil : IsBound width [] := fun _ _ _ _ split => by simp at split

theorem isBound_singleton (word : Text) : IsBound width [word] := by
  intro front before other back split
  cases front with
  | nil => exact nomatch split
  | cons first front => simp at split

/-- The front of a bound row is bound. -/
theorem IsBound.of_append {row more : List Text} (bound : IsBound width (row ++ more)) :
    IsBound width row := by
  rintro front before word back rfl wide
  exact bound front before word (back ++ more) (by simp) wide

/-- A word may be put behind a row if it fits or is bound to the row. -/
theorem IsBound.concat {row : List Text} {word : Text} (bound : IsBound width row)
    (kept : ∀ front before, row = front ++ [before] → width < lineWidth (row ++ [word]) →
      canLead word = false ∧ (front = [] ∨ canLead before = false)) :
    IsBound width (row ++ [word]) := by
  intro front before other back split wide
  rcases List.eq_nil_or_concat back with rfl | ⟨back, last, rfl⟩
  · -- the word itself
    have same : row ++ [word] = front ++ [before] ++ [other] := by rw [split]; simp
    obtain ⟨whole, ends⟩ := List.append_inj' same rfl
    obtain rfl : word = other := by simpa using ends
    refine kept front before whole ?_
    rw [whole]
    simpa using wide
  · -- a word before it
    have same : row ++ [word] = front ++ before :: other :: back ++ [last] := by rw [split]; simp
    obtain ⟨rfl, _⟩ := List.append_inj' same rfl
    exact bound front before other back rfl wide

/-- Only a row of one word, or of which the last word may not lead, has nothing to carry down. -/
theorem carry?_eq_none {front : List Text} {before : Text}
    (none : carry? (front ++ [before]) = none) : front = [] ∨ canLead before = false := by
  by_contra either
  rw [not_or, Bool.not_eq_false] at either
  have carried : carry? (front ++ [before]) = some (front, before) :=
    carry?_eq_some_iff.mpr ⟨either.1, either.2, rfl⟩
  rw [none] at carried
  exact nomatch carried

/-- **Every row that filling puts out is bound**, if the row it starts from is. -/
theorem isBound_of_mem_fill {current words row : List Text} (bound : IsBound width current)
    (member : row ∈ fill width current words) : IsBound width row := by
  -- The invariant is about the row that is being filled: the others are never touched again.
  fun_induction fill width current words with
  | case1 => exact absurd member List.not_mem_nil
  | case2 current _ =>
    rw [List.mem_singleton.mp member]
    exact bound
  | case3 word rest ih => exact ih (isBound_singleton word) member
  | case4 first others word rest fits ih =>
    refine ih (bound.concat fun front before _ wide => ?_) member
    rw [lineWidth_concat (List.cons_ne_nil first others)] at wide
    exact absurd fits (Nat.not_le.mpr wide)
  | case5 first others word rest _ leads ih =>
    rcases List.mem_cons.mp member with rfl | member
    · exact bound
    · exact ih (isBound_singleton word) member
  | case6 first others word rest _ stays line last carried ih =>
    obtain ⟨_, _, whole⟩ := carry?_eq_some_iff.mp carried
    rcases List.mem_cons.mp member with rfl | member
    · exact IsBound.of_append (whole ▸ bound)
    · refine ih ((isBound_singleton last).concat fun front before split _ => ?_) member
      have alone : front = [] := by
        cases front with
        | nil => rfl
        | cons head tail => simp at split
      exact ⟨Bool.eq_false_iff.mpr stays, .inl alone⟩
  | case7 first others word rest _ stays none ih =>
    refine ih (bound.concat fun front before split _ => ?_) member
    rw [split] at none
    exact ⟨Bool.eq_false_iff.mpr stays, carry?_eq_none none⟩

/-- **Every row that filling puts out ends before the one behind it.** -/
theorem isChain_fill (width : Nat) (current words : List Text) :
    (fill width current words).IsChain (EndsBefore width) := by
  -- A row ends in two places, and in both what begins the next row stays at its front.
  fun_induction fill width current words with
  | case1 => exact List.isChain_nil
  | case2 current _ => exact List.isChain_singleton current
  | case3 _ _ ih => exact ih
  | case4 _ _ _ _ _ ih => exact ih
  | case5 first others word rest long leads ih =>
    obtain ⟨row, rows, begun, more, rfl⟩ :=
      isPrefix_fill width rest (List.cons_ne_nil word []) (.inl rfl) (List.prefix_refl [word])
    rw [begun] at ih ⊢
    exact List.isChain_cons_cons.mpr ⟨⟨word, more, rfl, leads, .inl (Nat.not_le.mp long)⟩, ih⟩
  | case6 first others word rest long stays line last carried ih =>
    obtain ⟨nonempty, leads, whole⟩ := carry?_eq_some_iff.mp carried
    have glued : canLead word = false := Bool.eq_false_iff.mpr stays
    obtain ⟨row, rows, begun, more, rfl⟩ := isPrefix_fill width rest
      (List.cons_ne_nil last [word]) (.inr (by simpa using glued)) (List.prefix_refl [last, word])
    rw [← whole, lineWidth_concat nonempty] at long
    rw [begun] at ih ⊢
    refine List.isChain_cons_cons.mpr ⟨⟨last, word :: more, rfl, leads, .inr ?_⟩, ih⟩
    exact ⟨word, more, rfl, glued, Nat.not_le.mp long⟩
  | case7 _ _ _ _ _ _ _ ih => exact ih

/-- Every element of a chain but the first stands behind another one. -/
theorem exists_rel_of_mem_tail {α : Type} {R : α → α → Prop} {l : List α} (chain : l.IsChain R)
    {b : α} (member : b ∈ l.tail) : ∃ a, R a b := by
  induction l with
  | nil => exact absurd member List.not_mem_nil
  | cons a rest ih =>
    cases rest with
    | nil => exact absurd member List.not_mem_nil
    | cons next rest =>
      obtain ⟨related, chain⟩ := List.isChain_cons_cons.mp chain
      rcases List.mem_cons.mp member with rfl | member
      · exact ⟨a, related⟩
      · exact ih chain member

/-- **The law of wrapped lines.**  The words of the lines are the words that were wrapped, in order.
Every line but the first begins with a word that may lead.  A line runs over the width only with
words that may not lead, behind its first word or behind another such word.  And where a line ends,
the first word of the next one does not fit behind it, or the second one may not lead and does not
fit behind both. -/
theorem lines_break_greedily (width : Nat) {words : List Text} (all : ∀ w ∈ words, Text.IsWord w) :
    let written := (lines width words).map Text.unwords
    written.flatMap (·.splitOn ' ') = words ∧
    (∀ line ∈ written.tail, ∃ first rest, line.splitOn ' ' = first :: rest ∧ canLead first) ∧
    (∀ line ∈ written, ∀ front before word back,
      line.splitOn ' ' = front ++ before :: word :: back →
        width < (Text.unwords (front ++ [before, word])).length →
          canLead word = false ∧ (front = [] ∨ canLead before = false)) ∧
    (∀ above line next below, written = above ++ line :: next :: below →
      ∃ first rest, next.splitOn ' ' = first :: rest ∧
        (width < line.length + 1 + first.length ∨
          ∃ second more, rest = second :: more ∧ canLead second = false ∧
            width < line.length + 1 + first.length + 1 + second.length)) := by
  intro written
  have read : ∀ row ∈ lines width words, (Text.unwords row).splitOn ' ' = row := fun row member =>
    Text.splitOn_unwords (ne_nil_of_mem_fill member) (isWord_of_mem_lines all member)
  have chain : (lines width words).IsChain (EndsBefore width) := isChain_fill width [] words
  refine ⟨?_, ?_, ?_, ?_⟩
  · rw [List.flatMap_map, List.flatMap_def, List.map_congr_left read, List.map_id',
      flatten_lines]
  · intro line member
    rw [← List.map_tail] at member
    obtain ⟨row, later, rfl⟩ := List.mem_map.mp member
    obtain ⟨_, first, rest, rfl, leads, _⟩ := exists_rel_of_mem_tail chain later
    exact ⟨first, rest, read _ (List.mem_of_mem_tail later), leads⟩
  · intro line member front before word back split wide
    obtain ⟨row, inside, rfl⟩ := List.mem_map.mp member
    rw [read row inside] at split
    exact isBound_of_mem_fill isBound_nil inside front before word back split wide
  · intro above line next below split
    obtain ⟨rows, _, whole, _, behind⟩ := List.map_eq_append_iff.mp split
    obtain ⟨row, _, rfl, rfl, others⟩ := List.map_eq_cons_iff.mp behind
    obtain ⟨_, _, rfl, rfl, _⟩ := List.map_eq_cons_iff.mp others
    obtain ⟨first, rest, rfl, _, ends⟩ :=
      List.isChain_iff_forall_rel_of_append_cons_cons.mp chain whole
    exact ⟨first, rest, read _ (by rw [whole]; simp), ends⟩

/-- A word that is carried down by a mark, and a second mark that runs over the width behind it. -/
theorem lines_break_greedily_at_two_marks :
    let words := ["aa".toList, "bb".toList, ['#'], "1.".toList, "cc".toList]
    let written := (lines 5 words).map Text.unwords
    (∀ w ∈ words, Text.IsWord w) ∧
    written = ["aa".toList, "bb # 1.".toList, "cc".toList] ∧
    written.flatMap (·.splitOn ' ') = words ∧
    (5 < (Text.unwords ["bb".toList, ['#'], "1.".toList]).length ∧
      canLead "1.".toList = false ∧ canLead ['#'] = false) ∧
    (∃ first rest, "bb # 1.".toList.splitOn ' ' = first :: rest ∧
      (5 < "aa".toList.length + 1 + first.length ∨
        ∃ second more, rest = second :: more ∧ canLead second = false ∧
          5 < "aa".toList.length + 1 + first.length + 1 + second.length)) := by
  intro words written
  have all : ∀ w ∈ words, Text.IsWord w := by decide
  have shown : written = ["aa".toList, "bb # 1.".toList, "cc".toList] := by decide
  have wide : 5 < (Text.unwords ["bb".toList, ['#'], "1.".toList]).length := by decide
  obtain ⟨kept, _, beyond, ends⟩ := lines_break_greedily 5 all
  have member : "bb # 1.".toList ∈ written := by rw [shown]; simp
  obtain ⟨glued, stuck⟩ := beyond "bb # 1.".toList member ["bb".toList] ['#'] "1.".toList []
    (by decide) wide
  refine ⟨all, shown, kept, ⟨wide, glued, stuck.resolve_left (by simp)⟩, ?_⟩
  exact ends [] "aa".toList "bb # 1.".toList ["cc".toList] shown

end Wrap

end MarkdownDialects
