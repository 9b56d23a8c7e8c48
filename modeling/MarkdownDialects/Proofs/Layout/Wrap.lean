import MarkdownDialects.Layout.Wrap
import MarkdownDialects.Proofs.Text.Words

/-!
# What filling lines keeps

The lines that hold the words of a paragraph are nonempty rows of words, so each of them is shown,
contains no line feed, and reads back as its words.
-/

namespace MarkdownDialects

namespace Wrap

/-- A word is carried down from a line that keeps at least one other word. -/
theorem carry?_eq_some_iff {current line : List Text} {last : Text} :
    carry? current = some (line, last) ↔
      line ≠ [] ∧ canLead last ∧ line ++ [last] = current := by
  constructor
  · intro carried
    refine ⟨?_, ?_, carry?_append carried⟩
    · rintro rfl
      have alone : [last] = current := carry?_append carried
      subst alone
      exact absurd carried (by simp [carry?])
    · unfold carry? at carried
      split at carried
      · split at carried
        · split at carried
          · rename_i leads
            cases carried
            exact leads
          · exact absurd carried (by simp)
        · exact absurd carried (by simp)
      · exact absurd carried (by simp)
  · rintro ⟨nonempty, leads, rfl⟩
    obtain ⟨first, others, rfl⟩ := List.exists_cons_of_ne_nil nonempty
    have long : ∃ second more, first :: others ++ [last] = first :: second :: more := by
      cases others with
      | nil => exact ⟨last, [], rfl⟩
      | cons second more => exact ⟨second, more ++ [last], rfl⟩
    obtain ⟨second, more, whole⟩ := long
    have ends : (first :: second :: more).getLast? = some last := by
      rw [← whole, List.getLast?_concat]
    have front : (first :: second :: more).dropLast = first :: others := by
      rw [← whole, List.dropLast_concat]
    rw [whole]
    simp only [carry?, ends, leads, if_true, front]

/-- Filling never puts out an empty line. -/
theorem ne_nil_of_mem_fill {width : Nat} {current words line : List Text}
    (member : line ∈ fill width current words) : line ≠ [] := by
  fun_induction fill width current words with
  | case1 => exact absurd member List.not_mem_nil
  | case2 current shown =>
    rw [List.mem_singleton.mp member]
    simpa using shown
  | case3 _ _ ih => exact ih member
  | case4 _ _ _ _ _ ih => exact ih member
  | case5 first others _ _ _ _ ih =>
    rcases List.mem_cons.mp member with rfl | member
    · exact List.cons_ne_nil first others
    · exact ih member
  | case6 _ _ _ _ _ _ kept last carried ih =>
    rcases List.mem_cons.mp member with rfl | member
    · exact (carry?_eq_some_iff.mp carried).1
    · exact ih member
  | case7 _ _ _ _ _ _ _ ih => exact ih member

theorem lineWidth_concat {row : List Text} (nonempty : row ≠ []) (word : Text) :
    lineWidth (row ++ [word]) = lineWidth row + 1 + word.length := by
  unfold lineWidth
  induction row with
  | nil => exact absurd rfl nonempty
  | cons first others ih =>
    cases others with
    | nil => simp; omega
    | cons second others =>
      have later := ih (List.cons_ne_nil second others)
      simp only [List.cons_append, Text.unwords_cons_cons, List.length_append,
        List.length_cons] at later ⊢
      omega

/-- What is never carried down stays at the front of the first row: a single word, or words of which
the last may not lead. -/
theorem isPrefix_fill (width : Nat) {kept current : List Text} (words : List Text)
    (nonempty : kept ≠ [])
    (stays : kept.length = 1 ∨ ∀ last ∈ kept.getLast?, canLead last = false)
    (front : kept <+: current) :
    ∃ row rest, fill width current words = row :: rest ∧ kept <+: row := by
  -- Only the last word of a row is ever taken from it, and never the last of what is kept.
  fun_induction fill width current words with
  | case1 current none =>
    rw [List.isEmpty_iff.mp none] at front
    exact absurd (List.prefix_nil.mp front) nonempty
  | case2 current _ => exact ⟨current, [], rfl, front⟩
  | case3 word rest ih => exact absurd (List.prefix_nil.mp front) nonempty
  | case4 first others word rest _ ih => exact ih (front.trans (List.prefix_append _ _))
  | case5 first others word rest _ _ _ => exact ⟨_, _, rfl, front⟩
  | case6 first others word rest _ _ line last carried _ =>
    obtain ⟨some, leads, whole⟩ := carry?_eq_some_iff.mp carried
    refine ⟨line, _, rfl, ?_⟩
    rw [← whole, List.prefix_concat_iff] at front
    refine front.resolve_left ?_
    rintro rfl
    rcases stays with single | stays
    · simp [some] at single
    · exact Bool.noConfusion ((stays last (by simp)).symm.trans leads)
  | case7 first others word rest _ _ _ ih => exact ih (front.trans (List.prefix_append _ _))

@[simp]
theorem flatten_lines (width : Nat) (words : List Text) : (lines width words).flatten = words :=
  flatten_fill width [] words

variable {width : Nat} {words : List Text} (all : ∀ w ∈ words, Text.IsWord w)
include all

/-- The words of every line are words. -/
theorem isWord_of_mem_lines {row : List Text} (member : row ∈ lines width words) :
    ∀ w ∈ row, Text.IsWord w := by
  intro w inside
  apply all
  rw [← flatten_lines width words]
  exact List.mem_flatten.mpr ⟨row, member, inside⟩

/-- The lines read back as the words they were filled from. -/
theorem flatMap_words_lines :
    ((lines width words).map Text.unwords).flatMap Text.words = words := by
  have read : (lines width words).map (Text.words ∘ Text.unwords) = (lines width words).map id :=
    List.map_congr_left fun row member => Text.words_unwords (isWord_of_mem_lines all member)
  rw [List.flatMap_def, List.map_map, read, List.map_id, flatten_lines]

/-- No line is blank. -/
theorem isAllBlank_of_mem_lines {line : Text}
    (member : line ∈ (lines width words).map Text.unwords) : Text.isAllBlank line = false := by
  obtain ⟨row, inside, rfl⟩ := List.mem_map.mp member
  have read : Text.words (Text.unwords row) = row :=
    Text.words_unwords (isWord_of_mem_lines all inside)
  rw [Bool.eq_false_iff]
  intro blank
  rw [(Text.words_eq_nil_iff _).mpr blank] at read
  exact ne_nil_of_mem_fill inside read.symm

/-- No line contains a line feed. -/
theorem feed_not_mem_of_mem_lines {line : Text}
    (member : line ∈ (lines width words).map Text.unwords) : '\n' ∉ line := by
  obtain ⟨row, inside, rfl⟩ := List.mem_map.mp member
  exact Text.feed_not_mem_unwords (isWord_of_mem_lines all inside)

end Wrap

end MarkdownDialects
