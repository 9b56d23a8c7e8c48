import MarkdownDialects.Proofs.Text.Mark
import MarkdownDialects.Proofs.Text.Trim

/-!
# Words and lines read back

A word is a nonempty text without white space.  Reading the words of a text gives words only, and
words that are written with one space between neighbours are read back unchanged
(`Text.words_unwords`).  A text has no words exactly when it is white space only
(`Text.words_eq_nil_iff`).
-/

namespace MarkdownDialects

namespace Text

/-- A nonempty text without white space. -/
def IsWord (w : Text) : Prop := w ≠ [] ∧ ∀ c ∈ w, isBlank c = false

instance : DecidablePred IsWord := fun w =>
  decidable_of_iff (w ≠ [] ∧ w.all fun c => !isBlank c) (by simp [IsWord])

/-- The pieces of a split hold what was split, but none of what was split on. -/
theorem of_mem_splitOnP {α : Type} {p : α → Bool} {t piece : List α}
    (member : piece ∈ t.splitOnP p) : ∀ c ∈ piece, c ∈ t ∧ p c = false := by
  induction t generalizing piece with
  | nil =>
    rw [List.splitOnP_nil, List.mem_singleton] at member
    subst member
    intro c inside
    exact absurd inside List.not_mem_nil
  | cons d t ih =>
    have later {other : List α} (member : other ∈ t.splitOnP p) :
        ∀ c ∈ other, c ∈ d :: t ∧ p c = false := fun c inside =>
      ⟨List.mem_cons_of_mem d (ih member c inside).1, (ih member c inside).2⟩
    rw [List.splitOnP_cons_eq_if_modifyHead] at member
    by_cases separator : p d
    · rw [if_pos separator, List.mem_cons] at member
      rcases member with rfl | member
      · intro c inside
        exact absurd inside List.not_mem_nil
      · exact later member
    · obtain ⟨first, others, split⟩ := List.exists_cons_of_ne_nil (List.splitOnP_ne_nil p t)
      rw [if_neg separator, split, List.modifyHead_cons, List.mem_cons] at member
      rcases member with rfl | member
      · intro c inside
        rcases List.mem_cons.mp inside with rfl | inside
        · exact ⟨List.mem_cons_self, Bool.eq_false_iff.mpr separator⟩
        · exact later (split ▸ List.mem_cons_self) c inside
      · exact later (split ▸ List.mem_cons_of_mem _ member)

/-- What holds of every piece of a split, and of what was split on, holds of the whole. -/
theorem all_of_splitOnP {p q : Char → Bool} (covers : ∀ c, p c → q c) {t : Text}
    (kept : ∀ piece ∈ t.splitOnP p, piece.all q) : t.all q := by
  induction t with
  | nil => rfl
  | cons c t ih =>
    rw [List.splitOnP_cons_eq_if_modifyHead] at kept
    rw [List.all_cons, Bool.and_eq_true]
    by_cases separator : p c
    · rw [if_pos separator] at kept
      exact ⟨covers c separator, ih fun piece member => kept piece (.tail _ member)⟩
    · obtain ⟨first, others, split⟩ := List.exists_cons_of_ne_nil (List.splitOnP_ne_nil p t)
      rw [if_neg separator, split, List.modifyHead_cons] at kept
      have front := kept (c :: first) List.mem_cons_self
      rw [List.all_cons, Bool.and_eq_true] at front
      refine ⟨front.1, ih fun piece member => ?_⟩
      rcases List.mem_cons.mp (split ▸ member) with rfl | member
      · exact front.2
      · exact kept piece (.tail _ member)

theorem isWord_of_mem_words {t w : Text} (member : w ∈ words t) : IsWord w := by
  obtain ⟨piece, shown⟩ := List.mem_filter.mp member
  exact ⟨by simpa using shown, fun c inside => (of_mem_splitOnP piece c inside).2⟩

theorem subset_of_mem_words {t w : Text} (member : w ∈ words t) : w ⊆ t := fun c inside =>
  (of_mem_splitOnP (List.mem_filter.mp member).1 c inside).1

@[simp]
theorem words_nil : words [] = [] := rfl

/-- Words do not run across white space. -/
theorem words_append_blank {c : Char} (blank : isBlank c) (s t : Text) :
    words (s ++ c :: t) = words s ++ words t := by
  unfold words
  rw [List.splitOnP_append_cons s t blank, List.filter_append]

theorem words_cons_blank {c : Char} (blank : isBlank c) (t : Text) : words (c :: t) = words t :=
  words_append_blank blank [] t

theorem unlines_cons_cons (line next : Text) (ls : List Text) :
    unlines (line :: next :: ls) = line ++ '\n' :: unlines (next :: ls) := by
  simp only [List.intercalate_cons_cons, List.append_assoc, List.singleton_append]

theorem words_unlines (ls : List Text) : words (unlines ls) = ls.flatMap words := by
  induction ls with
  | nil => rfl
  | cons line ls ih =>
    cases ls with
    | nil => simp
    | cons next ls =>
      rw [unlines_cons_cons, words_append_blank (by decide), List.flatMap_cons, ← ih]

theorem words_of_isWord {w : Text} (word : IsWord w) : words w = [w] := by
  unfold words
  rw [List.splitOnP_eq_singleton word.2]
  simp [word.1]

@[simp]
theorem unwords_singleton (w : Text) : unwords [w] = w := List.intercalate_singleton

theorem unwords_cons_cons (w v : Text) (ws : List Text) :
    unwords (w :: v :: ws) = w ++ ' ' :: unwords (v :: ws) := by
  simp only [List.intercalate_cons_cons, List.append_assoc, List.singleton_append]

/-- Words with one space between neighbours are read back. -/
theorem words_unwords {ws : List Text} (all : ∀ w ∈ ws, IsWord w) : words (unwords ws) = ws := by
  induction ws with
  | nil => rfl
  | cons w ws ih =>
    have word : IsWord w := all w List.mem_cons_self
    have others : words (unwords ws) = ws :=
      ih fun v member => all v (List.mem_cons_of_mem _ member)
    cases ws with
    | nil => rw [unwords_singleton, words_of_isWord word]
    | cons v ws =>
      rw [unwords_cons_cons, words_append_blank (by decide), words_of_isWord word, others]
      rfl

/-- The spaces between words are the only ones. -/
theorem splitOn_unwords {ws : List Text} (nonempty : ws ≠ []) (all : ∀ w ∈ ws, IsWord w) :
    (unwords ws).splitOn ' ' = ws :=
  List.splitOn_intercalate ' '
    (fun w member inside => absurd ((all w member).2 ' ' inside) (by decide)) nonempty

theorem map_words_map_unwords {rows : List (List Text)} (all : ∀ row ∈ rows, ∀ w ∈ row, IsWord w) :
    (rows.map unwords).map words = rows := by
  rw [List.map_map]
  exact (List.map_congr_left fun row member => words_unwords (all row member)).trans
    (List.map_id rows)

/-- Rows of words can be told apart by the lines they make. -/
theorem map_unwords_inj {rows others : List (List Text)}
    (all : ∀ row ∈ rows, ∀ w ∈ row, IsWord w) (also : ∀ row ∈ others, ∀ w ∈ row, IsWord w) :
    rows.map unwords = others.map unwords ↔ rows = others := by
  refine ⟨fun same => ?_, congrArg _⟩
  rw [← map_words_map_unwords all, same, map_words_map_unwords also]

/-- What may follow a word: nothing, or white space first. -/
def EndsWord (after : Text) : Prop := ∀ c ∈ after.head?, isBlank c = true

/-- The word that a text begins with is read first. -/
theorem words_append_of_isWord {word after : Text} (isWord : IsWord word) (ends : EndsWord after) :
    words (word ++ after) = word :: words after := by
  cases after with
  | nil => rw [List.append_nil, words_of_isWord isWord, words_nil]
  | cons b rest =>
    have blank : isBlank b = true := ends b rfl
    rw [words_append_blank blank, words_of_isWord isWord, words_cons_blank blank,
      List.singleton_append]

/-- A text that begins with something shown begins with a word. -/
theorem exists_leading_word {c : Char} (shown : isBlank c = false) (t : Text) :
    ∃ word after, c :: t = word ++ after ∧ IsWord word ∧ EndsWord after := by
  refine ⟨c :: t.takeWhile fun d => !isBlank d, t.dropWhile fun d => !isBlank d, ?_, ?_, ?_⟩
  · rw [List.cons_append, List.takeWhile_append_dropWhile]
  · refine ⟨List.cons_ne_nil _ _, ?_⟩
    intro d member
    rcases List.mem_cons.mp member with rfl | member
    · exact shown
    · simpa using List.all_eq_true.mp List.all_takeWhile d member
  · intro d first
    have stops := List.head?_dropWhile_not (fun d => !isBlank d) t
    rw [Option.mem_def.mp first] at stops
    simpa using stops

/-- The word that a text begins with, and what follows it, are determined by the text. -/
theorem leading_word_unique {word other after rest : Text} (isWord : IsWord word)
    (ends : EndsWord after) (isOther : IsWord other) (otherEnds : EndsWord rest)
    (same : word ++ after = other ++ rest) : word = other ∧ after = rest := by
  have taken {w s : Text} (isWord : IsWord w) (ends : EndsWord s) :
      (w ++ s).takeWhile (fun c => !isBlank c) = w := by
    rw [List.takeWhile_append_of_pos (by simpa using isWord.2)]
    cases s with
    | nil => rw [List.takeWhile_nil, List.append_nil]
    | cons b s => rw [List.takeWhile_cons_of_neg (by simp [ends b rfl]), List.append_nil]
  have words : word = other := by rw [← taken isWord ends, same, taken isOther otherEnds]
  subst words
  exact ⟨rfl, List.append_cancel_left same⟩

/-- A mark without white space that a text begins with lies within its first word. -/
theorem isPrefix_word_of_isPrefix {mark word after : Text} (ends : EndsWord after)
    (solid : IsWord mark) (found : mark <+: word ++ after) : mark <+: word := by
  cases after with
  | nil => rwa [List.append_nil] at found
  | cons b rest =>
    refine isPrefix_of_isPrefix_append_cons (a := b) ?_ found
    intro inside
    exact Bool.noConfusion ((solid.2 b inside).symm.trans (ends b rfl))

/-- A mark without white space lies within some word of a text that contains it. -/
theorem isInfix_iff_words {mark t : Text} (solid : IsWord mark) :
    mark <:+: t ↔ ∃ w ∈ words t, mark <:+: w := by
  -- Word by word: the mark does not run across the white space that ends a word.
  induction length : t.length using Nat.strong_induction_on generalizing t with
  | _ n ih =>
    subst length
    cases t with
    | nil => simp [solid.1]
    | cons c t =>
      by_cases blank : isBlank c
      · have outside : c ∉ mark := fun inside => by simp [solid.2 c inside] at blank
        have cut : mark <:+: c :: t ↔ mark <:+: [] ∨ mark <:+: t :=
          isInfix_append_cons_iff (s := []) outside
        rw [words_cons_blank blank, cut, List.infix_nil, or_iff_right solid.1]
        exact ih t.length (by simp) rfl
      · obtain ⟨word, after, split, isWord, ends⟩ :=
          exists_leading_word (Bool.eq_false_iff.mpr blank) t
        rw [split, words_append_of_isWord isWord ends]
        cases after with
        | nil => simp
        | cons b rest =>
          have blank : isBlank b = true := ends b rfl
          have outside : b ∉ mark := fun inside => by simp [solid.2 b inside] at blank
          have shorter : rest.length < (c :: t).length := by simp [split]; omega
          rw [isInfix_append_cons_iff outside, words_cons_blank blank, ih rest.length shorter rfl]
          simp

/-- A text has no words exactly when it is white space only. -/
theorem words_eq_nil_iff (t : Text) : words t = [] ↔ isAllBlank t := by
  induction t with
  | nil => simp [isAllBlank]
  | cons c t ih =>
    by_cases blank : isBlank c
    · rw [words_cons_blank blank, ih]
      simp [isAllBlank, blank]
    · obtain ⟨first, others, split⟩ := List.exists_cons_of_ne_nil (List.splitOnP_ne_nil isBlank t)
      unfold words
      rw [List.splitOnP_cons_eq_if_modifyHead, if_neg blank, split]
      simp [isAllBlank, blank]

theorem feed_not_mem_unwords {ws : List Text} (all : ∀ w ∈ ws, IsWord w) : '\n' ∉ unwords ws := by
  induction ws with
  | nil => exact List.not_mem_nil
  | cons w ws ih =>
    have clean : '\n' ∉ w := fun member =>
      absurd ((all w List.mem_cons_self).2 '\n' member) (by decide)
    have others : '\n' ∉ unwords ws := ih fun v member => all v (List.mem_cons_of_mem _ member)
    cases ws with
    | nil => rwa [unwords_singleton]
    | cons v ws =>
      rw [unwords_cons_cons, List.mem_append, List.mem_cons, not_or, not_or]
      exact ⟨clean, by decide, others⟩

/-- A character of parts that stand in a row belongs to a part or to what stands between them. -/
theorem mem_intercalate {sep : Text} {parts : List Text} {c : Char}
    (member : c ∈ sep.intercalate parts) : c ∈ sep ∨ ∃ part ∈ parts, c ∈ part := by
  induction parts with
  | nil => exact absurd member (by simp)
  | cons part parts ih =>
    cases parts with
    | nil =>
      rw [List.intercalate_singleton] at member
      exact .inr ⟨part, List.mem_cons_self, member⟩
    | cons next parts =>
      rw [List.intercalate_cons_cons, List.append_assoc, List.mem_append, List.mem_append] at member
      rcases member with inside | between | later
      · exact .inr ⟨part, List.mem_cons_self, inside⟩
      · exact .inl between
      · exact (ih later).imp_right fun ⟨other, present, inside⟩ =>
          ⟨other, List.mem_cons_of_mem part present, inside⟩

/-- Words in a row start and end with something shown. -/
theorem trim_unwords {ws : List Text} (all : ∀ w ∈ ws, IsWord w) :
    trim (unwords ws) = unwords ws := by
  apply trimBy_intercalate
  intro w member
  have word := all w member
  rw [trimBy_eq_self_iff, trimStartBy_eq_self_iff, trimEndBy_eq_self_iff]
  exact ⟨word.1, fun c first => word.2 c (List.mem_of_head? first),
    fun c last => word.2 c (List.mem_of_getLast? last)⟩

theorem feed_not_mem_of_mem_lines {t line : Text} (member : line ∈ lines t) : '\n' ∉ line := by
  intro inside
  simpa using (of_mem_splitOnP (p := (· == '\n')) member '\n' inside).2

/-- Lines with a line feed behind each of them. -/
def terminated (ls : List Text) : Text := ls.flatMap (· ++ ['\n'])

theorem terminated_cons (line : Text) (ls : List Text) :
    terminated (line :: ls) = line ++ '\n' :: terminated ls := by
  rw [terminated, List.flatMap_cons, List.append_assoc, List.singleton_append]
  rfl

theorem terminated_eq_unlines {ls : List Text} (nonempty : ls ≠ []) :
    terminated ls = unlines ls ++ ['\n'] := by
  induction ls with
  | nil => exact absurd rfl nonempty
  | cons line ls ih =>
    rw [terminated_cons]
    cases ls with
    | nil => rw [unlines, List.intercalate_singleton]; rfl
    | cons next ls =>
      rw [ih (List.cons_ne_nil next ls), unlines_cons_cons, List.append_assoc, List.cons_append]

/-- Lines put together are read back, as long as there is one and none holds a line feed. -/
theorem lines_unlines {ls : List Text} (nonempty : ls ≠ []) (clean : ∀ line ∈ ls, '\n' ∉ line) :
    lines (unlines ls) = ls :=
  List.splitOn_intercalate '\n' clean nonempty

end Text

end MarkdownDialects
