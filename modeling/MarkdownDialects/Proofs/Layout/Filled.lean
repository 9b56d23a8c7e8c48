import MarkdownDialects.Proofs.Layout.Paragraphs

/-!
# Lines that are filled already

Wrapping fills lines greedily, so rows of words are what it gives exactly when each row fits, and
the next word does not fit behind it (`Wrap.lines_eq_iff_isFilled`).  A paragraph stays as it is
when it is written that way (`rewrap_of_isFilled`).  Among words all of which may lead a line it
stays only then (`rewrap_eq_self_iff`).
-/

namespace MarkdownDialects

namespace Wrap

/-- A row that a word ends: the word may lead the next row, and it does not fit behind this one. -/
def EndsAt (width : Nat) (row : List Text) (word : Text) : Prop :=
  canLead word ∧ width < lineWidth row + 1 + word.length

instance (width : Nat) (row : List Text) : DecidablePred (EndsAt width row) := fun word =>
  inferInstanceAs (Decidable (canLead word ∧ width < lineWidth row + 1 + word.length))

/-- Rows of words that are filled to a width: each fits or is a single word, and the first word of
the next row ends it. -/
def IsFilled (width : Nat) : List (List Text) → Prop
  | [] => True
  | row :: rest =>
    (row ≠ [] ∧ (row.length = 1 ∨ lineWidth row ≤ width)) ∧
      (∀ word ∈ rest.head?.bind List.head?, EndsAt width row word) ∧ IsFilled width rest

theorem isFilled_cons_iff {width : Nat} {row : List Text} {rest : List (List Text)} :
    IsFilled width (row :: rest) ↔
      (row ≠ [] ∧ (row.length = 1 ∨ lineWidth row ≤ width)) ∧
        (∀ word ∈ rest.head?.bind List.head?, EndsAt width row word) ∧ IsFilled width rest :=
  Iff.rfl

instance decidableIsFilled (width : Nat) : DecidablePred (IsFilled width)
  | [] => inferInstanceAs (Decidable True)
  | row :: rest =>
    have := decidableIsFilled width rest
    inferInstanceAs (Decidable ((row ≠ [] ∧ (row.length = 1 ∨ lineWidth row ≤ width)) ∧
      (∀ word ∈ rest.head?.bind List.head?, EndsAt width row word) ∧ IsFilled width rest))

theorem lineWidth_le_append {row : List Text} (nonempty : row ≠ []) (more : List Text) :
    lineWidth row ≤ lineWidth (row ++ more) := by
  induction more generalizing row with
  | nil => rw [List.append_nil]
  | cons word more ih =>
    calc lineWidth row ≤ lineWidth (row ++ [word]) := by rw [lineWidth_concat nonempty]; omega
      _ ≤ lineWidth (row ++ [word] ++ more) := ih (by simp)
      _ = lineWidth (row ++ word :: more) := by rw [List.append_assoc]; rfl

/-- A row is filled word by word, and then the next one is begun. -/
theorem fill_of_isFilled {width : Nat} {current more : List Text} {rest : List (List Text)}
    (nonempty : current ≠ []) (filled : IsFilled width ((current ++ more) :: rest)) :
    fill width current (more ++ rest.flatten) = (current ++ more) :: rest := by
  -- First along the row that is being filled, then row by row.
  have along {rest : List (List Text)} (behind : ∀ current, current ≠ [] →
      IsFilled width (current :: rest) → fill width current rest.flatten = current :: rest) :
      ∀ more current, current ≠ [] → IsFilled width ((current ++ more) :: rest) →
        fill width current (more ++ rest.flatten) = (current ++ more) :: rest := by
    intro more
    induction more with
    | nil =>
      intro current nonempty filled
      rw [List.append_nil] at filled ⊢
      exact behind current nonempty filled
    | cons word more ih =>
      intro current nonempty filled
      have split : current ++ word :: more = current ++ [word] ++ more := by simp
      have single : (current ++ word :: more).length ≠ 1 := by
        have positive := List.length_pos_iff.mpr nonempty
        simp only [List.length_append, List.length_cons]
        omega
      have room : lineWidth current + 1 + word.length ≤ width := by
        rw [← lineWidth_concat nonempty]
        refine (lineWidth_le_append (by simp) more).trans ?_
        rw [← split]
        exact filled.1.2.resolve_left single
      obtain ⟨first, others, rfl⟩ := List.exists_cons_of_ne_nil nonempty
      rw [List.cons_append, fill, if_pos room, split]
      exact ih _ (by simp) (split ▸ filled)
  induction rest generalizing current more with
  | nil =>
    refine along ?_ more current nonempty filled
    intro current shown _
    simp [fill, shown]
  | cons row rest ih =>
    refine along ?_ more current nonempty filled
    intro current shown ⟨_, full, later⟩
    obtain ⟨word, others, rfl⟩ := List.exists_cons_of_ne_nil later.1.1
    obtain ⟨leads, long⟩ := full word rfl
    obtain ⟨first, words, rfl⟩ := List.exists_cons_of_ne_nil shown
    have next := ih (List.cons_ne_nil word [])
      (show IsFilled width (([word] ++ others) :: rest) from later)
    rw [List.flatten_cons, List.cons_append, fill, if_neg (by omega), if_pos leads, next,
      List.singleton_append]

/-- The first word of what is filled is the first word there was. -/
theorem head?_head?_fill {width : Nat} {current words : List Text} {first : Text}
    (begins : current.head? = some first) :
    ((fill width current words).head?.bind List.head?) = some first := by
  obtain ⟨others, rfl⟩ := List.head?_eq_some_iff.mp begins
  have front : [first] <+: first :: others := List.prefix_append [first] others
  obtain ⟨row, rest, begun, more, rfl⟩ :=
    isPrefix_fill width words (List.cons_ne_nil first []) (.inl rfl) front
  rw [begun]
  rfl

/-- What filling puts out is filled, as long as every word may lead a line. -/
theorem isFilled_fill {width : Nat} {current words : List Text}
    (lead : ∀ word ∈ words, canLead word)
    (room : current.length ≤ 1 ∨ lineWidth current ≤ width) :
    IsFilled width (fill width current words) := by
  fun_induction fill width current words with
  | case1 => trivial
  | case2 current shown =>
    have nonempty : current ≠ [] := by simpa using shown
    have positive := List.length_pos_iff.mpr nonempty
    exact ⟨⟨nonempty, room.imp_left (by omega)⟩, fun _ begins => by simp at begins, trivial⟩
  | case3 word rest ih => exact ih (fun other member => lead other (.tail _ member)) (.inl le_rfl)
  | case4 first others word rest fits ih =>
    refine ih (fun other member => lead other (.tail _ member)) (.inr ?_)
    rw [lineWidth_concat (List.cons_ne_nil first others)]
    exact fits
  | case5 first others word rest long leads ih =>
    refine ⟨⟨List.cons_ne_nil first others, room.imp_left (by simp)⟩, ?_, ?_⟩
    · intro next begins
      rw [head?_head?_fill (show [word].head? = some word from rfl)] at begins
      obtain rfl := Option.some.inj begins
      exact ⟨leads, by omega⟩
    · exact ih (fun other member => lead other (.tail _ member)) (.inl le_rfl)
  | case6 first others word rest _ stays => exact absurd (lead word List.mem_cons_self) stays
  | case7 first others word rest _ stays => exact absurd (lead word List.mem_cons_self) stays

/-- Rows that are filled are what filling makes of their words. -/
theorem lines_of_isFilled {width : Nat} {rows : List (List Text)} (filled : IsFilled width rows) :
    lines width rows.flatten = rows := by
  cases rows with
  | nil => rfl
  | cons row rest =>
    obtain ⟨word, others, rfl⟩ := List.exists_cons_of_ne_nil filled.1.1
    have built := fill_of_isFilled (List.cons_ne_nil word [])
      (show IsFilled width (([word] ++ others) :: rest) from filled)
    exact built

/-- **Greedy filling.**  Rows of words that may lead a line are what filling makes of their words
exactly when they are filled. -/
theorem lines_eq_iff_isFilled {width : Nat} {rows : List (List Text)}
    (lead : ∀ word ∈ rows.flatten, canLead word) :
    lines width rows.flatten = rows ↔ IsFilled width rows := by
  constructor
  · intro same
    rw [← same]
    exact isFilled_fill lead (.inl (Nat.zero_le 1))
  · exact lines_of_isFilled

/-- A row between others: its first word ends the row before it, and the row and what follows it
are filled. -/
theorem isFilled_append_cons_iff {width : Nat} {before after : List (List Text)} {row : List Text} :
    IsFilled width (before ++ row :: after) ↔
      IsFilled width before ∧
        (∀ last ∈ before.getLast?, ∀ word ∈ row.head?, EndsAt width last word) ∧
        IsFilled width (row :: after) := by
  induction before with
  | nil => simp [IsFilled]
  | cons first before ih =>
    cases before with
    | nil =>
      rw [List.cons_append, List.nil_append, isFilled_cons_iff, isFilled_cons_iff]
      simp [IsFilled, and_assoc]
    | cons second others =>
      rw [List.cons_append, isFilled_cons_iff, isFilled_cons_iff, ih, List.getLast?_cons_cons]
      simp only [List.cons_append, List.head?_cons, Option.bind_some, and_assoc]

end Wrap

/-- Lines that are filled to a width, with one space between the words of a line. -/
def IsFilled (width : Nat) (ls : List Text) : Prop :=
  (∀ line ∈ ls, Text.unwords (Text.words line) = line) ∧ Wrap.IsFilled width (ls.map Text.words)

instance (width : Nat) : DecidablePred (IsFilled width) := fun ls =>
  inferInstanceAs (Decidable ((∀ line ∈ ls, Text.unwords (Text.words line) = line) ∧
    Wrap.IsFilled width (ls.map Text.words)))

/-- Rows of words are read back from the lines they make. -/
theorem wrapped_of_isFilled {width : Nat} {ls : List Text} (filled : IsFilled width ls) :
    wrapped width ls = ls := by
  have rows : Wrap.lines width (ls.map Text.words).flatten = ls.map Text.words :=
    Wrap.lines_of_isFilled filled.2
  have evenly : (ls.map Text.words).map Text.unwords = ls := by
    rw [List.map_map]
    exact (List.map_congr_left filled.1).trans (List.map_id ls)
  rw [wrapped, paragraphWords, List.flatMap_def, rows, evenly]

/-- **A filled paragraph stays.** -/
theorem rewrap_of_isFilled {width : Nat} {ls : List Text} (filled : IsFilled width ls) :
    rewrap width ls = ls := by
  rw [rewrap_eq, wrapped_of_isFilled filled, ite_self]

theorem rewrap_eq_wrapped_of_forall {width : Nat} {ls : List Text}
    (lead : ∀ word ∈ paragraphWords ls, Wrap.canLead word) : rewrap width ls = wrapped width ls :=
  rewrap_eq_wrapped fun word begins => lead word (List.mem_of_head? begins)

/-- **Which paragraphs stay.**  A paragraph all of whose words may lead a line stays as it is
exactly when it is filled. -/
theorem rewrap_eq_self_iff {width : Nat} {ls : List Text}
    (lead : ∀ word ∈ paragraphWords ls, Wrap.canLead word) :
    rewrap width ls = ls ↔ IsFilled width ls := by
  refine ⟨fun same => ?_, rewrap_of_isFilled⟩
  rw [rewrap_eq_wrapped_of_forall lead] at same
  have filled : Wrap.IsFilled width (Wrap.lines width (paragraphWords ls)) :=
    Wrap.isFilled_fill lead (.inl (Nat.zero_le 1))
  have all : ∀ row ∈ Wrap.lines width (paragraphWords ls), ∀ w ∈ row, Text.IsWord w := fun _ =>
    Wrap.isWord_of_mem_lines isWord_of_mem_paragraphWords
  have rows : ls.map Text.words = Wrap.lines width (paragraphWords ls) :=
    calc ls.map Text.words = (wrapped width ls).map Text.words := by rw [same]
      _ = Wrap.lines width (paragraphWords ls) := Text.map_words_map_unwords all
  refine ⟨fun line member => ?_, rows ▸ filled⟩
  rw [← same] at member
  obtain ⟨row, inside, rfl⟩ := List.mem_map.mp member
  rw [Text.words_unwords (all row inside)]

/-! ## One line of a paragraph -/

/-- A line of a paragraph that wrapping leaves apart: its first word does not fit behind the wrapped
lines before it, it fits itself, and the next word does not fit behind it. -/
def StandsApart (width : Nat) (before : List Text) (line : Text) (after : List Text) : Prop :=
  (∀ last ∈ (wrapped width before).getLast?, ∀ word ∈ (Text.words line).head?,
    width < last.length + 1 + word.length) ∧
    ((Text.words line).length = 1 ∨ line.length ≤ width) ∧
    ∀ word ∈ (paragraphWords after).head?, width < line.length + 1 + word.length

instance (width : Nat) (before : List Text) (line : Text) (after : List Text) :
    Decidable (StandsApart width before line after) :=
  inferInstanceAs (Decidable ((∀ last ∈ (wrapped width before).getLast?,
    ∀ word ∈ (Text.words line).head?, width < last.length + 1 + word.length) ∧
      ((Text.words line).length = 1 ∨ line.length ≤ width) ∧
      ∀ word ∈ (paragraphWords after).head?, width < line.length + 1 + word.length))

section Line

variable (width : Nat) {before after : List Text} {line : Text}
  (lead : ∀ word ∈ paragraphWords (before ++ line :: after), Wrap.canLead word)
  (shown : Line.isBlank line = false) (even : Text.unwords (Text.words line) = line)
include lead shown even

/-- In rows of words: the row of the line is filled between those of its neighbours. -/
theorem isFilled_rows_iff_standsApart :
    Wrap.IsFilled width (Wrap.lines width (paragraphWords before) ++
      Text.words line :: Wrap.lines width (paragraphWords after)) ↔
        StandsApart width before line after := by
  have words : Text.words line ≠ [] := by
    rw [Ne, Text.words_eq_nil_iff]
    simpa using shown
  have parts : paragraphWords (before ++ line :: after) =
      paragraphWords before ++ (Text.words line ++ paragraphWords after) := by
    simp [paragraphWords]
  simp only [parts, List.mem_append] at lead
  have front : Wrap.IsFilled width (Wrap.lines width (paragraphWords before)) :=
    Wrap.isFilled_fill (fun word member => lead word (.inl member)) (.inl (Nat.zero_le 1))
  have back : Wrap.IsFilled width (Wrap.lines width (paragraphWords after)) :=
    Wrap.isFilled_fill (fun word member => lead word (.inr (.inr member))) (.inl (Nat.zero_le 1))
  have next : ((Wrap.lines width (paragraphWords after)).head?.bind List.head?) =
      (paragraphWords after).head? := by
    cases paragraphWords after with
    | nil => rfl
    | cons word others =>
      rw [Wrap.lines, Wrap.fill, Wrap.head?_head?_fill (List.head?_singleton)]
      rfl
  have begins : ∀ word ∈ (Text.words line).head?, Wrap.canLead word := fun word first =>
    lead word (.inr (.inl (List.mem_of_head? first)))
  have follows : ∀ word ∈ (paragraphWords after).head?, Wrap.canLead word := fun word first =>
    lead word (.inr (.inr (List.mem_of_head? first)))
  have lineWidth : Wrap.lineWidth (Text.words line) = line.length := by rw [Wrap.lineWidth, even]
  have last : (wrapped width before).getLast? =
      (Wrap.lines width (paragraphWords before)).getLast?.map Text.unwords := by
    rw [wrapped, List.getLast?_map]
  rw [Wrap.isFilled_append_cons_iff, Wrap.isFilled_cons_iff, next, StandsApart, last]
  simp only [front, back, true_and, and_true, words, ne_eq, not_false_eq_true, lineWidth,
    Wrap.EndsAt, Option.mem_def, Option.map_eq_some_iff]
  constructor
  · rintro ⟨ended, fits, exceeds⟩
    refine ⟨?_, fits, fun word first => (exceeds word first).2⟩
    rintro _ ⟨row, member, rfl⟩ word first
    exact (ended row member word first).2
  · rintro ⟨ended, fits, exceeds⟩
    exact ⟨fun row member word first => ⟨begins word first, ended _ ⟨row, member, rfl⟩ word first⟩,
      fits, fun word first => ⟨follows word first, exceeds word first⟩⟩

/-- **Which lines stay.**  A line of a paragraph all of whose words may lead is still a line between
the wrapped lines before and behind it exactly when it stands apart. -/
theorem rewrap_append_cons_iff :
    rewrap width (before ++ line :: after) = wrapped width before ++ line :: wrapped width after ↔
      StandsApart width before line after := by
  have parts : paragraphWords (before ++ line :: after) =
      (Wrap.lines width (paragraphWords before) ++
        Text.words line :: Wrap.lines width (paragraphWords after)).flatten := by
    simp [paragraphWords]
  have lines : (Wrap.lines width (paragraphWords before) ++
      Text.words line :: Wrap.lines width (paragraphWords after)).map Text.unwords =
        wrapped width before ++ line :: wrapped width after := by
    rw [List.map_append, List.map_cons, even]
    rfl
  rw [← isFilled_rows_iff_standsApart width lead shown even,
    ← Wrap.lines_eq_iff_isFilled (parts ▸ lead),
    ← parts, rewrap_eq_wrapped_of_forall lead, ← lines]
  refine Text.map_unwords_inj (fun _ => Wrap.isWord_of_mem_lines isWord_of_mem_paragraphWords) ?_
  intro row member
  rcases List.mem_append.mp member with front | member
  · exact Wrap.isWord_of_mem_lines isWord_of_mem_paragraphWords front
  · rcases List.mem_cons.mp member with rfl | back
    · exact fun w inside => Text.isWord_of_mem_words inside
    · exact Wrap.isWord_of_mem_lines isWord_of_mem_paragraphWords back

end Line

end MarkdownDialects
