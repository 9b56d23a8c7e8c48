import MarkdownDialects.Proofs.Layout.Wrap

/-!
# Lines that start with a word that may lead

The guard of wrapping looks at one word: `Wrap.canLead`.  It is enough for what it is there for.  A
line that starts with such a word is plain text by itself (`Line.IsLed.kind_eq`) and underlines
nothing, and every line that is wrapped from words of which the first may lead starts with such a
word (`Wrap.isLed_of_mem_lines`).
-/

namespace MarkdownDialects

namespace Line

/-- A line without white space at its ends whose first word may lead a line. -/
inductive IsLed : Text → Prop
  | intro {word after : Text} (isWord : Text.IsWord word) (leads : Wrap.canLead word)
      (ends : Text.EndsWord after) (trimmed : Text.trim (word ++ after) = word ++ after) :
      IsLed (word ++ after)

variable {line : Text}

/-- The first character of a line that is led is shown, and none of those that read as block syntax
wherever they start a line. -/
theorem IsLed.exists_cons (led : IsLed line) :
    ∃ c rest, line = c :: rest ∧ Text.isBlank c = false ∧ Wrap.isLeadMark c = false := by
  cases led with
  | @intro word after isWord leads _ _ =>
    obtain ⟨c, word, rfl⟩ := List.exists_cons_of_ne_nil isWord.1
    refine ⟨c, word ++ after, rfl, isWord.2 c List.mem_cons_self, ?_⟩
    simp only [Wrap.canLead, List.head?_cons, Option.any_some, Bool.and_eq_true] at leads
    simpa using leads.1.1.1.1.1

theorem IsLed.trim_eq (led : IsLed line) : Text.trim line = line := by
  cases led with
  | intro _ _ _ trimmed => exact trimmed

/-- A line is led when trimming does not change it and its first word may lead. -/
theorem isLed_iff (line : Text) :
    IsLed line ↔ Text.trim line = line ∧ (Text.words line).head?.any Wrap.canLead := by
  constructor
  · rintro ⟨isWord, leads, ends, trimmed⟩
    refine ⟨trimmed, ?_⟩
    rw [Text.words_append_of_isWord isWord ends, List.head?_cons, Option.any_some]
    exact leads
  · rintro ⟨trimmed, leads⟩
    cases line with
    | nil => exact nomatch leads
    | cons c rest =>
      have front := (Text.trimBy_eq_self_iff.mp trimmed).1
      have shown : Text.isBlank c = false := Text.trimStartBy_eq_self_iff.mp front c rfl
      obtain ⟨word, after, split, isWord, ends⟩ := Text.exists_leading_word shown rest
      rw [split] at trimmed leads ⊢
      rw [Text.words_append_of_isWord isWord ends, List.head?_cons, Option.any_some] at leads
      exact .intro isWord leads ends trimmed

instance : DecidablePred IsLed := fun line => decidable_of_iff' _ (isLed_iff line)

/-- The first word of a line that is led is the part before its first white space. -/
theorem IsLed.canLead_of_eq (led : IsLed line) {word after : Text}
    (split : line = word ++ after) (isWord : Text.IsWord word) (ends : Text.EndsWord after) :
    Wrap.canLead word := by
  cases led with
  | intro isFirst leads ends' _ =>
    obtain ⟨rfl, rfl⟩ := Text.leading_word_unique isFirst ends' isWord ends split
    exact leads

/-- No line that is led is made of characters of rules and white space only. -/
theorem IsLed.not_all (led : IsLed line) {p : Char → Bool}
    (rule : ∀ c, p c → Text.isBlank c ∨ Wrap.isRuleChar c) : line.all p = false := by
  cases led with
  | @intro word after isWord leads _ _ =>
    rw [Bool.eq_false_iff]
    intro all
    have ruled : word.all Wrap.isRuleChar := by
      rw [List.all_eq_true] at all ⊢
      intro c member
      refine (rule c (all c (List.mem_append_left after member))).resolve_left ?_
      simp [isWord.2 c member]
    simp [Wrap.canLead, ruled] at leads

/-- No line that is led starts with three backticks or three tildes. -/
theorem IsLed.runLength_lt (led : IsLed line) {mark : Char} (fence : mark = '`' ∨ mark = '~') :
    Fence.runLength mark line < 3 := by
  cases led with
  | @intro word after isWord leads ends _ =>
    by_contra long
    -- Three marks in a row are not blank, so they lie within the first word.
    have front : List.replicate 3 mark <+: word ++ after := by
      have run : (word ++ after).takeWhile (· == mark) =
          List.replicate (Fence.runLength mark (word ++ after)) mark :=
        List.eq_replicate_iff.mpr ⟨rfl, fun c member => by
          simpa using List.all_eq_true.mp List.all_takeWhile c member⟩
      refine (List.IsPrefix.trans ?_ (run ▸ List.takeWhile_prefix (· == mark)))
      exact ⟨List.replicate (Fence.runLength mark (word ++ after) - 3) mark, by
        rw [List.replicate_append_replicate]; congr; omega⟩
    have solid : Text.IsWord (List.replicate 3 mark) := by
      rcases fence with rfl | rfl <;> decide
    have within := List.isPrefixOf_iff_prefix.mpr (Text.isPrefix_word_of_isPrefix ends solid front)
    rcases fence with rfl | rfl
    · simp only [Wrap.canLead, Bool.and_eq_true, Bool.not_eq_true'] at leads
      exact Bool.noConfusion (leads.1.1.1.1.2.symm.trans within)
    · simp only [Wrap.canLead, Bool.and_eq_true, Bool.not_eq_true'] at leads
      exact Bool.noConfusion (leads.1.1.1.2.symm.trans within)

theorem IsLed.isBlank_eq (led : IsLed line) : isBlank line = false := by
  obtain ⟨c, rest, rfl, shown, _⟩ := led.exists_cons
  simp [isBlank, Text.isAllBlank, shown]

theorem IsLed.isFenceDelimiter_eq (led : IsLed line) : isFenceDelimiter line = false := by
  have ticks := led.runLength_lt (.inl rfl)
  have tildes := led.runLength_lt (.inr rfl)
  simp only [isFenceDelimiter, Fence.ofLine?, led.trim_eq, List.findSome?_cons, List.findSome?_nil,
    if_neg (Nat.not_le.mpr ticks), if_neg (Nat.not_le.mpr tildes), Option.isSome_none]

theorem IsLed.isAtxHeading_eq (led : IsLed line) : isAtxHeading line = false := by
  obtain ⟨c, rest, rfl, shown, unmarked⟩ := led.exists_cons
  have noSpace : c ≠ ' ' := by rintro rfl; exact Bool.noConfusion shown
  have noHash : c ≠ '#' := by rintro rfl; exact Bool.noConfusion unmarked
  simp [isAtxHeading, Fence.runLength, noSpace, noHash]

theorem isBlank_of_isDigit {c : Char} (digit : c.isDigit) : Text.isBlank c = false := by
  have bounds : 48 ≤ c.toNat ∧ c.toNat ≤ 57 := by
    simpa [Char.isDigit, UInt32.le_iff_toNat_le] using digit
  simp only [Text.isBlank]
  grind

theorem canLead_number {digits : Text} (nonempty : digits ≠ []) (all : ∀ c ∈ digits, c.isDigit) :
    Wrap.canLead (digits ++ ['.']) = false := by
  have marked : Wrap.isNumberMarker (digits ++ ['.']) := by
    simpa [Wrap.isNumberMarker, Text.before?_append, nonempty] using all
  simp [Wrap.canLead, marked]

/-- A list marker, as the word it is when white space follows, may not lead. -/
theorem splitMarker?_eq_some {line after : Text} {family : ListFamily}
    (marked : splitMarker? line = some (family, after)) :
    ∃ marker, line = marker ++ after ∧ Text.IsWord marker ∧ Wrap.canLead marker = false := by
  cases line with
  | nil => exact nomatch marked
  | cons c rest =>
    rw [splitMarker?] at marked
    split at marked
    · rename_i bullet
      cases marked
      simp only [Bool.or_eq_true, beq_iff_eq] at bullet
      refine ⟨[c], rfl, ?_⟩
      rcases bullet with (rfl | rfl) | rfl <;> decide
    · split at marked
      · rename_i digit
        split at marked
        · rename_i behind found
          cases marked
          have digits : ∀ d ∈ c :: rest.takeWhile Char.isDigit, d.isDigit := by
            intro d member
            rcases List.mem_cons.mp member with rfl | member
            · exact digit
            · exact List.all_eq_true.mp List.all_takeWhile d member
          refine ⟨c :: rest.takeWhile Char.isDigit ++ ['.'], ?_, ⟨List.cons_ne_nil _ _, ?_⟩, ?_⟩
          · rw [List.append_assoc, List.singleton_append, ← found, List.cons_append,
              List.takeWhile_append_dropWhile]
          · intro d member
            rcases List.mem_append.mp member with member | member
            · exact isBlank_of_isDigit (digits d member)
            · rw [List.mem_singleton.mp member]
              rfl
          · exact canLead_number (List.cons_ne_nil _ _) digits
        · exact nomatch marked
      · exact nomatch marked

theorem IsLed.isListItem_eq (led : IsLed line) : isListItem line = false := by
  have start : Text.trimStart line = line := (Text.trimBy_eq_self_iff.mp led.trim_eq).1
  have unmarked : listMarker? line = none := by
    unfold listMarker?
    rw [start]
    split
    · rename_i family after found
      obtain ⟨marker, split, isWord, stays⟩ := splitMarker?_eq_some found
      rw [if_neg]
      intro blank
      have ends : Text.EndsWord after := by
        cases after with
        | nil => exact nomatch blank
        | cons b _ =>
          intro d first
          cases first
          exact blank
      exact Bool.noConfusion (stays.symm.trans (led.canLead_of_eq split isWord ends))
    · rfl
  rw [isListItem, unmarked, Option.isSome_none]

theorem IsLed.isTableRow_eq (led : IsLed line) : isTableRow line = false := by
  have noRow : (line.all fun c => c == '-' || c == '|' || c == ':' || c == ' ') = false := by
    apply led.not_all
    intro c rule
    simp only [Bool.or_eq_true, beq_iff_eq] at rule
    rcases rule with ((rfl | rfl) | rfl) | rfl <;> decide
  have noPipe : (line.head? == some '|') = false := by
    obtain ⟨c, rest, rfl, _, unmarked⟩ := led.exists_cons
    have other : c ≠ '|' := by rintro rfl; exact Bool.noConfusion unmarked
    simpa using other
  rw [isTableRow, led.trim_eq, noPipe, noRow, Bool.and_false, Bool.or_false]

theorem IsLed.not_repeats (led : IsLed line) (mark : Char) (rule : Wrap.isRuleChar mark) :
    line.all (· == mark) = false := by
  apply led.not_all
  intro c same
  rw [beq_iff_eq.mp same]
  exact .inr rule

theorem IsLed.isThematicBreak_eq (led : IsLed line) : isThematicBreak line = false := by
  obtain ⟨c, rest, whole, _⟩ := led.exists_cons
  rw [isThematicBreak, led.trim_eq, whole]
  by_contra rule
  simp only [Bool.not_eq_false, Bool.and_eq_true, Bool.or_eq_true, beq_iff_eq] at rule
  have repeated : line.all (· == c) := by
    rw [whole, List.all_cons, beq_self_eq_true, Bool.true_and]
    exact rule.2
  have ruled : Wrap.isRuleChar c := by
    rcases rule.1.1 with (rfl | rfl) | rfl <;> rfl
  exact Bool.noConfusion ((led.not_repeats c ruled).symm.trans repeated)

theorem IsLed.isBlockquoteStart_eq (led : IsLed line) : isBlockquoteStart line = false := by
  have start : Text.trimStart line = line := (Text.trimBy_eq_self_iff.mp led.trim_eq).1
  obtain ⟨c, rest, whole, _, unmarked⟩ := led.exists_cons
  have other : c ≠ '>' := by rintro rfl; exact Bool.noConfusion unmarked
  rw [isBlockquoteStart, start, whole]
  simpa using other

theorem IsLed.isSetextUnderline_eq (led : IsLed line) : isSetextUnderline line = false := by
  rw [isSetextUnderline, led.trim_eq, led.not_repeats '=' rfl,
    led.not_repeats '-' rfl, Bool.or_false, Bool.and_false]

/-- **A line that starts with a word which may lead is plain text.** -/
theorem IsLed.kind_eq (led : IsLed line) : kind line = .plain := by
  simp only [kind, led.isFenceDelimiter_eq, led.isAtxHeading_eq, led.isListItem_eq,
    led.isTableRow_eq, led.isThematicBreak_eq, led.isBlockquoteStart_eq, Bool.false_eq_true,
    if_false]

end Line

namespace Wrap

/-- Words in a row of which the first may lead make a line that is led. -/
theorem isLed_unwords {word : Text} {rest : List Text} (leads : canLead word)
    (all : ∀ w ∈ word :: rest, Text.IsWord w) : Line.IsLed (Text.unwords (word :: rest)) := by
  have isWord : Text.IsWord word := all word List.mem_cons_self
  have trimmed := Text.trim_unwords all
  cases rest with
  | nil =>
    rw [Text.unwords_singleton] at trimmed ⊢
    rw [← List.append_nil word] at trimmed ⊢
    exact .intro isWord leads (fun _ first => nomatch first) trimmed
  | cons other rest =>
    rw [Text.unwords_cons_cons] at trimmed ⊢
    refine .intro isWord leads ?_ trimmed
    intro c first
    cases first
    rfl

/-- Every wrapped line starts with a word that may lead, if the first word may. -/
theorem canLead_of_mem_fill {width : Nat} {current words line : List Text}
    (first : ∀ w ∈ (current ++ words).head?, canLead w) (member : line ∈ fill width current words) :
    ∀ w ∈ line.head?, canLead w := by
  -- The invariant is about the words to come, with those of the current line in front.
  fun_induction fill width current words with
  | case1 => exact absurd member List.not_mem_nil
  | case2 current shown =>
    rw [List.mem_singleton.mp member]
    simpa using first
  | case3 word rest ih => exact ih first member
  | case4 current others word rest _ ih => exact ih (by simpa using first) member
  | case5 current others word rest _ leads ih =>
    rcases List.mem_cons.mp member with rfl | member
    · simpa using first
    · exact ih (by simpa using leads) member
  | case6 current others word rest _ _ kept last carried ih =>
    obtain ⟨nonempty, leads, whole⟩ := carry?_eq_some_iff.mp carried
    rcases List.mem_cons.mp member with rfl | member
    · obtain ⟨start, more, rfl⟩ := List.exists_cons_of_ne_nil nonempty
      obtain ⟨rfl, _⟩ := List.cons.inj whole
      simpa using first
    · exact ih (by simpa using leads) member
  | case7 current others word rest _ _ _ ih => exact ih (by simpa using first) member

/-- Every wrapped line is led, if the first word of all may lead. -/
theorem isLed_of_mem_lines {width : Nat} {words : List Text} (all : ∀ w ∈ words, Text.IsWord w)
    (first : ∀ w ∈ words.head?, canLead w) {line : Text}
    (member : line ∈ (lines width words).map Text.unwords) : Line.IsLed line := by
  obtain ⟨row, inside, rfl⟩ := List.mem_map.mp member
  obtain ⟨word, rest, rfl⟩ := List.exists_cons_of_ne_nil (ne_nil_of_mem_fill inside)
  have begins : ∀ w ∈ ([] ++ words).head?, canLead w := first
  have leads : canLead word := canLead_of_mem_fill begins inside word rfl
  exact isLed_unwords leads (isWord_of_mem_lines all inside)

end Wrap

end MarkdownDialects
