import MarkdownDialects.Proofs.Line.Kind
import MarkdownDialects.Proofs.Markdown.Escaped
import MarkdownDialects.Serialize.Escape

/-!
# Literal text

The serializer escapes a fixed list of characters, and what starts a block at the start of a text.
Where nothing else in a text has a meaning, the escaped text is read as the text
(`Serialize.escapes_escape`).  What else has a meaning is named by `Serialize.IsLiteral`,
`Serialize.LeadsParagraph` and `Serialize.EndsHeading`.
-/

namespace MarkdownDialects

namespace Serialize

open Markdown (Escapes)

/-- Characters of printed text: of white space only the space. -/
def isPrintable (c : Char) : Bool := (c == ' ' || !Text.isBlank c) && c != '\x00' && c != '\ufeff'

/-- A printed text: there is no white space around it, and only single spaces are in it. -/
structure IsPrinted (t : Text) : Prop where
  nonempty : t ≠ []
  trimmed : Text.trim t = t
  chars : ∀ c ∈ t, isPrintable c
  spaced : ¬ [' ', ' '] <:+: t

/-- A text in which the characters that mark up and are not escaped have no meaning: no tilde, no
semicolon behind an ampersand, and no closing angle bracket behind an opening one. -/
structure IsLiteral (t : Text) : Prop where
  noTilde : '~' ∉ t
  noReference : ';' ∉ t.dropWhile (· != '&')
  noTag : '>' ∉ t.dropWhile (· != '<')

/-- A text that starts no block but those whose start is escaped. -/
structure LeadsParagraph (t : Text) : Prop where
  noTag : t.head? ≠ some '<'
  noHeading : t.all (· == '#') → 6 < t.length
  noBullet : t ≠ ['+']
  noStop : Wrap.isNumberMarker t = false
  noParenthesis : ∀ word ∈ (Text.words t).head?, Markdown.isParenthesisMarker word = false

/-- A text that ends with no closing run of a heading. -/
def EndsHeading (t : Text) : Prop := ∀ word ∈ (Text.words t).getLast?, ¬ word.all (· == '#')

instance : DecidablePred IsPrinted := fun t =>
  decidable_of_iff (t ≠ [] ∧ Text.trim t = t ∧ t.all isPrintable ∧ ¬ [' ', ' '] <:+: t)
    ⟨fun ⟨nonempty, trimmed, chars, spaced⟩ =>
      ⟨nonempty, trimmed, List.all_eq_true.mp chars, spaced⟩,
      fun printed => ⟨printed.nonempty, printed.trimmed, List.all_eq_true.mpr printed.chars,
        printed.spaced⟩⟩

instance : DecidablePred IsLiteral := fun _ =>
  decidable_of_iff (_ ∧ _ ∧ _) ⟨fun ⟨noTilde, noReference, noTag⟩ => ⟨noTilde, noReference, noTag⟩,
    fun literal => ⟨literal.noTilde, literal.noReference, literal.noTag⟩⟩

instance : DecidablePred LeadsParagraph := fun _ =>
  decidable_of_iff (_ ∧ _ ∧ _ ∧ _ ∧ _)
    ⟨fun ⟨noTag, noHeading, noBullet, noStop, noParenthesis⟩ =>
      ⟨noTag, noHeading, noBullet, noStop, noParenthesis⟩,
      fun leads => ⟨leads.noTag, leads.noHeading, leads.noBullet, leads.noStop,
        leads.noParenthesis⟩⟩

instance : DecidablePred EndsHeading := fun t =>
  inferInstanceAs (Decidable (∀ word ∈ (Text.words t).getLast?, ¬ word.all (· == '#')))

theorem isPunctuation_of_isMarkup {c : Char} (markup : isMarkup c) : Ascii.isPunctuation c := by
  simp only [isMarkup, Bool.or_eq_true, beq_iff_eq] at markup
  rcases markup with ((((rfl | rfl) | rfl) | rfl) | rfl) | rfl <;> decide

theorem escapeMarkup_cons (c : Char) (t : Text) :
    escapeMarkup (c :: t) = (if isMarkup c then ['\\', c] else [c]) ++ escapeMarkup t := rfl

theorem mem_of_mem_escapeMarkup {c : Char} {t : Text} (member : c ∈ escapeMarkup t) :
    c = '\\' ∨ c ∈ t := by
  obtain ⟨d, inside, written⟩ := List.mem_flatMap.mp member
  split at written
  · rcases List.mem_cons.mp written with rfl | same
    · exact .inl rfl
    · exact .inr (List.mem_singleton.mp same ▸ inside)
  · exact .inr (List.mem_singleton.mp written ▸ inside)

theorem not_mem_escapeMarkup {c : Char} (solid : c ≠ '\\') {t : Text} (absent : c ∉ t) :
    c ∉ escapeMarkup t := fun member =>
  (mem_of_mem_escapeMarkup member).elim solid absent

theorem IsLiteral.of_cons {c : Char} {t : Text} (literal : IsLiteral (c :: t)) : IsLiteral t := by
  have behind {mark closing : Char} (absent : closing ∉ (c :: t).dropWhile (· != mark)) :
      closing ∉ t.dropWhile (· != mark) := by
    by_cases same : c = mark
    · rw [List.dropWhile_cons_of_neg (by simp [same])] at absent
      exact fun member => absent (.tail c ((List.dropWhile_suffix _).mem member))
    · rwa [List.dropWhile_cons_of_pos (by simpa using same)] at absent
  exact ⟨fun member => literal.noTilde (.tail c member), behind literal.noReference,
    behind literal.noTag⟩

/-- What is left unescaped in a literal text means nothing. -/
theorem isHarmless_escapeMarkup {c : Char} {t : Text} (literal : IsLiteral (c :: t))
    (noFeed : c ≠ '\n') (unmarked : isMarkup c = false) :
    Markdown.IsHarmless c (escapeMarkup t) := by
  unfold Markdown.IsHarmless
  split
  next same =>
    have absent := literal.noReference
    rw [same, List.dropWhile_cons_of_neg (by simp), List.mem_cons, not_or] at absent
    exact not_mem_escapeMarkup (by decide) absent.2
  split
  next _ same =>
    have absent := literal.noTag
    rw [same, List.dropWhile_cons_of_neg (by simp), List.mem_cons, not_or] at absent
    exact not_mem_escapeMarkup (by decide) absent.2
  split
  next _ _ same =>
    cases t with
    | nil => exact nofun
    | cons d t =>
      rw [escapeMarkup_cons]
      split
      · simp
      · rename_i plain
        rintro ⟨⟩
        exact plain rfl
  next noReference noTag noImage =>
    have noTilde : c ≠ '~' := fun same => literal.noTilde (same ▸ List.mem_cons_self)
    simp only [isMarkup, Bool.or_eq_false_iff, beq_eq_false_iff_ne] at unmarked
    simp [Markdown.Reader.isSpecial, noFeed, noTilde, noReference, noTag, noImage, unmarked]

theorem escapes_escapeMarkup {t : Text} (literal : IsLiteral t) (oneLine : '\n' ∉ t) :
    Escapes (escapeMarkup t) t := by
  induction t with
  | nil => exact .nil
  | cons c t ih =>
    rw [List.mem_cons, not_or] at oneLine
    have others := ih literal.of_cons oneLine.2
    rw [escapeMarkup_cons]
    split
    · rename_i markup
      exact .escaped (isPunctuation_of_isMarkup markup) others
    · rename_i unmarked
      exact .plain (isHarmless_escapeMarkup literal (Ne.symm oneLine.1) (by simpa using unmarked))
        others

/-- The character that the backslash before the start of a block escapes. -/
theorem exists_of_startsBlock {t : Text} (starts : startsBlock t) :
    ∃ c rest, t = c :: rest ∧ Ascii.isPunctuation c ∧ c ≠ '\\' ∧ c ≠ '|' := by
  unfold startsBlock at starts
  split at starts
  all_goals first
    | exact ⟨_, _, rfl, by decide, by decide, by decide⟩
    | exact nomatch starts

/-- A text without marks needs no escapes if it begins with a letter or a space. -/
theorem escape_eq_self {t : Text} (plain : ∀ c ∈ t, isMarkup c = false)
    (begins : ∀ c ∈ t.head?, c.isAlpha ∨ c = ' ') : escape t = t := by
  have same : ∀ c ∈ t, (if isMarkup c then ['\\', c] else [c]) = [c] := fun c member => by
    rw [plain c member, if_neg Bool.false_ne_true]
  have marked : escapeMarkup t = t := by
    rw [escapeMarkup, List.flatMap_congr same, List.flatMap_singleton']
  have noStart : startsBlock t = false := by
    rw [Bool.eq_false_iff]
    intro starts
    obtain ⟨c, rest, rfl, punctuation, _⟩ := exists_of_startsBlock starts
    rcases begins c rfl with letter | rfl
    · simp [Ascii.isPunctuation, Char.isAlphanum, letter] at punctuation
    · exact Bool.noConfusion punctuation
  have noDigit : t.takeWhile Category.isDigit = [] := by
    cases t with
    | nil => rfl
    | cons c rest =>
      have solid : Category.isDigit c = false := by
        rcases begins c rfl with letter | rfl
        · have range := isAlpha_iff.mp letter
          rw [Category.isDigit, if_pos (by omega), Line.isDigit_of_isAlpha letter]
        · rfl
      rw [List.takeWhile_cons_of_neg (by simp [solid])]
  rw [escape, marked, escapeStart, noStart, noDigit]
  rfl

/-- What has a meaning at the start of a line is punctuation behind digits at most, and escaping puts
one backslash before it. -/
theorem escapeStart_cases (t : Text) :
    escapeStart t = t ∨ ∃ front c back, t = front ++ c :: back ∧
      (∀ d ∈ front, Category.isDigit d) ∧ Ascii.isPunctuation c ∧ c ≠ '\\' ∧ c ≠ '|' ∧
        escapeStart t = front ++ '\\' :: c :: back := by
  unfold escapeStart
  split
  · rename_i starts
    obtain ⟨c, rest, rfl, punctuation, solid, noBar⟩ := exists_of_startsBlock starts
    exact .inr ⟨[], c, rest, rfl, nofun, punctuation, solid, noBar, rfl⟩
  · split
    · exact .inl rfl
    · have digits : ∀ c ∈ t.takeWhile Category.isDigit, Category.isDigit c :=
        List.all_eq_true.mp List.all_takeWhile
      have whole := List.takeWhile_append_dropWhile (p := Category.isDigit) (l := t)
      generalize t.dropWhile Category.isDigit = back at whole
      unfold escapeStop
      split
      · exact .inr ⟨_, '.', _, whole.symm, digits, rfl, by decide, by decide, rfl⟩
      · exact .inl whole

theorem isSpecial_of_isDigit {c : Char} (digit : Category.isDigit c) :
    Markdown.Reader.isSpecial false c = false := by
  rw [Bool.eq_false_iff]
  intro special
  simp [Markdown.Reader.isSpecial] at special
  rcases special with rfl | rfl | rfl | rfl | rfl | rfl | rfl | rfl | rfl | rfl | rfl <;>
    exact absurd digit (by decide)

theorem backslash_not_mem_digits {digits : Text} (all : ∀ d ∈ digits, Category.isDigit d) :
    '\\' ∉ digits := fun member => absurd (all _ member) (by decide)

/-- **Escaped literal text is read as the text.** -/
theorem escapes_escape {t : Text} (literal : IsLiteral t) (oneLine : '\n' ∉ t) :
    Escapes (escape t) t := by
  have marked := escapes_escapeMarkup literal oneLine
  rw [escape]
  rcases escapeStart_cases (escapeMarkup t) with same | ⟨front, c, back, whole, digits, first⟩
  · rwa [same]
  · -- Digits mean nothing, so the text is cut behind the number, where the backslash goes.
    obtain ⟨punctuation, solid, -, escaped⟩ := first
    rw [whole] at marked
    obtain ⟨later, rfl, escapes⟩ := marked.of_append (backslash_not_mem_digits digits)
    obtain ⟨rest, rfl, _, escapes⟩ := escapes.of_cons solid
    rw [escaped]
    exact .append (fun d member => isSpecial_of_isDigit (digits d member))
      (.escaped punctuation escapes)

theorem IsPrinted.not_mem {t : Text} (printed : IsPrinted t) {c : Char}
    (other : isPrintable c = false) : c ∉ t := fun member =>
  Bool.noConfusion (other.symm.trans (printed.chars c member))

theorem IsPrinted.first {t : Text} (printed : IsPrinted t) :
    ∀ c ∈ t.head?, Text.isBlank c = false :=
  Text.trimStartBy_eq_self_iff.mp (Text.trimBy_eq_self_iff.mp printed.trimmed).1

theorem IsPrinted.last {t : Text} (printed : IsPrinted t) :
    ∀ c ∈ t.getLast?, Text.isBlank c = false :=
  Text.trimEndBy_eq_self_iff.mp (Text.trimBy_eq_self_iff.mp printed.trimmed).2

/-- Of white space only the space is written. -/
theorem eq_space_of_mem_escape {t : Text} (printed : IsPrinted t) (literal : IsLiteral t) {c : Char}
    (member : c ∈ escape t) (blank : Text.isBlank c) : c = ' ' := by
  rcases (escapes_escape literal (printed.not_mem rfl)).mem member with rfl | inside
  · exact absurd blank (by decide)
  · have printable := printed.chars c inside
    simp only [isPrintable, blank, Bool.not_true, Bool.or_false, Bool.and_eq_true, beq_iff_eq]
      at printable
    exact printable.1.1

/-- A printed text has nothing to trim. -/
theorem IsPrinted.trimBy_eq {t : Text} (printed : IsPrinted t) {p : Char → Bool}
    (blank : ∀ c, p c → Text.isBlank c) : Text.trimBy p t = t := by
  simp only [Text.trimBy_eq_self_iff, Text.trimStartBy_eq_self_iff, Text.trimEndBy_eq_self_iff]
  exact ⟨fun c first => Text.eq_false_of_shown (blank c) (printed.first c first),
    fun c last => Text.eq_false_of_shown (blank c) (printed.last c last)⟩

end Serialize

end MarkdownDialects
