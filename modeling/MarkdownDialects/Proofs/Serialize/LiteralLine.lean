import MarkdownDialects.Proofs.Markdown.SoleLine
import MarkdownDialects.Proofs.Serialize.Literal
import MarkdownDialects.Proofs.Text.Letter

/-!
# Literal text as a line

The escaped text of a literal text starts no block, where the text starts none but those whose start
is escaped (`Serialize.isBare_escape`), and nothing is cut off it at the end of a heading, where the
text ends with no run of `#` (`Serialize.chopHeading_escape`).
-/

namespace MarkdownDialects

namespace Serialize

theorem escapeStart_cons {c : Char} {t : Text} (unstarted : startsBlock (c :: t) = false) :
    escapeStart (c :: t) =
      c :: if Category.isDigit c then
          t.takeWhile Category.isDigit ++ escapeStop (t.dropWhile Category.isDigit)
        else t := by
  rw [escapeStart, unstarted, if_neg Bool.false_ne_true]
  cases digit : Category.isDigit c with
  | true => rw [List.takeWhile_cons_of_pos digit, List.dropWhile_cons_of_pos digit]; rfl
  | false => rw [List.takeWhile_cons_of_neg (by simp [digit])]; rfl

/-- Where the escaped text begins with no backslash, nothing is escaped at its start. -/
theorem of_escape_eq_cons {t rest : Text} {c : Char} (shown : escape t = c :: rest)
    (solid : c ≠ '\\') :
    (∃ later, t = c :: later) ∧ isMarkup c = false ∧ startsBlock (escapeMarkup t) = false ∧
      (Category.isDigit c = false → escape t = escapeMarkup t) := by
  by_cases starts : startsBlock (escapeMarkup t)
  · rw [escape, escapeStart, if_pos starts] at shown
    exact absurd (List.cons.inj shown).1.symm solid
  cases t with
  | nil => exact absurd shown.symm (List.cons_ne_nil c rest)
  | cons d later =>
    cases markup : isMarkup d with
    | true =>
      rw [escape, escapeMarkup_cons, if_pos markup] at shown
      exact absurd (List.cons.inj shown).1.symm solid
    | false =>
      have marked : escapeMarkup (d :: later) = d :: escapeMarkup later := by
        rw [escapeMarkup_cons, if_neg (by simp [markup])]
        rfl
      have unstarted := Bool.eq_false_iff.mpr starts
      have written : escape (d :: later) = _ := marked ▸ escapeStart_cons (marked ▸ unstarted)
      obtain rfl : d = c := (List.cons.inj (written.symm.trans shown)).1
      refine ⟨⟨later, rfl⟩, markup, unstarted, fun noDigit => ?_⟩
      rw [written, marked, noDigit, if_neg Bool.false_ne_true]

theorem isDigit_of_ascii {c : Char} (digit : c.isDigit) : Category.isDigit c := by
  have range := toNat_of_isAlphanum (c := c) (by rw [Char.isAlphanum, digit, Bool.or_true])
  rw [Category.isDigit, if_pos (by omega)]
  exact digit

theorem escapeMarkup_append_digits {digits : Text} (all : ∀ d ∈ digits, d.isDigit) (t : Text) :
    escapeMarkup (digits ++ t) = digits ++ escapeMarkup t := by
  induction digits with
  | nil => rfl
  | cons d digits ih =>
    have unmarked : isMarkup d = false := by
      rw [Bool.eq_false_iff]
      intro markup
      have punctuation := isPunctuation_of_isMarkup markup
      simp [Ascii.isPunctuation, Char.isAlphanum, all d List.mem_cons_self] at punctuation
    rw [List.cons_append, escapeMarkup_cons, unmarked, ih fun e member => all e (.tail d member)]
    rfl

/-- The full stop behind a number that begins a text is escaped before a space. -/
theorem escape_number {digits : Text} (nonempty : digits ≠ []) (all : ∀ d ∈ digits, d.isDigit)
    (t : Text) :
    escape (digits ++ '.' :: ' ' :: t) = digits ++ '\\' :: '.' :: ' ' :: escapeMarkup t := by
  have marked : escapeMarkup (digits ++ '.' :: ' ' :: t) = digits ++ '.' :: ' ' :: escapeMarkup t :=
    escapeMarkup_append_digits all _
  obtain ⟨d, digits, rfl⟩ := List.exists_cons_of_ne_nil nonempty
  have first := all d List.mem_cons_self
  have other {e : Char} (none : e.isDigit = false) : d ≠ e := by
    rintro rfl
    exact Bool.noConfusion (none.symm.trans first)
  have unstarted (rest : Text) : startsBlock (d :: rest) = false := by
    unfold startsBlock
    split
    all_goals first
      | rfl
      | rename_i same; exact absurd (List.cons.inj same).1 (other rfl)
  have others : ∀ e ∈ digits, Category.isDigit e := fun e member =>
    isDigit_of_ascii (all e (.tail d member))
  rw [escape, marked, List.cons_append, escapeStart_cons (unstarted _),
    if_pos (isDigit_of_ascii first), List.takeWhile_append_of_pos others,
    List.dropWhile_append_of_pos others, List.takeWhile_cons_of_neg (by decide),
    List.dropWhile_cons_of_neg (by decide), List.append_nil]
  rfl

section Block

variable {t rest : Text} {c : Char} (printed : IsPrinted t) (literal : IsLiteral t)
  (leads : LeadsParagraph t)
include printed literal leads

/-- Escaped text begins with no `#` that open a heading. -/
theorem noHeading_of_escape (shown : escape t = '#' :: rest) :
    6 < Fence.runLength '#' ('#' :: rest) ∨
      ∃ d ∈ (('#' :: rest).drop (Fence.runLength '#' ('#' :: rest))).head?,
        Ascii.isBlank d = false := by
  obtain ⟨-, -, unstarted, marked⟩ := of_escape_eq_cons shown (by decide)
  rw [← marked rfl, shown] at unstarted
  have whole := List.takeWhile_append_dropWhile (p := (· == '#')) (l := rest)
  have run : Fence.runLength '#' ('#' :: rest) = (rest.takeWhile (· == '#')).length + 1 := by
    rw [Fence.runLength, List.takeWhile_cons_of_pos rfl, List.length_cons]
  have behind : ('#' :: rest).drop ((rest.takeWhile (· == '#')).length + 1) =
      rest.dropWhile (· == '#') := by
    rw [List.drop_succ_cons]
    conv_lhs => rw [← whole]
    exact List.drop_left' (by simp)
  rw [run, behind]
  -- Before a space a short run is escaped, and if it is all there is, it is the text itself.
  cases ahead : rest.dropWhile (· == '#') with
  | nil =>
    rw [ahead, List.append_nil] at whole
    have all : ∀ d ∈ '#' :: rest, d = '#' := by
      intro d member
      rcases List.mem_cons.mp member with same | member
      · exact same
      · exact beq_iff_eq.mp (List.all_eq_true.mp List.all_takeWhile d (whole.symm ▸ member))
    have same : t = '#' :: rest := by
      have escapes := escapes_escape literal (printed.not_mem rfl)
      rw [shown] at escapes
      exact escapes.eq_self fun member => absurd (all _ member) (by decide)
    have long := leads.noHeading (by simpa [same] using all)
    rw [same, List.length_cons] at long
    exact .inl (by rwa [whole])
  | cons d back =>
    by_cases blank : Ascii.isBlank d
    · have inside : d ∈ escape t :=
        shown ▸ .tail _ ((List.dropWhile_suffix _).mem (ahead ▸ List.mem_cons_self))
      obtain rfl := eq_space_of_mem_escape printed literal inside (Markdown.isBlank_of_ascii blank)
      simp only [startsBlock, ahead, decide_eq_false_iff_not] at unstarted
      exact .inl (by omega)
    · exact .inr ⟨d, rfl, by simpa using blank⟩

/-- No bullet at the start of escaped text ends there. -/
theorem not_bullet_of_escape {sign : Char} (known : sign = '*' ∨ sign = '-' ∨ sign = '+')
    (spaced : rest = [] ∨ ∃ back, rest = ' ' :: back) : escape t ≠ sign :: rest := by
  intro shown
  have solid : sign ≠ '\\' := by rcases known with rfl | rfl | rfl <;> decide
  obtain ⟨-, unmarked, unstarted, marked⟩ := of_escape_eq_cons shown solid
  -- An asterisk is escaped anywhere, the other two in front of a space.
  rcases known with rfl | rfl | rfl
  · exact Bool.noConfusion unmarked
  · rw [← marked rfl, shown] at unstarted
    exact Bool.noConfusion unstarted
  rcases spaced with rfl | ⟨back, rfl⟩
  · have escapes := escapes_escape literal (printed.not_mem rfl)
    rw [shown] at escapes
    exact leads.noBullet (escapes.eq_self (by decide))
  · rw [← marked rfl, shown] at unstarted
    exact Bool.noConfusion unstarted

/-- No number with a sign behind it ends at the start of escaped text. -/
theorem not_number_of_escape {digits : Text} {sign : Char} (nonempty : digits ≠ [])
    (all : ∀ d ∈ digits, d.isDigit) (known : sign = '.' ∨ sign = ')')
    (spaced : rest = [] ∨ ∃ back, rest = ' ' :: back) :
    escape t ≠ digits ++ [sign] ++ rest := by
  intro shown
  have escapes := escapes_escape literal (printed.not_mem rfl)
  rw [shown] at escapes
  have unescaped : '\\' ∉ digits ++ [sign] := by
    intro member
    rcases List.mem_append.mp member with member | member
    · exact Bool.noConfusion (all _ member)
    · rcases known with rfl | rfl <;> exact absurd member (by decide)
  obtain ⟨later, same, others⟩ := escapes.of_append unescaped
  have follows := others.eq_nil_or_space spaced
  rcases known with rfl | rfl
  · rcases follows with rfl | ⟨more, rfl⟩
    · have stop : Wrap.isNumberMarker t := by
        rw [same, List.append_nil]
        simpa [Wrap.isNumberMarker, Text.before?_append, nonempty] using all
      exact Bool.noConfusion (leads.noStop.symm.trans stop)
    · -- The full stop would have been escaped.
      have written := escape_number nonempty all more
      rw [List.append_assoc, List.singleton_append] at same shown
      rw [← same, shown] at written
      exact absurd (List.cons.inj (List.append_cancel_left written)).1 (by decide)
  · have word : Text.IsWord (digits ++ [')']) :=
      (Markdown.Outline.LineState.IsItemMark.number nonempty all (.inr rfl)).isWord
    have ends : Text.EndsWord later := by
      rcases follows with rfl | ⟨more, rfl⟩
      · exact fun d first => absurd first (Option.not_mem_none d)
      · rintro d ⟨⟩
        rfl
    have parenthesis : Markdown.isParenthesisMarker (digits ++ [')']) := by
      simpa [Markdown.isParenthesisMarker, Text.before?_append, nonempty] using all
    have first : digits ++ [')'] ∈ (Text.words t).head? := by
      rw [same, Text.words_append_of_isWord word ends]
      rfl
    exact Bool.noConfusion ((leads.noParenthesis _ first).symm.trans parenthesis)

/-- Escaped text begins with no mark of a list item. -/
theorem listMarker?_escape : Markdown.Outline.LineState.listMarker? false (escape t) = none := by
  rw [Option.eq_none_iff_forall_ne_some]
  intro found item
  obtain ⟨mark, after, shown, marks, ends⟩ :=
    Markdown.Outline.LineState.exists_of_listMarker? item
  have spaced : after = [] ∨ ∃ back, after = ' ' :: back := by
    cases after with
    | nil => exact .inl rfl
    | cons d back =>
      have inside : d ∈ escape t := shown ▸ List.mem_append_right mark List.mem_cons_self
      have blank := Markdown.Outline.LineState.endsWord_of_markerEnds ends d rfl
      exact .inr ⟨back, by rw [eq_space_of_mem_escape printed literal inside blank]⟩
  cases marks with
  | bullet known => exact not_bullet_of_escape printed literal leads known spaced shown
  | number nonempty all known =>
    exact not_number_of_escape printed literal leads nonempty all known spaced shown

end Block

/-- **Escaped text starts no block.** -/
theorem isBare_escape {t : Text} (printed : IsPrinted t) (literal : IsLiteral t)
    (leads : LeadsParagraph t) : Markdown.Outline.LineState.IsBare (escape t) := by
  have escapes := escapes_escape literal (printed.not_mem rfl)
  obtain ⟨c, rest, shown⟩ : ∃ c rest, escape t = c :: rest :=
    List.exists_cons_of_ne_nil fun empty => printed.nonempty (escapes.eq_nil_iff.mp empty)
  -- A backslash opens nothing; any other first character is one that was left unescaped.
  by_cases backslash : c = '\\'
  · rw [shown, backslash]
    exact Markdown.Outline.LineState.isBare_cons (by decide) rfl rest
  obtain ⟨⟨later, whole⟩, unmarked, unstarted, marked⟩ := of_escape_eq_cons shown backslash
  have first : t.head? = some c := by rw [whole, List.head?_cons]
  have solid : Text.isBlank c = false := printed.first c first
  simp only [isMarkup, Bool.or_eq_false_iff, beq_eq_false_iff_ne] at unmarked
  have noTilde : c ≠ '~' := by
    rintro rfl
    exact literal.noTilde (List.mem_of_mem_head? first)
  have noBracket : c ≠ '<' := by
    rintro rfl
    exact leads.noTag first
  have noQuote : c ≠ '>' := by
    rintro rfl
    rw [← marked rfl, shown] at unstarted
    exact Bool.noConfusion unstarted
  have noDash : c ≠ '-' := by
    rintro rfl
    rw [← marked rfl, shown] at unstarted
    exact Bool.noConfusion unstarted
  rw [shown]
  exact
    { unindented := by
        rintro d ⟨⟩
        exact Text.eq_false_of_shown Markdown.isBlank_of_ascii solid
      noQuote := by simp [noQuote]
      noHeading := by
        by_cases hash : c = '#'
        · subst hash
          exact .inr (noHeading_of_escape printed literal leads shown)
        · exact .inl (by simp [Fence.runLength, hash])
      noFence := by simp [noTilde, unmarked]
      noHtml := Markdown.HtmlBlockKind.ofLine?_eq_none noBracket true rest
      noBreak := by simp [Markdown.Outline.LineState.isThematicBreak, noDash, unmarked]
      noItem := shown ▸ listMarker?_escape printed literal leads }

/-- Escaped text does not end with a run of `#` that stands alone. -/
theorem escape_ne_closing {t : Text} (printed : IsPrinted t) (literal : IsLiteral t)
    (ends : EndsHeading t) {run : Text} (hashes : ∀ c ∈ run, (c == '#') = true)
    (nonempty : run ≠ []) :
    escape t ≠ run ∧ ∀ front, escape t ≠ front ++ ' ' :: run := by
  have escapes := escapes_escape literal (printed.not_mem rfl)
  have unescaped : '\\' ∉ run := fun member => absurd (hashes _ member) (by decide)
  have word : Text.IsWord run :=
    ⟨nonempty, fun c member => by rw [beq_iff_eq.mp (hashes c member)]; rfl⟩
  constructor
  · intro shown
    rw [shown] at escapes
    refine ends run ?_ (List.all_eq_true.mpr hashes)
    rw [escapes.eq_self unescaped, Text.words_of_isWord word]
    rfl
  · intro front shown
    rw [shown] at escapes
    obtain ⟨before, later, same, others⟩ := escapes.of_append_space
    refine ends run ?_ (List.all_eq_true.mpr hashes)
    rw [same, others.eq_self unescaped, Text.words_append_blank rfl, Text.words_of_isWord word,
      List.getLast?_concat]
    rfl

/-- **Nothing of escaped text is taken for the closing run of a heading.** -/
theorem chopHeading_escape {t : Text} (printed : IsPrinted t) (literal : IsLiteral t)
    (ends : EndsHeading t) : Markdown.Outline.LineState.chopHeading (escape t) = escape t := by
  have escapes := escapes_escape literal (printed.not_mem rfl)
  have trimmed : Text.trimEndBy Ascii.isTrimmed (escape t) = escape t :=
    (Text.trimBy_eq_self_iff.mp (escapes.trimBy_eq rfl
      (printed.trimBy_eq fun _ => Markdown.isBlank_of_isTrimmed))).2
  simp only [Markdown.Outline.LineState.chopHeading, trimmed]
  obtain ⟨run, hashes, whole⟩ := Text.exists_trimEndBy_append (· == '#') (escape t)
  have closing := escape_ne_closing printed literal ends hashes
  generalize Text.trimEndBy (· == '#') (escape t) = front at whole ⊢
  split
  · rename_i empty
    rw [List.isEmpty_iff.mp empty, List.nil_append] at whole
    have nonempty : run ≠ [] := by
      rintro rfl
      exact printed.nonempty (escapes.eq_nil_iff.mp whole)
    exact absurd whole (closing nonempty).1
  split
  · rename_i blank
    cases last : front.getLast? with
    | none =>
      rw [last] at blank
      exact nomatch blank
    | some d =>
      rw [last] at blank
      obtain ⟨front, rfl⟩ := List.getLast?_eq_some_iff.mp last
      have inside : d ∈ escape t := by simp [whole]
      obtain rfl := eq_space_of_mem_escape printed literal inside (Markdown.isBlank_of_ascii blank)
      have nonempty : run ≠ [] := by
        rintro rfl
        rw [List.append_nil] at whole
        have ends := printed.last
        rw [← escapes.getLast?, whole, List.getLast?_concat] at ends
        exact absurd (ends _ rfl) (by decide)
      rw [List.append_assoc, List.singleton_append] at whole
      exact absurd whole ((closing nonempty).2 front)
  · rfl

end Serialize

end MarkdownDialects
