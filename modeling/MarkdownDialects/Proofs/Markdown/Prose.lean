import MarkdownDialects.Markdown.Document
import MarkdownDialects.Proofs.Layout.Paragraphs

/-!
# Prose

Paragraphs of words without markup.  Punctuation is welcome in them, as long as it means nothing to
Markdown where it stands.  No line of prose starts a block
(`Markdown.Outline.LineState.startBlock?_eq_none`), and reflow keeps prose
(`Markdown.IsProse.reflow`).
-/

namespace MarkdownDialects

namespace Markdown

/-- Characters that mean nothing to Markdown within a line of prose. -/
def isInert (c : Char) : Bool := !"*_~`\\&<[]@\r\x00\ufeff".toList.contains c

/-- A number followed by a closing parenthesis, which starts an item of an ordered list. -/
def isParenthesisMarker (word : Text) : Bool :=
  match Text.before? [')'] word with
  | some number => !number.isEmpty && number.all Char.isDigit
  | none => false

/-- A word that is no list marker with a parenthesis and holds no bare web address. -/
structure IsTame (word : Text) : Prop where
  unmarked : isParenthesisMarker word = false
  noScheme : ¬ "://".toList <:+: word
  noHost : ¬ "www.".toList <:+: word

/-- A line of words without markup, the first of which may lead a line. -/
structure IsProseLine (line : Text) : Prop where
  led : Line.IsLed line
  inert : ∀ c ∈ line, isInert c
  tame : ∀ word ∈ Text.words line, IsTame word

/-- A text of paragraphs without markup, with empty lines between them. -/
def IsProse (t : Text) : Prop := ∀ line ∈ Text.lines t, line = [] ∨ IsProseLine line

instance : DecidablePred IsTame := fun _ =>
  decidable_of_iff (_ ∧ _ ∧ _) ⟨fun ⟨unmarked, noScheme, noHost⟩ => ⟨unmarked, noScheme, noHost⟩,
    fun tame => ⟨tame.unmarked, tame.noScheme, tame.noHost⟩⟩

instance : DecidablePred IsProseLine := fun line =>
  decidable_of_iff
    (Line.IsLed line ∧ line.all isInert ∧ ∀ word ∈ Text.words line, IsTame word)
    ⟨fun ⟨led, inert, tame⟩ => ⟨led, List.all_eq_true.mp inert, tame⟩,
      fun prose => ⟨prose.led, List.all_eq_true.mpr prose.inert, prose.tame⟩⟩

instance : DecidablePred IsProse := fun t =>
  inferInstanceAs (Decidable (∀ line ∈ Text.lines t, line = [] ∨ IsProseLine line))

/-- Wrapping lines of prose gives lines of prose. -/
theorem isProseLine_of_mem_rewrap {width : Nat} {ls : List Text}
    (prose : ∀ line ∈ ls, IsProseLine line) : ∀ line ∈ rewrap width ls, IsProseLine line := by
  intro line member
  have led := isLed_of_mem_rewrap (fun other inside => (prose other inside).led) line member
  rw [rewrap_eq] at member
  split at member
  · obtain ⟨row, inside, rfl⟩ := List.mem_map.mp member
    have isWord := Wrap.isWord_of_mem_lines isWord_of_mem_paragraphWords inside
    -- Every word comes from a line of the paragraph.
    have origin : ∀ word ∈ row, ∃ other ∈ ls, word ∈ Text.words other := by
      intro word within
      apply List.mem_flatMap.mp
      rw [← paragraphWords, ← Wrap.flatten_lines width (paragraphWords ls)]
      exact List.mem_flatten.mpr ⟨row, inside, within⟩
    refine ⟨led, fun c within => ?_, fun word within => ?_⟩
    · rcases Text.mem_intercalate within with space | ⟨word, part, within⟩
      · rw [List.mem_singleton.mp space]
        rfl
      · obtain ⟨other, present, read⟩ := origin word part
        exact (prose other present).inert c (Text.subset_of_mem_words read within)
    · rw [Text.words_unwords isWord] at within
      obtain ⟨other, present, read⟩ := origin word within
      exact (prose other present).tame word read
  · exact prose line member

theorem IsProse.reflow (width : Nat) {t : Text} (prose : IsProse t) :
    IsProse (reflow width t) :=
  forall_mem_lines_reflow (fun _ prose => prose.led) (fun _ => isProseLine_of_mem_rewrap) prose

theorem isBlank_of_ascii {c : Char} (blank : Ascii.isBlank c) : Text.isBlank c := by
  simp only [Ascii.isBlank, Bool.or_eq_true, beq_iff_eq] at blank
  rcases blank with rfl | rfl <;> rfl

theorem isBlank_of_isTrimmed {c : Char} (trimmed : Ascii.isTrimmed c) : Text.isBlank c := by
  simp only [Ascii.isTrimmed, Bool.or_eq_true, beq_iff_eq] at trimmed
  rcases trimmed with ((rfl | rfl) | rfl) | rfl <;> rfl

theorem isBlank_of_isRowSpace {c : Char} (space : TableRow.isRowSpace c) : Text.isBlank c := by
  simp only [TableRow.isRowSpace, Bool.or_eq_true, beq_iff_eq] at space
  rcases space with ((rfl | rfl) | rfl) | rfl <;> rfl

/-- A line that is led is not one character of rules and spaces or tabs. -/
theorem not_spaced {line : Text} (led : Line.IsLed line) {mark : Char}
    (rule : Wrap.isRuleChar mark) : (line.all fun c => c == mark || Ascii.isBlank c) = false := by
  apply led.not_all
  intro c either
  rcases Bool.or_eq_true_iff.mp either with same | blank
  · rw [beq_iff_eq.mp same]
    exact .inr rule
  · exact .inl (isBlank_of_ascii blank)

/-- A line that is led is not indented. -/
theorem unindented_of_isLed {line : Text} (led : Line.IsLed line) :
    ∀ c ∈ line.head?, Ascii.isBlank c = false := by
  obtain ⟨c, rest, rfl, shown, _⟩ := led.exists_cons
  rintro d ⟨⟩
  exact Text.eq_false_of_shown isBlank_of_ascii shown

namespace Cursor

section Unindented

variable {line : Text} (unindented : ∀ c ∈ line.head?, Ascii.isBlank c = false)
include unindented

theorem indent_ofLine : (ofLine line).indent = 0 := by
  cases line with
  | nil => rfl
  | cons c rest =>
    have shown := unindented c rfl
    have noSpace : c ≠ ' ' := by rintro rfl; exact Bool.noConfusion shown
    have noTab : c ≠ '\t' := by rintro rfl; exact Bool.noConfusion shown
    simp [indent, ofLine, columnAfterBlanks, noSpace, noTab]

theorem shown_ofLine : (ofLine line).shown = line := Text.trimStartBy_eq_self_iff.mpr unindented

theorem skipBlanks_ofLine : (ofLine line).skipBlanks = ofLine line := by
  rw [skipBlanks, shown_ofLine unindented, ofLine, Nat.sub_self, skipChars]

theorem isBlank_ofLine (nonempty : line ≠ []) : (ofLine line).isBlank = false := by
  rw [isBlank, shown_ofLine unindented]
  exact List.isEmpty_eq_false_iff.mpr nonempty

end Unindented

end Cursor

section DelimiterRow

open TableRow

/-- What a delimiter row is made of. -/
def isRowChar (c : Char) : Bool := c == '-' || c == '|' || c == ':' || isRowSpace c

/-- Dashes and at most one colon after them are made of dashes and colons. -/
theorem all_of_dashes {t : Text}
    (after : t.dropWhile (· == '-') = [] ∨ t.dropWhile (· == '-') = [':']) :
    t.all isRowChar := by
  refine Text.all_of_trimStartBy (p := (· == '-')) (fun c dash => by simp [isRowChar, dash]) ?_
  rcases after with after | after
  · rw [Text.trimStartBy, after]; rfl
  · rw [Text.trimStartBy, after]; rfl

theorem all_of_isDelimiterCell {cell : Text} (delimits : isDelimiterCell cell) :
    cell.all isRowChar := by
  simp only [isDelimiterCell, Bool.and_eq_true, Bool.or_eq_true, List.isEmpty_iff, beq_iff_eq]
    at delimits
  have made := all_of_dashes delimits.2
  split at made
  · simpa [isRowChar] using made
  · exact made

/-- A delimiter row is made of dashes, pipes, colons and white space. -/
theorem all_of_isDelimiterRow {line : Text} (delimits : isDelimiterRow line) :
    line.all isRowChar := by
  have space (c : Char) (space : isRowSpace c) : isRowChar c := by
    rw [isRowChar, space, Bool.or_true]
  have pipe (c : Char) (pipe : (c == '|') = true) : isRowChar c := by
    rw [beq_iff_eq.mp pipe]; rfl
  simp only [isDelimiterRow] at delimits
  -- From the cells outwards: each step puts back what the test took off before it looked.
  apply Text.all_of_trimEndBy space
  generalize Text.trimEndBy isRowSpace line = row at delimits ⊢
  generalize whole : (Text.after? ['|'] row).getD row = front at delimits
  generalize inner : (Text.before? ['|'] front).getD front = cells at delimits
  have made : cells.all isRowChar := by
    refine Text.all_of_splitOnP pipe fun cell member => ?_
    have dashes : isDelimiterCell _ := List.all_eq_true.mp delimits cell member
    exact Text.all_of_trimBy space (all_of_isDelimiterCell dashes)
  have made : front.all isRowChar := by
    cases found : Text.before? ['|'] front with
    | none => rwa [← inner, found] at made
    | some rest =>
      rw [found, Option.getD_some] at inner
      rw [← Text.before?_eq_some_iff.mp found, inner]
      simp [made, isRowChar]
  cases found : Text.after? ['|'] row with
  | none => rwa [← whole, found] at made
  | some rest =>
    rw [found, Option.getD_some] at whole
    rw [← Text.after?_eq_some_iff.mp found, whole]
    simp [made, isRowChar]

end DelimiterRow

theorem isDelimiterRow_eq_false {line : Text} (led : Line.IsLed line) :
    TableRow.isDelimiterRow line = false := by
  rw [Bool.eq_false_iff]
  intro delimits
  have mixed := led.not_all (p := isRowChar) fun c row => by
    simp only [isRowChar, Bool.or_eq_true, beq_iff_eq] at row
    rcases row with ((rfl | rfl) | rfl) | space
    · exact .inr rfl
    · exact .inr rfl
    · exact .inr rfl
    · exact .inl (isBlank_of_isRowSpace space)
  exact Bool.noConfusion (mixed.symm.trans (all_of_isDelimiterRow delimits))

/-- Only an angle bracket starts an HTML block. -/
theorem HtmlBlockKind.ofLine?_eq_none {c : Char} (noBracket : c ≠ '<') (counts : Bool)
    (rest : Text) : ofLine? counts (c :: rest) = none := by
  unfold ofLine?
  split
  · rename_i same
    exact absurd (List.cons.inj same).1 noBracket
  · rfl

namespace Outline.LineState

section Marker

theorem endsWord_of_markerEnds {interrupts : Bool} {rest : Text}
    (ends : markerEnds interrupts rest) : Text.EndsWord rest := by
  intro c first
  simp only [markerEnds, Bool.and_eq_true, Bool.or_eq_true, List.isEmpty_iff] at ends
  rcases ends.1 with empty | blank
  · rw [empty] at first
    exact nomatch first
  · rw [Option.mem_def.mp first] at blank
    exact isBlank_of_isTrimmed blank

/-- What marks the items of a list. -/
inductive IsItemMark : Text → Prop
  | bullet {sign : Char} (known : sign = '*' ∨ sign = '-' ∨ sign = '+') : IsItemMark [sign]
  | number {digits : Text} {sign : Char} (nonempty : digits ≠ []) (all : ∀ d ∈ digits, d.isDigit)
      (known : sign = '.' ∨ sign = ')') : IsItemMark (digits ++ [sign])

/-- A list item begins with its mark. -/
theorem exists_of_listMarker? {interrupts : Bool} {line : Text} {found : ListMarker × Nat}
    (marked : listMarker? interrupts line = some found) :
    ∃ mark after, line = mark ++ after ∧ IsItemMark mark ∧ markerEnds interrupts after := by
  cases line with
  | nil => exact absurd marked (Option.some_ne_none found).symm
  | cons c rest =>
    rw [listMarker?] at marked
    split at marked
    · rename_i bullet
      split at marked
      · rename_i ends
        simp only [Bool.or_eq_true, beq_iff_eq, or_assoc] at bullet
        exact ⟨[c], rest, rfl, .bullet bullet, ends⟩
      · cases marked
    · split at marked
      · rename_i digit
        generalize number : ((c :: rest).takeWhile Char.isDigit).take 9 = digits at marked
        have front : digits <+: c :: rest :=
          number ▸ (List.take_prefix 9 _).trans (List.takeWhile_prefix Char.isDigit)
        have all : ∀ d ∈ digits, d.isDigit := fun d member =>
          List.all_eq_true.mp List.all_takeWhile d (List.mem_of_mem_take (number ▸ member))
        have nonempty : digits ≠ [] := by
          rw [← number, List.takeWhile_cons_of_pos digit, List.take_succ_cons]
          exact List.cons_ne_nil _ _
        dsimp only at marked
        split at marked
        · rename_i sign after behind
          split at marked
          · rename_i ends
            simp only [Bool.and_eq_true, Bool.or_eq_true, beq_iff_eq] at ends
            refine ⟨digits ++ [sign], after, ?_, .number nonempty all ends.1.1, ends.2⟩
            obtain ⟨back, whole⟩ := front
            rw [← whole, List.drop_left] at behind
            rw [List.append_assoc, List.singleton_append, ← behind, whole]
          · cases marked
        · cases marked
      · cases marked

theorem IsItemMark.isWord {mark : Text} (marks : IsItemMark mark) : Text.IsWord mark := by
  cases marks with
  | bullet known => rcases known with rfl | rfl | rfl <;> decide
  | @number digits sign nonempty all known =>
    refine ⟨by simp, fun d member => ?_⟩
    rcases List.mem_append.mp member with member | member
    · exact Line.isBlank_of_isDigit (all d member)
    · rw [List.mem_singleton.mp member]
      rcases known with rfl | rfl <;> rfl

/-- The mark of an item is a word that may not lead, or a number and a closing parenthesis. -/
theorem IsItemMark.canLead_or {mark : Text} (marks : IsItemMark mark) :
    Wrap.canLead mark = false ∨ isParenthesisMarker mark := by
  cases marks with
  | bullet known => rcases known with rfl | rfl | rfl <;> exact .inl (by decide)
  | number nonempty all known =>
    -- The guard of wrapping knows a full stop behind the number, but no parenthesis.
    rcases known with rfl | rfl
    · exact .inl (Line.canLead_number nonempty all)
    · right
      simpa [isParenthesisMarker, Text.before?_append, nonempty] using all

end Marker

section Led

variable {line : Text} {s : LineState} (atStart : s.cursor = .ofLine line) (led : Line.IsLed line)
include atStart led

theorem blockquote?_eq_none : s.blockquote? = none := by
  have start := Cursor.shown_ofLine (unindented_of_isLed led)
  obtain ⟨c, rest, rfl, _, unmarked⟩ := led.exists_cons
  have other : c ≠ '>' := by rintro rfl; exact Bool.noConfusion unmarked
  simp [blockquote?, atStart, start, other]

theorem atxHeading?_eq_none : s.atxHeading? = none := by
  have start := Cursor.shown_ofLine (unindented_of_isLed led)
  obtain ⟨c, rest, rfl, _, unmarked⟩ := led.exists_cons
  have other : c ≠ '#' := by rintro rfl; exact Bool.noConfusion unmarked
  simp [atxHeading?, atStart, start, Fence.runLength, other]

theorem codeFence?_eq_none : s.codeFence? = none := by
  have start := Cursor.shown_ofLine (unindented_of_isLed led)
  obtain ⟨c, rest, rfl, _⟩ := led.exists_cons
  have short : (c = '`' ∨ c = '~') → Fence.runLength c (c :: rest) < 3 := led.runLength_lt
  simp only [codeFence?, atStart, start]
  rw [if_neg]
  simp only [Bool.and_eq_true, Bool.or_eq_true, decide_eq_true_eq, beq_iff_eq]
  rintro ⟨⟨_, long⟩, mark | mark⟩
  · exact absurd (short (.inr mark)) (by omega)
  · exact absurd (short (.inl mark.1)) (by omega)

theorem setextHeading?_eq_none : s.setextHeading? = none := by
  have noLevel : underlineLevel? line = none := by
    obtain ⟨c, rest, rfl, _⟩ := led.exists_cons
    simp only [underlineLevel?]
    split
    · rename_i blank
      have whole : (c :: rest).all fun d => d == c || Ascii.isBlank d := by
        refine Text.all_of_trimStartBy (p := (· == c)) (fun d same => by simp [same]) ?_
        rw [List.all_eq_true] at blank ⊢
        exact fun d member => by rw [blank d member, Bool.or_true]
      have noRule : Wrap.isRuleChar c = false := by
        rw [Bool.eq_false_iff]
        intro rule
        exact Bool.noConfusion ((not_spaced led rule).symm.trans whole)
      have noEquals : c ≠ '=' := by rintro rfl; exact Bool.noConfusion noRule
      have noDash : c ≠ '-' := by rintro rfl; exact Bool.noConfusion noRule
      simp [noEquals, noDash]
    · rfl
  simp only [setextHeading?, atStart, Cursor.shown_ofLine (unindented_of_isLed led), noLevel]
  cases s.spine <;> rfl

theorem thematicBreak?_eq_none : s.thematicBreak? = none := by
  have noBreak : isThematicBreak line = false := by
    obtain ⟨c, rest, rfl, _⟩ := led.exists_cons
    simp only [isThematicBreak]
    by_cases rule : Wrap.isRuleChar c
    · rw [not_spaced led rule, Bool.and_false, Bool.false_and]
    · have other : (c == '*' || c == '-' || c == '_') = false := by
        rw [Bool.eq_false_iff]
        intro mark
        simp only [Bool.or_eq_true, beq_iff_eq] at mark
        rcases mark with (rfl | rfl) | rfl <;> exact rule rfl
      rw [other, Bool.false_and, Bool.false_and]
  simp [thematicBreak?, atStart, Cursor.shown_ofLine (unindented_of_isLed led), noBreak]

theorem indentedCode?_eq_none (afterParagraph : Bool) : s.indentedCode? afterParagraph = none := by
  simp [indentedCode?, atStart, Cursor.indent_ofLine (unindented_of_isLed led)]

theorem tableHeader?_eq_none : s.tableHeader? = none := by
  have noRow := isDelimiterRow_eq_false led
  simp only [tableHeader?, atStart, Cursor.shown_ofLine (unindented_of_isLed led), noRow]
  split
  · split <;> rfl
  · rfl

end Led

section Prose

variable {line : Text} {s : LineState} (atStart : s.cursor = .ofLine line)
  (prose : IsProseLine line)
include atStart prose

theorem htmlBlock?_eq_none : s.htmlBlock? = none := by
  have start := Cursor.shown_ofLine (unindented_of_isLed prose.led)
  obtain ⟨c, rest, whole, _⟩ := prose.led.exists_cons
  have noBracket : c ≠ '<' := by
    rintro rfl
    exact Bool.noConfusion (prose.inert '<' (whole ▸ List.mem_cons_self))
  have noKind (counts : Bool) : HtmlBlockKind.ofLine? counts line = none := by
    rw [whole, HtmlBlockKind.ofLine?_eq_none noBracket]
  simp [htmlBlock?, atStart, start, noKind]

theorem listItem?_eq_none (depth lineNumber : Nat) : s.listItem? depth lineNumber = none := by
  have unmarked (interrupts : Bool) : listMarker? interrupts line = none := by
    rw [Option.eq_none_iff_forall_ne_some]
    intro found marked
    obtain ⟨mark, after, split, marks, ends⟩ := exists_of_listMarker? marked
    have ends := endsWord_of_markerEnds ends
    have leads := prose.led.canLead_of_eq split marks.isWord ends
    rcases marks.canLead_or with stays | parenthesis
    · exact Bool.noConfusion (stays.symm.trans leads)
    · have present : mark ∈ Text.words line := by
        rw [split, Text.words_append_of_isWord marks.isWord ends]
        exact List.mem_cons_self
      exact Bool.noConfusion ((prose.tame mark present).unmarked.symm.trans parenthesis)
  simp [listItem?, atStart, Cursor.shown_ofLine (unindented_of_isLed prose.led), unmarked]

/-- **No line of prose starts a block**, unless a table stands above it. -/
theorem startBlock?_eq_none (noTable : s.tableRow? = none) (afterParagraph : Bool)
    (depth lineNumber : Nat) : s.startBlock? afterParagraph depth lineNumber = none := by
  simp only [startBlock?, blockquote?_eq_none atStart prose.led,
    atxHeading?_eq_none atStart prose.led, codeFence?_eq_none atStart prose.led,
    htmlBlock?_eq_none atStart prose, setextHeading?_eq_none atStart prose.led,
    thematicBreak?_eq_none atStart prose.led, listItem?_eq_none atStart prose,
    indentedCode?_eq_none atStart prose.led, tableHeader?_eq_none atStart prose.led, noTable,
    Option.orElse_eq_orElse, Option.orElse_none, ite_self]

end Prose

end Outline.LineState

end Markdown

end MarkdownDialects
