import MarkdownDialects.Proofs.Text.Words

/-!
# White space between words

The characters of a document carry their fate as white space: some are not looked at, some are
looked at but not written, and the others are written.  Of a run of white space the first character
that is looked at decides for all of them, since the others collapse with it.  So what is written
has the words of the text iff that character is written, in every run between two words
(`Serialize.words_output_iff`).
-/

namespace MarkdownDialects

namespace Text

/-- White space behind a text has no words. -/
theorem words_append_of_blank {back : Text} (blank : ∀ c ∈ back, isBlank c) (t : Text) :
    words (t ++ back) = words t := by
  induction back generalizing t with
  | nil => rw [List.append_nil]
  | cons c back ih =>
    have others := ih (fun d member => blank d (.tail c member)) []
    rw [words_append_blank (blank c List.mem_cons_self)]
    rw [List.nil_append, words_nil] at others
    rw [others, List.append_nil]

/-- White space in front of a text has no words. -/
theorem words_blank_append {front : Text} (blank : ∀ c ∈ front, isBlank c) (t : Text) :
    words (front ++ t) = words t := by
  induction front with
  | nil => rfl
  | cons c front ih =>
    rw [List.cons_append, words_cons_blank (blank c List.mem_cons_self)]
    exact ih fun d member => blank d (.tail c member)

/-- White space behind a word ends it. -/
theorem words_append_gap_append {word gap : Text} (isWord : IsWord word) (nonempty : gap ≠ [])
    (blank : ∀ c ∈ gap, isBlank c) (t : Text) : words (word ++ (gap ++ t)) = word :: words t := by
  have ends : EndsWord (gap ++ t) := by
    intro c first
    rw [List.head?_append_of_ne_nil _ nonempty] at first
    exact blank c (List.mem_of_mem_head? first)
  rw [words_append_of_isWord isWord ends, words_blank_append blank]

/-- The first word of a text that begins with a word may be longer. -/
theorem exists_words_append {word : Text} (isWord : IsWord word) (t : Text) :
    ∃ more others, words (word ++ t) = (word ++ more) :: others := by
  cases t with
  | nil => exact ⟨[], [], by rw [List.append_nil, words_of_isWord isWord]⟩
  | cons c t =>
    cases blank : isBlank c with
    | true =>
      have ends : EndsWord (c :: t) := fun d first => Option.some.inj first ▸ blank
      exact ⟨[], words (c :: t), by rw [words_append_of_isWord isWord ends, List.append_nil]⟩
    | false =>
      obtain ⟨more, after, whole, solid, ends⟩ := exists_leading_word blank t
      have longer : IsWord (word ++ more) :=
        ⟨List.append_ne_nil_of_left_ne_nil isWord.1 _, fun d member =>
          (List.mem_append.mp member).elim (isWord.2 d) (solid.2 d)⟩
      exact ⟨more, words after, by
        rw [whole, ← List.append_assoc, words_append_of_isWord longer ends]⟩

/-- The words hold all that is not white space. -/
theorem flatten_words (t : Text) : (words t).flatten = t.filter (!isBlank ·) := by
  rw [words, List.flatten_filter_not_isEmpty]
  induction t with
  | nil => rfl
  | cons c t ih =>
    rw [List.splitOnP_cons_eq_if_modifyHead]
    cases blank : isBlank c with
    | true =>
      rw [if_pos rfl, List.flatten_cons, List.nil_append, ih,
        List.filter_cons_of_neg (by simp [blank])]
    | false =>
      obtain ⟨first, others, split⟩ := List.exists_cons_of_ne_nil (List.splitOnP_ne_nil isBlank t)
      rw [split, List.flatten_cons] at ih
      rw [if_neg Bool.false_ne_true, split, List.modifyHead_cons, List.flatten_cons,
        List.cons_append, ih, List.filter_cons_of_pos (by simp [blank])]

end Text

namespace Serialize

/-- What becomes of a character if it is white space. -/
inductive Fate where
  /-- It is written, unless it collapses with white space in front of it. -/
  | shown
  /-- It is not looked at. -/
  | dropped
  /-- It collapses with what follows it, but is not written. -/
  | swallowed
deriving DecidableEq

/-- A character and its fate. -/
abbrev Traced := Char × Fate

/-- Characters of one fate. -/
def traced (fate : Fate) (t : Text) : List Traced := t.map (·, fate)

/-- Whether a space is to be dropped behind a character: behind white space that is looked at it is,
behind white space that is not looked at nothing has changed. -/
def Traced.drops (drops : Bool) : Traced → Bool
  | (c, .dropped) => Text.isBlank c && drops
  | (c, _) => Text.isBlank c

@[simp]
theorem Traced.drops_dropped (drops : Bool) (c : Char) :
    Traced.drops drops (c, .dropped) = (Text.isBlank c && drops) := rfl

@[simp]
theorem Traced.drops_swallowed (drops : Bool) (c : Char) :
    Traced.drops drops (c, .swallowed) = Text.isBlank c := rfl

@[simp]
theorem Traced.drops_shown (drops : Bool) (c : Char) :
    Traced.drops drops (c, .shown) = Text.isBlank c := rfl

/-- Whether a space is to be dropped behind some characters. -/
def dropsBehind (drops : Bool) (ms : List Traced) : Bool := ms.foldl Traced.drops drops

/-- What is written for some characters, given whether a space is to be dropped. -/
def output : Bool → List Traced → Text
  | _, [] => []
  | drops, (c, fate) :: ms =>
    let others := output (Traced.drops drops (c, fate)) ms
    if !Text.isBlank c then c :: others
    else if !drops && fate == .shown then ' ' :: others
    else others

/-- The runs of white space between the words of a text. -/
def gaps (ms : List Traced) : List (List Traced) :=
  (ms.splitOnP fun m => !Text.isBlank m.1).tail.dropLast.filter (!·.isEmpty)

/-- The first white space that is looked at is written. -/
def Separates (gap : List Traced) : Prop :=
  (gap.find? fun m => m.2 != .dropped).map Prod.snd = some .shown

instance : DecidablePred Separates := fun _ => inferInstanceAs (Decidable (_ = _))

theorem output_append (drops : Bool) (ms others : List Traced) :
    output drops (ms ++ others) = output drops ms ++ output (dropsBehind drops ms) others := by
  induction ms generalizing drops with
  | nil => rfl
  | cons m ms ih =>
    have tail : dropsBehind drops (m :: ms) = dropsBehind (m.drops drops) ms := rfl
    simp only [List.cons_append, output, ih, tail]
    split
    · rfl
    · split <;> rfl

theorem dropsBehind_append (drops : Bool) (ms others : List Traced) :
    dropsBehind drops (ms ++ others) = dropsBehind (dropsBehind drops ms) others :=
  List.foldl_append ..

section Step

variable {c : Char} (ms : List Traced)

/-- A letter is written, and ends the white space in front of it. -/
theorem output_cons_of_shown (letter : Text.isBlank c = false) (drops : Bool) (fate : Fate) :
    output drops ((c, fate) :: ms) = c :: output false ms := by
  have behind : Traced.drops drops (c, fate) = false := by
    cases fate <;> simp [letter]
  simp only [output, behind, letter]
  rfl

variable (blank : Text.isBlank c)
include blank

theorem output_cons_dropped (drops : Bool) :
    output drops ((c, .dropped) :: ms) = output drops ms := by
  simp [output, blank]

theorem output_cons_swallowed (drops : Bool) :
    output drops ((c, .swallowed) :: ms) = output true ms := by
  simp [output, blank]

theorem output_cons_shown : output false ((c, .shown) :: ms) = ' ' :: output true ms := by
  simp [output, blank]

/-- Where a space is to be dropped, no white space is written. -/
theorem output_true_cons (fate : Fate) : output true ((c, fate) :: ms) = output true ms := by
  cases fate <;> simp [output, blank]

end Step

/-- No letter is lost. -/
theorem filter_output (drops : Bool) (ms : List Traced) :
    (output drops ms).filter (!Text.isBlank ·) = (ms.map Prod.fst).filter (!Text.isBlank ·) := by
  induction ms generalizing drops with
  | nil => rfl
  | cons m ms ih =>
    obtain ⟨c, fate⟩ := m
    have space : Text.isBlank ' ' := rfl
    cases letter : Text.isBlank c with
    | false => simp [output_cons_of_shown _ letter, letter, ih]
    | true =>
      cases fate with
      | dropped => simp [output_cons_dropped _ letter, letter, ih]
      | swallowed => simp [output_cons_swallowed _ letter, letter, ih]
      | shown =>
        cases drops with
        | true => simp [output_true_cons _ letter, letter, ih]
        | false => simp [output_cons_shown _ letter, letter, space, ih]

/-- What is written is spaces, and letters of the text. -/
theorem mem_output {drops : Bool} {ms : List Traced} {c : Char} (member : c ∈ output drops ms) :
    c = ' ' ∨ Text.isBlank c = false ∧ c ∈ ms.map Prod.fst := by
  induction ms generalizing drops with
  | nil => exact absurd member List.not_mem_nil
  | cons m ms ih =>
    obtain ⟨d, fate⟩ := m
    have later {drops : Bool} (inside : c ∈ output drops ms) :
        c = ' ' ∨ Text.isBlank c = false ∧ c ∈ ((d, fate) :: ms).map Prod.fst :=
      (ih inside).imp_right fun shown => ⟨shown.1, List.mem_cons_of_mem d shown.2⟩
    simp only [output] at member
    split at member
    next letter =>
      rcases List.mem_cons.mp member with rfl | inside
      · exact .inr ⟨by simpa using letter, List.mem_cons_self⟩
      · exact later inside
    next =>
      split at member
      · rcases List.mem_cons.mp member with rfl | inside
        · exact .inl rfl
        · exact later inside
      · exact later member

/-- Where a space is to be dropped, none is written first. -/
theorem dropWhile_output_true (ms : List Traced) :
    (output true ms).dropWhile (· == ' ') = output true ms := by
  induction ms with
  | nil => rfl
  | cons m ms ih =>
    obtain ⟨c, fate⟩ := m
    cases letter : Text.isBlank c with
    | true => rwa [output_true_cons _ letter]
    | false =>
      have solid : c ≠ ' ' := by
        rintro rfl
        exact Bool.noConfusion letter
      rw [output_cons_of_shown _ letter, List.dropWhile_cons_of_neg (by simpa using solid)]

theorem dropWhile_output_false (ms : List Traced) :
    (output false ms).dropWhile (· == ' ') = output true ms := by
  induction ms with
  | nil => rfl
  | cons m ms ih =>
    obtain ⟨c, fate⟩ := m
    cases letter : Text.isBlank c with
    | true =>
      rw [output_true_cons _ letter]
      cases fate with
      | dropped => rwa [output_cons_dropped _ letter]
      | swallowed => rw [output_cons_swallowed _ letter, dropWhile_output_true]
      | shown =>
        rw [output_cons_shown _ letter, List.dropWhile_cons_of_pos (by simp),
          dropWhile_output_true]
    | false =>
      rw [← dropWhile_output_true, output_cons_of_shown _ letter, output_cons_of_shown _ letter]

section Gap

variable {gap : List Traced} (blank : ∀ m ∈ gap, Text.isBlank m.1)
include blank

theorem output_true_of_blank : output true gap = [] := by
  induction gap with
  | nil => rfl
  | cons m gap ih =>
    obtain ⟨c, fate⟩ := m
    rw [output_true_cons _ (blank (c, fate) List.mem_cons_self)]
    exact ih fun other member => blank other (.tail _ member)

/-- White space behind a letter is written as one space or as none. -/
theorem output_false_of_blank : output false gap = if Separates gap then [' '] else [] := by
  induction gap with
  | nil => rfl
  | cons m gap ih =>
    have others : ∀ other ∈ gap, Text.isBlank other.1 := fun other member =>
      blank other (.tail m member)
    have nothing := output_true_of_blank others
    obtain ⟨c, fate⟩ := m
    have first : Text.isBlank c := blank (c, fate) List.mem_cons_self
    cases fate with
    | dropped =>
      have same : Separates ((c, .dropped) :: gap) ↔ Separates gap := by
        rw [Separates, List.find?_cons_of_neg (by simp), Separates]
      rw [output_cons_dropped _ first, ih others, if_congr same rfl rfl]
    | swallowed =>
      have lost : ¬ Separates ((c, .swallowed) :: gap) := by
        rw [Separates, List.find?_cons_of_pos (by simp)]
        simp
      rw [output_cons_swallowed _ first, nothing, if_neg lost]
    | shown =>
      have kept : Separates ((c, .shown) :: gap) := by
        rw [Separates, List.find?_cons_of_pos (by simp)]
        rfl
      rw [output_cons_shown _ first, nothing, if_pos kept]

end Gap

/-- Characters are white space, and a letter behind it if they are not white space only. -/
theorem exists_gap (ms : List Traced) :
    ∃ gap rest, ms = gap ++ rest ∧ (∀ m ∈ gap, Text.isBlank m.1) ∧
      ∀ m ∈ rest.head?, Text.isBlank m.1 = false := by
  refine ⟨ms.takeWhile fun m => Text.isBlank m.1, ms.dropWhile fun m => Text.isBlank m.1,
    List.takeWhile_append_dropWhile.symm, List.all_eq_true.mp List.all_takeWhile, ?_⟩
  intro m first
  have stops := List.head?_dropWhile_not (fun m : Traced => Text.isBlank m.1) ms
  rw [Option.mem_def.mp first] at stops
  simpa using stops

/-- **The words behind the start of a word.**  They are the words of the text iff every gap between
words is kept. -/
theorem words_append_output_iff {word : Text} (isWord : Text.IsWord word) (ms : List Traced) :
    Text.words (word ++ output false ms) = Text.words (word ++ ms.map Prod.fst) ↔
      ∀ gap ∈ ((ms.splitOnP fun m => !Text.isBlank m.1).dropLast.filter (!·.isEmpty)),
        Separates gap := by
  induction size : ms.length using Nat.strong_induction_on generalizing ms word with
  | _ n ih =>
    obtain ⟨gap, rest, rfl, blank, first⟩ := exists_gap ms
    have gapText : ∀ c ∈ gap.map Prod.fst, Text.isBlank c := List.forall_mem_map.mpr blank
    have outside : ∀ m ∈ gap, (!Text.isBlank m.1) = false := fun m member => by
      rw [blank m member]
      rfl
    have written := output_false_of_blank blank
    cases rest with
    | nil =>
      rw [List.append_nil, List.splitOnP_eq_singleton outside]
      refine iff_of_true ?_ nofun
      have spaces : ∀ c ∈ output false gap, Text.isBlank c := by
        rw [written]
        split
        · exact List.forall_mem_singleton.mpr rfl
        · exact nofun
      rw [Text.words_append_of_blank spaces, Text.words_append_of_blank gapText]
    | cons m rest =>
      obtain ⟨c, fate⟩ := m
      have letter : Text.isBlank c = false := first (c, fate) rfl
      have shorter : rest.length < n := by
        rw [← size, List.length_append, List.length_cons]
        omega
      have next := fun {word : Text} (isWord : Text.IsWord word) =>
        ih rest.length shorter isWord rest rfl
      have single : Text.IsWord [c] := ⟨List.cons_ne_nil _ _, List.forall_mem_singleton.mpr letter⟩
      have longer : Text.IsWord (word ++ [c]) :=
        ⟨by simp, List.forall_mem_append.mpr ⟨isWord.2, single.2⟩⟩
      rw [List.splitOnP_append_cons_of_forall_mem outside (c, fate) (by simp [letter]),
        List.dropLast_cons_of_ne_nil (List.splitOnP_ne_nil _ rest), output_append, written,
        output_cons_of_shown rest letter, List.map_append, List.map_cons]
      rcases eq_or_ne gap [] with rfl | nonempty
      · have within := next longer
        rw [List.append_assoc, List.append_assoc] at within
        exact within
      · have space := Text.words_append_gap_append isWord (by simpa using nonempty) gapText
          (c :: rest.map Prod.fst)
        rw [List.filter_cons_of_pos (by simpa using nonempty), List.forall_mem_cons, space]
        by_cases kept : Separates gap
        · have blankSpace : ∀ d ∈ [' '], Text.isBlank d := List.forall_mem_singleton.mpr rfl
          rw [if_pos kept, Text.words_append_gap_append isWord (List.cons_ne_nil _ _) blankSpace,
            and_iff_right kept, List.cons_inj_right]
          exact next single
        · -- The two words are written as one, which is longer than the first of them.
          rw [if_neg kept, List.nil_append]
          refine iff_of_false (fun same => ?_) fun all => kept all.1
          obtain ⟨more, others, merged⟩ := Text.exists_words_append longer (output false rest)
          rw [List.append_assoc, List.singleton_append] at merged
          have lengths := congrArg List.length (List.cons.inj (merged.symm.trans same)).1
          simp at lengths

/-- **Which words are written.**  The words of what is written are those of the text iff every gap
between words is kept. -/
theorem words_output_iff (ms : List Traced) :
    Text.words (output true ms) = Text.words (ms.map Prod.fst) ↔
      ∀ gap ∈ gaps ms, Separates gap := by
  obtain ⟨gap, rest, rfl, blank, first⟩ := exists_gap ms
  have gapText : ∀ c ∈ gap.map Prod.fst, Text.isBlank c := List.forall_mem_map.mpr blank
  have outside : ∀ m ∈ gap, (!Text.isBlank m.1) = false := fun m member => by
    rw [blank m member]
    rfl
  rw [output_append, output_true_of_blank blank, List.nil_append, List.map_append,
    Text.words_blank_append gapText, gaps]
  cases rest with
  | nil =>
    rw [List.append_nil, List.splitOnP_eq_singleton outside]
    exact iff_of_true rfl nofun
  | cons m rest =>
    obtain ⟨c, fate⟩ := m
    have letter : Text.isBlank c = false := first (c, fate) rfl
    have single : Text.IsWord [c] := ⟨List.cons_ne_nil _ _, List.forall_mem_singleton.mpr letter⟩
    rw [List.splitOnP_append_cons_of_forall_mem outside (c, fate) (by simp [letter]),
      output_cons_of_shown rest letter]
    exact words_append_output_iff single rest

end Serialize

end MarkdownDialects
