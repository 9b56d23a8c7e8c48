import MarkdownDialects.Proofs.Markdown.Inline
import MarkdownDialects.Proofs.Markdown.RawHtml

/-!
# Reading escaped text

Text in which everything that marks up stands behind a backslash is read as one piece of text
(`Markdown.Inline.ofText_of_escapes`).  What is written and what it is read as are related piece by
piece (`Markdown.Escapes`); the serializer has to know nothing of the reader but this relation.
-/

namespace MarkdownDialects

namespace Markdown

/-- Whether a character means nothing in a text, whatever comes before it, given what is ahead. -/
def IsHarmless (c : Char) (ahead : Text) : Prop :=
  if c = '&' then ';' ∉ ahead
  else if c = '<' then '>' ∉ ahead
  else if c = '!' then ahead.head? ≠ some '['
  else Reader.isSpecial false c = false

/-- What is written, and the text it is read as: punctuation stands behind a backslash unless it
means nothing where it stands. -/
inductive Escapes : Text → Text → Prop
  | nil : Escapes [] []
  | escaped {c : Char} {written meant : Text} (punctuation : Ascii.isPunctuation c)
      (later : Escapes written meant) : Escapes ('\\' :: c :: written) (c :: meant)
  | plain {c : Char} {written meant : Text} (harmless : IsHarmless c written)
      (later : Escapes written meant) : Escapes (c :: written) (c :: meant)

namespace Escapes

variable {written meant : Text}

theorem eq_nil_iff (escapes : Escapes written meant) : written = [] ↔ meant = [] := by
  cases escapes <;> simp

/-- A character that is no backslash is read as itself. -/
theorem of_cons {c : Char} (escapes : Escapes (c :: written) meant) (unescaped : c ≠ '\\') :
    ∃ later, meant = c :: later ∧ IsHarmless c written ∧ Escapes written later := by
  cases escapes with
  | escaped punctuation later => exact absurd rfl unescaped
  | plain harmless later => exact ⟨_, rfl, harmless, later⟩

theorem of_append {run : Text} (unescaped : '\\' ∉ run) (escapes : Escapes (run ++ written) meant) :
    ∃ later, meant = run ++ later ∧ Escapes written later := by
  induction run generalizing meant with
  | nil => exact ⟨meant, rfl, escapes⟩
  | cons c run ih =>
    rw [List.mem_cons, not_or] at unescaped
    obtain ⟨meant, rfl, _, others⟩ := escapes.of_cons (Ne.symm unescaped.1)
    obtain ⟨later, rfl, left⟩ := ih unescaped.2 others
    exact ⟨later, rfl, left⟩

theorem eq_self (escapes : Escapes written meant) (unescaped : '\\' ∉ written) :
    meant = written := by
  rw [← List.append_nil written] at escapes
  obtain ⟨later, same, ends⟩ := escapes.of_append unescaped
  cases ends
  rw [same, List.append_nil]

/-- Characters without meaning are read as themselves in front of any text. -/
theorem append {run : Text} (ordinary : ∀ c ∈ run, Reader.isSpecial false c = false)
    (escapes : Escapes written meant) : Escapes (run ++ written) (run ++ meant) := by
  induction run with
  | nil => exact escapes
  | cons c run ih =>
    refine .plain ?_ (ih fun d member => ordinary d (.tail c member))
    have plain := ordinary c List.mem_cons_self
    have other (d : Char) (special : Reader.isSpecial false d = true) : c ≠ d := by
      rintro rfl
      exact Bool.noConfusion (plain.symm.trans special)
    rw [IsHarmless, if_neg (other '&' rfl), if_neg (other '<' rfl), if_neg (other '!' rfl)]
    exact plain

/-- A space in front stays one. -/
theorem eq_nil_or_space (escapes : Escapes written meant)
    (spaced : written = [] ∨ ∃ rest, written = ' ' :: rest) :
    meant = [] ∨ ∃ rest, meant = ' ' :: rest := by
  rcases spaced with rfl | ⟨rest, rfl⟩
  · exact .inl (escapes.eq_nil_iff.mp rfl)
  · obtain ⟨more, rfl, -, -⟩ := escapes.of_cons (by decide)
    exact .inr ⟨more, rfl⟩

/-- A space separates what comes before it from what comes after. -/
theorem of_append_space {front back : Text} (escapes : Escapes (front ++ ' ' :: back) meant) :
    ∃ before later, meant = before ++ ' ' :: later ∧ Escapes back later := by
  -- No backslash escapes a space, so that the space is read as itself.
  generalize whole : front ++ ' ' :: back = written at escapes
  induction escapes generalizing front with
  | nil => exact absurd whole (by simp)
  | @escaped c written meant punctuation escapes ih =>
    match front with
    | [] => exact absurd (List.cons.inj whole).1 (by decide)
    | [_] =>
      obtain rfl : ' ' = c := (List.cons.inj (List.cons.inj whole).2).1
      exact absurd punctuation (by decide)
    | _ :: _ :: front =>
      obtain ⟨before, later, rfl, left⟩ := ih (List.cons.inj (List.cons.inj whole).2).2
      exact ⟨c :: before, later, rfl, left⟩
  | @plain c written meant harmless escapes ih =>
    match front with
    | [] =>
      obtain ⟨rfl, rfl⟩ := List.cons.inj whole
      exact ⟨[], meant, rfl, escapes⟩
    | _ :: front =>
      obtain ⟨before, later, rfl, left⟩ := ih (List.cons.inj whole).2
      exact ⟨c :: before, later, rfl, left⟩

/-- Escaped text begins with no character that means something whatever follows. -/
theorem head?_ne (escapes : Escapes written meant) {c : Char} (solid : c ≠ '\\')
    (marks : ∀ ahead, ¬ IsHarmless c ahead) : written.head? ≠ some c := by
  cases escapes with
  | nil => exact nofun
  | escaped => simpa using Ne.symm solid
  | plain harmless _ =>
    rintro ⟨⟩
    exact marks _ harmless

theorem head?_ne_feed (escapes : Escapes written meant) : written.head? ≠ some '\n' :=
  escapes.head?_ne (by decide) fun _ harmless =>
    Bool.noConfusion (show Reader.isSpecial false '\n' = false from harmless)

theorem head?_ne_bracket (escapes : Escapes written meant) : written.head? ≠ some '[' :=
  escapes.head?_ne (by decide) fun _ harmless =>
    Bool.noConfusion (show Reader.isSpecial false '[' = false from harmless)

theorem mem (escapes : Escapes written meant) {c : Char} (member : c ∈ written) :
    c = '\\' ∨ c ∈ meant := by
  induction escapes with
  | nil => exact absurd member List.not_mem_nil
  | escaped _ _ ih =>
    rcases List.mem_cons.mp member with rfl | member
    · exact .inl rfl
    · rcases List.mem_cons.mp member with rfl | member
      · exact .inr List.mem_cons_self
      · exact (ih member).imp_right (.tail _)
  | plain _ _ ih =>
    rcases List.mem_cons.mp member with rfl | member
    · exact .inr List.mem_cons_self
    · exact (ih member).imp_right (.tail _)

theorem head? (escapes : Escapes written meant) :
    written.head? = some '\\' ∨ written.head? = meant.head? := by
  cases escapes with
  | nil => exact .inr rfl
  | escaped => exact .inl rfl
  | plain => exact .inr rfl

/-- A backslash never stands last but for itself. -/
theorem getLast? (escapes : Escapes written meant) : written.getLast? = meant.getLast? := by
  induction escapes with
  | nil => rfl
  | escaped _ _ ih => simp [List.getLast?_cons, ih]
  | plain _ _ ih => simp [List.getLast?_cons, ih]

/-- Escapes are not trimmed. -/
theorem trimBy_eq (escapes : Escapes written meant) {p : Char → Bool} (kept : p '\\' = false)
    (trimmed : Text.trimBy p meant = meant) : Text.trimBy p written = written := by
  simp only [Text.trimBy_eq_self_iff, Text.trimStartBy_eq_self_iff, Text.trimEndBy_eq_self_iff]
    at trimmed ⊢
  refine ⟨fun c first => ?_, fun c last => trimmed.2 c (escapes.getLast? ▸ last)⟩
  rcases escapes.head? with backslash | same
  · rw [backslash] at first
    cases first
    exact kept
  · exact trimmed.1 c (same ▸ first)

end Escapes

namespace Reader

/-- While escaped text is read, everything read already is shown by texts, and `left` is what is
ahead. -/
structure Spells (references : References) (meant left : Text) (r : Reader) : Prop where
  ahead : Escapes r.rest left
  unused : r.references = references
  shown : ∃ texts : List Text,
    r.tokens = (texts.map fun t => Token.done (.text t)).reverse ∧ texts.flatten ++ left = meant

variable {references : References} {meant left : Text} {r : Reader}

theorem spells_ofText (references : References) {written : Text} (escapes : Escapes written meant) :
    Spells references meant meant (ofText references written) :=
  ⟨escapes, rfl, [], rfl, rfl⟩

/-- Reading on over some text and showing what it means. -/
theorem Spells.goTo_addText (spells : Spells references meant left r) {back shown later : Text}
    (split : left = shown ++ later) (escapes : Escapes back later) :
    Spells references meant later ((r.goTo back).addText shown) := by
  obtain ⟨texts, tokens, whole⟩ := spells.shown
  refine ⟨escapes, spells.unused, texts ++ [shown], ?_, ?_⟩
  · simp [goTo, addText, add, push, tokens]
  · rw [List.flatten_append, List.flatten_singleton, List.append_assoc, ← split, whole]

theorem Spells.left_eq_nil (spells : Spells references meant left r) (ends : r.rest = []) :
    left = [] := by
  have escapes := spells.ahead
  rw [ends] at escapes
  cases escapes
  rfl

theorem Spells.tokens_ne_lineBreak (spells : Spells references meant left r)
    (tokens : List Token) : r.tokens ≠ .done .lineBreak :: tokens := by
  obtain ⟨texts, same, _⟩ := spells.shown
  rcases List.eq_nil_or_concat texts with rfl | ⟨texts, t, rfl⟩ <;> simp [same]

/-- Text up to the next special character is read as itself. -/
theorem Spells.readText (spells : Spells references meant left r) {c : Char} {rest : Text}
    (ahead : r.rest = c :: rest) (ordinary : isSpecial false c = false) :
    ∃ later, Spells references meant later (r.readText false c rest) ∧
      (r.readText false c rest).rest.length ≤ rest.length := by
  simp only [Reader.readText]
  have split : c :: rest = (c :: rest.takeWhile fun d => !isSpecial false d) ++
      rest.dropWhile fun d => !isSpecial false d := by
    rw [List.cons_append, List.takeWhile_append_dropWhile]
  have shorter := (List.dropWhile_suffix (l := rest) fun d => !isSpecial false d).length_le
  have plain : ∀ d ∈ c :: rest.takeWhile fun d => !isSpecial false d,
      isSpecial false d = false := by
    intro d member
    rcases List.mem_cons.mp member with rfl | member
    · exact ordinary
    · simpa using List.all_eq_true.mp List.all_takeWhile d member
  generalize c :: rest.takeWhile (fun d => !isSpecial false d) = run at split plain ⊢
  generalize rest.dropWhile (fun d => !isSpecial false d) = back at split shorter ⊢
  have escapes := spells.ahead
  rw [ahead, split] at escapes
  obtain ⟨later, whole, left⟩ := escapes.of_append fun member =>
    Bool.noConfusion (plain _ member)
  have noFeed : (back.head? == some '\n') = false := beq_eq_false_iff_ne.mpr left.head?_ne_feed
  rw [noFeed, if_neg Bool.false_ne_true]
  split
  · rename_i tokens broken
    exact absurd broken (spells.tokens_ne_lineBreak tokens)
  · exact ⟨later, spells.goTo_addText whole left, shorter⟩

theorem readBackslash_eq {d : Char} (punctuation : Ascii.isPunctuation d) (back : Text) :
    r.readBackslash (d :: back) = (r.goTo back).addText [d] := by
  have noFeed : d ≠ '\n' := by
    rintro rfl
    exact Bool.noConfusion punctuation
  rw [readBackslash.eq_2 _ _ _ noFeed, if_pos punctuation]

theorem readReference_eq {rest : Text} (unended : ';' ∉ rest) :
    r.readReference rest = (r.goTo rest).addText ['&'] := by
  have none : characterReference? rest = none := by
    cases found : characterReference? rest with
    | none => rfl
    | some reference => exact absurd (mem_of_characterReference? found) unended
  rw [readReference, none]

/-- A bracket that nothing closes is read as itself. -/
theorem Spells.readAngle (spells : Spells references meant left r) {rest later : Text}
    (split : left = '<' :: later) (unclosed : '>' ∉ rest) (escapes : Escapes rest later) :
    Spells references meant later (r.readAngle rest) ∧ (r.readAngle rest).rest = rest := by
  obtain ⟨kept, same, spelled⟩ : ∃ kept : Reader,
      (if rest.length < 2 then (none, r) else rawHtml r rest) = (none, kept) ∧
        Spells references meant left kept := by
    obtain ⟨_, _, _, _, found⟩ := rawHtml_of_not_mem r unclosed
    split
    · exact ⟨r, rfl, spells⟩
    · exact ⟨_, found, spells.ahead, spells.unused, spells.shown⟩
  rw [Reader.readAngle, uriInside?_eq_none unclosed, mailInside?_eq_none unclosed]
  simp only [same]
  exact ⟨spelled.goTo_addText split escapes, rfl⟩

/-- **A piece of escaped text is read as what it means.** -/
theorem Spells.step (spells : Spells references meant left r) {c : Char} {rest : Text}
    (ahead : r.rest = c :: rest) :
    ∃ later, Spells references meant later (r.step false c rest) ∧
      (r.step false c rest).rest.length ≤ rest.length := by
  have escapes := spells.ahead
  rw [ahead] at escapes
  cases escapes with
  | @escaped d written later punctuation escapes =>
    -- The character behind the backslash is read together with it.
    have read : r.step false '\\' (d :: written) = (r.goTo written).addText [d] :=
      readBackslash_eq punctuation written
    rw [read]
    exact ⟨later, spells.goTo_addText rfl escapes, Nat.le_succ _⟩
  | @plain _ _ later harmless escapes =>
    have one (same : r.step false c rest = (r.goTo rest).addText [c]) :
        ∃ later, Spells references meant later (r.step false c rest) ∧
          (r.step false c rest).rest.length ≤ rest.length :=
      same ▸ ⟨later, spells.goTo_addText rfl escapes, Nat.le_refl _⟩
    unfold IsHarmless at harmless
    split at harmless
    next same =>
      subst same
      exact one (readReference_eq harmless)
    split at harmless
    next _ same =>
      subst same
      obtain ⟨spelled, left⟩ := spells.readAngle rfl harmless escapes
      exact ⟨later, spelled, (congrArg List.length left).le⟩
    split at harmless
    next _ _ same =>
      subst same
      exact one (step_bang r false harmless)
    next noReference noTag noImage =>
      have read : r.step false c rest = r.readText false c rest :=
        step_of_isSpecial r false harmless rest
      rw [read]
      exact spells.readText ahead harmless

/-- All of escaped text is read as what it means. -/
theorem Spells.readAll (spells : Spells references meant left r) {fuel : Nat}
    (enough : r.rest.length ≤ fuel) : Spells references meant [] (readAll false fuel r) := by
  -- Every step takes something off the rest, so that the fuel is enough for what is left.
  induction fuel generalizing r left with
  | zero =>
    have ends : r.rest = [] := List.length_eq_zero_iff.mp (Nat.le_zero.mp enough)
    obtain rfl := spells.left_eq_nil ends
    exact spells
  | succ fuel ih =>
    rw [Reader.readAll]
    cases ahead : r.rest with
    | nil =>
      obtain rfl := spells.left_eq_nil ahead
      exact spells
    | cons c rest =>
      obtain ⟨later, spelled, shorter⟩ := spells.step ahead
      rw [ahead, List.length_cons] at enough
      exact ih spelled (shorter.trans (Nat.le_of_succ_le_succ enough))

end Reader

/-- **Escaped text is read as the text it means.** -/
theorem Inline.ofText_of_escapes {t written meant : Text}
    (trimmed : Text.trimEndBy Ascii.isTrimmed t = written) (escapes : Escapes written meant)
    (nonempty : meant ≠ []) (references : References) :
    (Inline.ofText false t).run references = ([.text meant], references) := by
  have spells := (Reader.spells_ofText references escapes).readAll (Nat.le_refl written.length)
  have read : (Inline.ofText false t).run references =
      (fun r : Reader => (Emphasis.resolve r.tokens.reverse, r.references))
        (Reader.readAll false (Text.trimEndBy Ascii.isTrimmed t).length
          (Reader.ofText references (Text.trimEndBy Ascii.isTrimmed t))) := rfl
  rw [read, trimmed]
  generalize Reader.readAll false written.length (Reader.ofText references written) = r at spells
  obtain ⟨texts, tokens, whole⟩ := spells.shown
  rw [List.append_nil] at whole
  subst whole
  simp only [tokens, List.reverse_reverse, Emphasis.resolve_texts nonempty, spells.unused]

end Markdown

end MarkdownDialects
