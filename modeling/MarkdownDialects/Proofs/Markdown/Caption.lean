import MarkdownDialects.Proofs.Markdown.Escaped

/-!
# The text of a link or an image

What is between the brackets of a link or an image is read as content.  A text that means itself
there (`Markdown.isCaptionBehind`) has no brackets, and none of its delimiters may close emphasis.
Such a text is read up to the closing bracket (`Markdown.Reader.Captions.readAll`), which completes
the link or the image if a target follows (`Markdown.Inline.ofText_captioned`).
-/

namespace MarkdownDialects

namespace Markdown

/-- The characters that emphasis and deletions begin and end with. -/
def isDelimiter (c : Char) : Bool := c == '*' || c == '_' || c == '~'

/-- Whether a run of delimiters between these characters may close emphasis. -/
def mayClose (mark before after : Char) : Bool :=
  let left := !Text.isBlank after &&
    (!Category.isMark after || Text.isBlank before || Category.isMark before)
  let right := !Text.isBlank before &&
    (!Category.isMark before || Text.isBlank after || Category.isMark after)
  right && (mark != '_' || !left || Category.isMark after)

/-- Whether a character between brackets means itself, given what is before it, in reverse, and what
is ahead up to the closing bracket. -/
def isPlainBetween (seen : Text) (c : Char) (ahead : Text) : Bool :=
  if c == '&' then !ahead.contains ';'
  else if c == '<' then !ahead.contains '>'
  else if c == '\\' then ahead.head?.any fun d => !Ascii.isPunctuation d
  else if isDelimiter c then
    !mayClose c (Reader.flank (seen.dropWhile (· == c)))
      (Reader.flank (ahead.dropWhile (· == c) ++ [']']))
  else !"`[]\n\r\x00".toList.contains c

/-- Whether all of a text means itself behind what is before it. -/
def isCaptionBehind (seen : Text) : Text → Bool
  | [] => true
  | c :: ahead => isPlainBetween seen c ahead && isCaptionBehind (c :: seen) ahead

theorem isCaptionBehind_append {seen run later : Text}
    (plain : isCaptionBehind seen (run ++ later)) :
    isCaptionBehind (run.reverse ++ seen) later := by
  induction run generalizing seen with
  | nil => exact plain
  | cons c run ih =>
    have others := ih (Bool.and_eq_true_iff.mp plain).2
    simpa using others

/-- Line ends, brackets and backticks are never plain. -/
theorem not_mem_of_isCaptionBehind {seen t : Text} (plain : isCaptionBehind seen t) {c : Char}
    (markup : "`[]\n\r\x00".toList.contains c) : c ∉ t := by
  induction t generalizing seen with
  | nil => exact List.not_mem_nil
  | cons d t ih =>
    obtain ⟨first, others⟩ := Bool.and_eq_true_iff.mp plain
    rw [List.mem_cons, not_or]
    refine ⟨?_, ih others⟩
    rintro rfl
    have all : ∀ c ∈ "`[]\n\r\x00".toList, ∀ seen ahead, isPlainBetween seen c ahead = false := by
      simp [isPlainBetween, isDelimiter]
    exact Bool.noConfusion ((all c (List.contains_iff_mem.mp markup) _ _).symm.trans first)

namespace Reader

section Bracket

variable {p : Char → Bool} (stop : p ']' = false) (t back : Text)
include stop

theorem takeWhile_append_bracket : (t ++ ']' :: back).takeWhile p = t.takeWhile p := by
  rw [List.takeWhile_append, List.takeWhile_cons_of_neg (by simp [stop])]
  split
  · rename_i all
    rw [(List.takeWhile_prefix p).eq_of_length all, List.append_nil]
  · rfl

theorem dropWhile_append_bracket :
    (t ++ ']' :: back).dropWhile p = t.dropWhile p ++ ']' :: back := by
  rw [List.dropWhile_append, List.dropWhile_cons_of_neg (by simp [stop])]
  split
  · rename_i nothing
    rw [List.isEmpty_iff.mp nothing, List.nil_append]
  · rfl

end Bracket

/-- Text is read up to the closing bracket at most. -/
theorem readText_eq_of_bracket {r : Reader} (linkify : Bool) (c : Char) {rest : Text} (back : Text)
    (oneLine : '\n' ∉ rest) (unbroken : ∀ tokens, r.tokens ≠ .done .lineBreak :: tokens) :
    r.readText linkify c (rest ++ ']' :: back) =
      (r.goTo ((rest.dropWhile fun d => !isSpecial linkify d) ++ ']' :: back)).addText
        (c :: rest.takeWhile fun d => !isSpecial linkify d) := by
  generalize plain : (fun d => !isSpecial linkify d) = p
  have stop : p ']' = false := by
    rw [← plain]
    cases linkify <;> rfl
  have noFeed : ((rest.dropWhile p ++ ']' :: back).head? == some '\n') = false := by
    rw [beq_eq_false_iff_ne, List.head?_append]
    intro feed
    cases first : (rest.dropWhile p).head? with
    | none =>
      rw [first] at feed
      exact absurd feed (by simp)
    | some d =>
      rw [first] at feed
      obtain rfl : d = '\n' := Option.some.inj feed
      exact oneLine ((List.dropWhile_suffix p).mem (List.mem_of_mem_head? first))
  simp only [readText, plain, takeWhile_append_bracket stop, dropWhile_append_bracket stop, noFeed,
    Bool.false_eq_true, if_false]

/-- Inside brackets no web address starts: its first character is read as itself. -/
theorem step_of_inBrackets {r : Reader} (bracketed : r.inBrackets = true) (linkify : Bool)
    {c : Char} (harmless : isSpecial false c = false) (rest : Text) :
    r.step linkify c rest =
      if isSpecial linkify c then (r.goTo rest).addText [c] else r.readText linkify c rest := by
  have special : isSpecial linkify c = (linkify && (c == ':' || c == 'w')) := by
    rw [isSpecial, Bool.false_and, Bool.or_false] at harmless
    rw [isSpecial, harmless, Bool.false_or]
  have colon (rest : Text) : r.readColon rest = (r.goTo rest).addText [':'] := by
    rw [readColon, bracketed]
    rfl
  have host (rest : Text) : r.readW rest = (r.goTo rest).addText ['w'] := by
    rw [readW, bracketed]
    rfl
  rw [step_of_isSpecial r linkify harmless, special, colon, host]
  cases linkify with
  | false => rfl
  | true =>
    simp only [Bool.true_and]
    by_cases isColon : c = ':'
    · subst isColon
      rfl
    by_cases isHost : c = 'w'
    · subst isHost
      rfl
    · simp [isColon, isHost]

/-- The bracket opened last, behind tokens that are none. -/
theorem lastBracket?_append {tokens : List Token}
    (flat : ∀ image position followed, .bracket image position followed ∉ tokens)
    (inner : List Token) (image : Bool) (position : Nat) (followed : Bool) (before : List Token) :
    lastBracket? inner (tokens ++ .bracket image position followed :: before) =
      some ⟨tokens.reverse ++ inner, image, position, followed, before⟩ := by
  induction tokens generalizing inner with
  | nil => rfl
  | cons t tokens ih =>
    have others := ih (fun _ _ _ member => flat _ _ _ (.tail t member)) (t :: inner)
    cases t with
    | bracket image position followed => exact absurd List.mem_cons_self (flat _ _ _)
    | done _ => simpa [lastBracket?] using others
    | run _ => simpa [lastBracket?] using others

/-- Tokens, newest first, that show nothing but this text: delimiters among them close nothing. -/
inductive Shown : List Token → Text → Prop
  | nil : Shown [] []
  | text {tokens : List Token} {shown : Text} (t : Text) (before : Shown tokens shown) :
      Shown (.done (.text t) :: tokens) (shown ++ t)
  | run {tokens : List Token} {shown : Text} {r : DelimiterRun} (idle : r.closes = false)
      (before : Shown tokens shown) : Shown (.run r :: tokens) (shown ++ Text.rep r.count r.mark)

namespace Shown

variable {tokens : List Token} {shown : Text} (shows : Shown tokens shown)
include shows

theorem closes_eq_false : ∀ t ∈ tokens, t.closes = false := by
  induction shows with
  | nil => exact nofun
  | text t _ ih => exact List.forall_mem_cons.mpr ⟨rfl, ih⟩
  | run idle _ ih => exact List.forall_mem_cons.mpr ⟨idle, ih⟩

theorem exists_texts :
    ∃ texts : List Text, tokens.reverse.map Token.plain = texts.map .text ∧
      texts.flatten = shown := by
  induction shows with
  | nil => exact ⟨[], rfl, rfl⟩
  | text t _ ih =>
    obtain ⟨texts, same, whole⟩ := ih
    exact ⟨texts ++ [t], by simp [same, Token.plain], by simp [whole]⟩
  | @run _ _ r _ _ ih =>
    obtain ⟨texts, same, whole⟩ := ih
    exact ⟨texts ++ [Text.rep r.count r.mark], by simp [same, Token.plain], by simp [whole]⟩

/-- Nothing in what they show takes part in emphasis. -/
theorem resolve_eq : Emphasis.resolve tokens.reverse = Inline.consJoined (.text shown) [] := by
  obtain ⟨texts, same, rfl⟩ := shows.exists_texts
  rw [Emphasis.resolve_of_idle fun t member =>
    shows.closes_eq_false t (List.mem_reverse.mp member), same]
  exact Inline.joinTexts_map_text texts

theorem not_mem_bracket (image : Bool) (position : Nat) (followed : Bool) :
    .bracket image position followed ∉ tokens := by
  induction shows with
  | nil => exact List.not_mem_nil
  | text t _ ih => simpa using ih
  | run _ _ ih => simpa using ih

theorem ne_lineBreak (image : Bool) (position : Nat) (others : List Token) :
    tokens ++ [.bracket image position false] ≠ .done .lineBreak :: others := by
  cases shows <;> simp

end Shown

/-- A run of delimiters that may not close emphasis is shown as it is. -/
theorem readDelimiters_of_not_mayClose (r : Reader) {mark : Char} {run : Text}
    (taken : r.rest.takeWhile (· == mark) = run)
    (idle : mayClose mark (flank r.seen) (flank (r.rest.dropWhile (· == mark))) = false) :
    ∃ token, r.readDelimiters mark = (r.goTo (r.rest.dropWhile (· == mark))).push token ∧
      ∀ {tokens : List Token} {shown : Text}, Shown tokens shown →
        Shown (token :: tokens) (shown ++ run) := by
  have run_eq : Text.rep run.length mark = run := by
    refine (List.eq_replicate_iff.mpr ⟨rfl, fun c member => ?_⟩).symm
    exact beq_iff_eq.mp (List.all_eq_true.mp List.all_takeWhile c (taken ▸ member))
  have delimiters (opens : Bool) {tokens : List Token} {shown : Text}
      (before : Shown tokens shown) :
      Shown (.run ⟨mark, run.length, run.length, opens, false⟩ :: tokens) (shown ++ run) := by
    rw [← run_eq]
    simpa using Shown.run (r := ⟨mark, run.length, run.length, opens, false⟩) rfl before
  rw [mayClose] at idle
  simp only [readDelimiters, taken, idle, Bool.or_false]
  split
  · exact ⟨_, rfl, delimiters _⟩
  · exact ⟨_, rfl, .text run⟩

theorem flank_append_bracket (t back : Text) : flank (t ++ ']' :: back) = flank (t ++ [']']) := by
  rw [flank, flank, dropWhile_append_bracket rfl, dropWhile_append_bracket rfl]
  cases t.dropWhile (· == '~') <;> rfl

/-- What opens the brackets of a link or an image. -/
def opening (image : Bool) : Text := if image then ['!', '['] else ['[']

/-- While the text between the brackets of a link or an image is read, the tokens behind the opening
bracket show what is read already, and `written` is ahead up to the closing bracket. -/
structure Captions (references : References) (image : Bool) (caption back written : Text)
    (r : Reader) : Prop where
  ahead : r.rest = written ++ ']' :: back
  plain : isCaptionBehind r.seen written
  /-- No run of delimiters is read in part. -/
  whole : ∀ c ∈ r.seen.head?, isDelimiter c → written.head? ≠ some c
  unused : r.references = references
  bracketed : r.inBrackets = true
  barred : r.linksBarred = image
  shown : ∃ tokens before,
    r.tokens = tokens ++ [.bracket image (opening image).length false] ∧ Shown tokens before ∧
      before ++ written = caption

section Captions

variable {references : References} {image : Bool} {caption back written : Text} {r : Reader}

theorem Captions.mem {c : Char} (captions : Captions references image caption back written r)
    (member : c ∈ written) : c ∈ caption := by
  obtain ⟨_, before, _, _, whole⟩ := captions.shown
  exact whole ▸ List.mem_append_right before member

/-- Reading on over some text and showing it. -/
theorem Captions.goTo_push (captions : Captions references image caption back written r)
    {run later : Text} (split : written = run ++ later) (nonempty : run ≠ [])
    (whole : ∀ c ∈ run.getLast?, isDelimiter c → later.head? ≠ some c) {token : Token}
    (shows : ∀ {tokens : List Token} {shown : Text}, Shown tokens shown →
      Shown (token :: tokens) (shown ++ run)) :
    Captions references image caption back later ((r.goTo (later ++ ']' :: back)).push token) := by
  obtain ⟨tokens, before, same, shown, all⟩ := captions.shown
  have ahead : r.rest = run ++ (later ++ ']' :: back) := by
    rw [captions.ahead, split, List.append_assoc]
  rw [goTo_eq ahead]
  refine ⟨rfl, isCaptionBehind_append (split ▸ captions.plain), ?_, captions.unused,
    captions.bracketed, captions.barred, token :: tokens, before ++ run, ?_, shows shown, ?_⟩
  · intro c last
    refine whole c ?_
    obtain ⟨front, d, rfl⟩ := List.eq_nil_or_concat run |>.resolve_left nonempty
    simpa [push] using last
  · simp [push, same]
  · rw [List.append_assoc, ← split, all]

/-- Reading on over one character and showing it. -/
theorem Captions.goTo_addText {c : Char}
    (captions : Captions references image caption back (c :: written) r)
    (ordinary : isDelimiter c = false) :
    Captions references image caption back written
      ((r.goTo (written ++ ']' :: back)).addText [c]) := by
  refine captions.goTo_push List.singleton_append.symm (List.cons_ne_nil c []) ?_ (.text [c])
  rintro _ ⟨⟩ delimiter
  exact absurd (ordinary.symm.trans delimiter) Bool.false_ne_true

/-- Text up to the next special character is shown as it is. -/
theorem Captions.readText {c : Char}
    (captions : Captions references image caption back (c :: written) r) (linkify : Bool) (ordinary : isSpecial linkify c = false) :
    ∃ later, Captions references image caption back later
      (r.readText linkify c (written ++ ']' :: back)) ∧ later.length ≤ written.length := by
  obtain ⟨tokens, _, same, shown, _⟩ := captions.shown
  have oneLine : '\n' ∉ written := fun member =>
    not_mem_of_isCaptionBehind captions.plain rfl (.tail c member)
  have unbroken : ∀ others, r.tokens ≠ .done .lineBreak :: others :=
    same ▸ shown.ne_lineBreak _ _
  rw [readText_eq_of_bracket linkify c back oneLine unbroken]
  have split : c :: written = (c :: written.takeWhile fun d => !isSpecial linkify d) ++
      written.dropWhile fun d => !isSpecial linkify d := by
    rw [List.cons_append, List.takeWhile_append_dropWhile]
  have plain : ∀ d ∈ c :: written.takeWhile fun d => !isSpecial linkify d,
      isDelimiter d = false := by
    have all : ∀ d, isSpecial linkify d = false → isDelimiter d = false := fun d => by
      simp +contextual [isSpecial, isDelimiter]
    intro d member
    rcases List.mem_cons.mp member with rfl | member
    · exact all d ordinary
    · exact all d (by simpa using List.all_eq_true.mp List.all_takeWhile d member)
  have shorter := (List.dropWhile_suffix (l := written) fun d => !isSpecial linkify d).length_le
  refine ⟨_, captions.goTo_push split (List.cons_ne_nil _ _) ?_ (.text _), shorter⟩
  intro d last delimiter
  exact absurd ((plain d (List.mem_of_getLast? last)).symm.trans delimiter) Bool.false_ne_true

/-- Delimiters that may not close emphasis are shown as they are. -/
theorem Captions.readDelimiters {c : Char}
    (captions : Captions references image caption back (c :: written) r) (delimiter : isDelimiter c)
    (idle : mayClose c (flank (r.seen.dropWhile (· == c)))
      (flank (written.dropWhile (· == c) ++ [']'])) = false) :
    ∃ later, Captions references image caption back later (r.readDelimiters c) ∧
      later.length ≤ written.length := by
  have stop : (']' == c) = false := by
    refine beq_eq_false_iff_ne.mpr ?_
    rintro rfl
    exact Bool.noConfusion delimiter
  have first : (c == c) = true := beq_self_eq_true c
  have seen : r.seen.dropWhile (· == c) = r.seen := by
    cases before : r.seen with
    | nil => rfl
    | cons d seen =>
      refine List.dropWhile_cons_of_neg fun same => ?_
      have other := captions.whole d (by rw [before]; rfl)
      obtain rfl := beq_iff_eq.mp same
      exact other delimiter rfl
  have left : r.rest.dropWhile (· == c) = written.dropWhile (· == c) ++ ']' :: back := by
    rw [captions.ahead, dropWhile_append_bracket stop, List.dropWhile_cons, if_pos first]
  have taken : r.rest.takeWhile (· == c) = c :: written.takeWhile (· == c) := by
    rw [captions.ahead, takeWhile_append_bracket stop, List.takeWhile_cons, if_pos first]
  have idle : mayClose c (flank r.seen) (flank (r.rest.dropWhile (· == c))) = false := by
    rw [left, flank_append_bracket, ← seen]
    exact idle
  obtain ⟨token, read, shows⟩ := readDelimiters_of_not_mayClose r taken idle
  have split : c :: written = (c :: written.takeWhile (· == c)) ++ written.dropWhile (· == c) := by
    rw [List.cons_append, List.takeWhile_append_dropWhile]
  rw [read, left]
  refine ⟨_, captions.goTo_push split (List.cons_ne_nil _ _) ?_ shows,
    (List.dropWhile_suffix _).length_le⟩
  intro d last _ next
  have inside : ∀ d ∈ c :: written.takeWhile (· == c), d = c :=
    List.forall_mem_cons.mpr ⟨rfl, fun d member =>
      beq_iff_eq.mp (List.all_eq_true.mp List.all_takeWhile d member)⟩
  obtain rfl := inside d (List.mem_of_getLast? last)
  have different := List.head?_dropWhile_not (· == d) written
  rw [next] at different
  simp at different

variable (noReference : '&' ∈ caption → ';' ∉ back) (noTag : '<' ∈ caption → '>' ∉ back)
  (linkify : Bool)

include noTag in
/-- A bracket that nothing closes is read as itself. -/
theorem Captions.readAngle (captions : Captions references image caption back ('<' :: written) r)
    (unclosed : '>' ∉ written) :
    Captions references image caption back written (r.readAngle (written ++ ']' :: back)) := by
  have unclosed : '>' ∉ written ++ ']' :: back := by
    simp [unclosed, noTag (captions.mem List.mem_cons_self)]
  obtain ⟨kept, same, captioned⟩ : ∃ kept : Reader,
      (if (written ++ ']' :: back).length < 2 then (none, r)
        else rawHtml r (written ++ ']' :: back)) = (none, kept) ∧
        Captions references image caption back ('<' :: written) kept := by
    obtain ⟨_, _, _, _, found⟩ := rawHtml_of_not_mem r unclosed
    split
    · exact ⟨r, rfl, captions⟩
    · exact ⟨_, found, captions.ahead, captions.plain, captions.whole, captions.unused,
        captions.bracketed, captions.barred, captions.shown⟩
  rw [Reader.readAngle, uriInside?_eq_none unclosed, mailInside?_eq_none unclosed]
  simp only [same]
  exact captioned.goTo_addText rfl

include noReference noTag in
/-- **A piece of the text between brackets is shown as it is.** -/
theorem Captions.step {c : Char}
    (captions : Captions references image caption back (c :: written) r) :
    ∃ later, Captions references image caption back later
      (r.step linkify c (written ++ ']' :: back)) ∧ later.length ≤ written.length := by
  have plain := (Bool.and_eq_true_iff.mp captions.plain).1
  have one (ordinary : isDelimiter c = false) (same : r.step linkify c (written ++ ']' :: back) =
      (r.goTo (written ++ ']' :: back)).addText [c]) :
      ∃ later, Captions references image caption back later
        (r.step linkify c (written ++ ']' :: back)) ∧ later.length ≤ written.length :=
    same ▸ ⟨written, captions.goTo_addText ordinary, Nat.le_refl _⟩
  rw [isPlainBetween] at plain
  split at plain
  next same =>
    obtain rfl := beq_iff_eq.mp same
    have unended : ';' ∉ written := by simpa using plain
    have unended : ';' ∉ written ++ ']' :: back := by
      simp [unended, noReference (captions.mem List.mem_cons_self)]
    exact one rfl (readReference_eq unended)
  split at plain
  next _ same =>
    obtain rfl := beq_iff_eq.mp same
    have unclosed : '>' ∉ written := by simpa using plain
    exact ⟨written, captions.readAngle noTag unclosed, Nat.le_refl _⟩
  split at plain
  next _ _ same =>
    obtain rfl := beq_iff_eq.mp same
    have noFeed := not_mem_of_isCaptionBehind captions.plain (c := '\n') rfl
    cases written with
    | nil => exact Bool.noConfusion plain
    | cons d written =>
      rw [List.mem_cons, List.mem_cons, not_or, not_or] at noFeed
      have other : d ≠ '\n' := Ne.symm noFeed.2.1
      have read : r.readBackslash (d :: written ++ ']' :: back) =
          (r.goTo (d :: written ++ ']' :: back)).addText ['\\'] := by
        rw [List.cons_append, readBackslash.eq_2 _ _ _ other, if_neg (by simpa using plain)]
      exact one rfl read
  split at plain
  next _ _ _ delimiter =>
    obtain ⟨later, stepped, shorter⟩ := captions.readDelimiters delimiter (by simpa using plain)
    have read : r.step linkify c (written ++ ']' :: back) = r.readDelimiters c := by
      rcases (by simpa [isDelimiter, or_assoc] using delimiter : c = '*' ∨ c = '_' ∨ c = '~') with
        rfl | rfl | rfl <;> rfl
    exact ⟨later, read ▸ stepped, shorter⟩
  next noReference noTag noEscape noDelimiter =>
    have unmarked : isDelimiter c = false := Bool.eq_false_iff.mpr noDelimiter
    -- An image in the text would need a bracket.
    by_cases bang : c = '!'
    · subst bang
      have noBracket : '[' ∉ written := fun member =>
        not_mem_of_isCaptionBehind captions.plain rfl (.tail _ member)
      refine one rfl (step_bang r linkify fun first => ?_)
      cases written with
      | nil => exact absurd first (by simp)
      | cons d written =>
        obtain rfl : d = '[' := Option.some.inj first
        exact noBracket List.mem_cons_self
    have harmless : isSpecial false c = false := by
      simp_all [isSpecial, isDelimiter]
    by_cases special : isSpecial linkify c
    · refine one unmarked ?_
      rw [step_of_inBrackets captions.bracketed linkify harmless, if_pos special]
    · rw [step_of_inBrackets captions.bracketed linkify harmless, if_neg special]
      exact captions.readText linkify (Bool.eq_false_iff.mpr special)

include noReference noTag in
/-- All of the text between the brackets is read, up to the closing one. -/
theorem Captions.readAll (captions : Captions references image caption back written r) {fuel : Nat}
    (enough : r.rest.length ≤ fuel) :
    ∃ closing spare, Captions references image caption back [] closing ∧ back.length ≤ spare ∧
      readAll linkify fuel r = readAll linkify (spare + 1) closing := by
  -- Every step takes something off the text, so that the fuel is enough for what is left.
  induction long : written.length using Nat.strong_induction_on generalizing written r fuel with
  | _ size ih =>
    rw [captions.ahead, List.length_append, List.length_cons] at enough
    cases written with
    | nil =>
      obtain ⟨spare, rfl⟩ : ∃ spare, fuel = spare + 1 := ⟨fuel - 1, by omega⟩
      exact ⟨r, spare, captions, by simpa using enough, rfl⟩
    | cons c written =>
      obtain ⟨later, stepped, shorter⟩ := captions.step noReference noTag linkify
      rw [List.length_cons] at long enough
      obtain ⟨fuel, rfl⟩ : ∃ n, fuel = n + 1 := ⟨fuel - 1, by omega⟩
      have read : Reader.readAll linkify (fuel + 1) r =
          Reader.readAll linkify fuel (r.step linkify c (written ++ ']' :: back)) := by
        rw [Reader.readAll, captions.ahead, List.cons_append]
      rw [read]
      refine ih later.length (by omega) stepped ?_ rfl
      rw [stepped.ahead, List.length_append, List.length_cons]
      omega

/-- The first step opens the brackets.  No text of an image starts like a footnote. -/
theorem exists_captions_ofText (references : References)
    (plain : isCaptionBehind (opening image).reverse caption)
    (noFootnote : image → caption.head? ≠ some '^') (fuel : Nat) :
    ∃ opened, Captions references image caption back caption opened ∧
      readAll linkify (fuel + 1) (ofText references (opening image ++ (caption ++ ']' :: back))) =
        readAll linkify fuel opened := by
  have ahead : (ofText references (opening image ++ (caption ++ ']' :: back))).rest =
      opening image ++ (caption ++ ']' :: back) := rfl
  refine ⟨(ofText references (opening image ++ (caption ++ ']' :: back))).openBracket image
    (caption ++ ']' :: back), ?_, ?_⟩
  · rw [openBracket, goTo_eq ahead]
    refine ⟨rfl, by simpa [ofText] using plain, ?_, rfl, rfl, by simp [ofText], [], [], ?_, .nil,
      rfl⟩
    · intro c last delimiter
      cases image <;> cases last <;> exact Bool.noConfusion delimiter
    · simp [ofText, markFollowed]
  · cases image with
    | false => rfl
    | true =>
      cases caption with
      | nil => rfl
      | cons c caption =>
        have other : c ≠ '^' := by simpa using noFootnote rfl
        simp [Reader.readAll, ofText, opening, Reader.step, other]

/-- A closing bracket before a target completes the link or the image. -/
theorem Captions.closeBracket {inside : Text}
    (captions : Captions references image caption ('(' :: inside) [] r) {target : Target}
    {after : Text} (found : inlineTarget? inside = some (target, after)) :
    (r.closeBracket ('(' :: inside)).rest = after ∧
      (r.closeBracket ('(' :: inside)).references = references ∧
      (r.closeBracket ('(' :: inside)).tokens =
        [.done (if image then .image target (Inline.consJoined (.text caption) [])
          else .link target (Inline.consJoined (.text caption) []))] := by
  obtain ⟨tokens, before, same, shown, whole⟩ := captions.shown
  obtain rfl : before = caption := by rw [← whole, List.append_nil]
  have bracket : lastBracket? [] r.tokens =
      some ⟨tokens.reverse, image, (opening image).length, false, []⟩ := by
    rw [same, lastBracket?_append shown.not_mem_bracket, List.append_nil]
  have read (b : OpenBracket) (before : Text) :
      closingTarget? r.references b before ('(' :: inside) = some (target, after, references) := by
    have opened : (Text.after? ['('] ('(' :: inside)).bind inlineTarget? = some (target, after) :=
      found
    rw [closingTarget?, opened, captions.unused]
  have allowed : (!image && r.linksBarred) = false := by
    rw [captions.barred, Bool.not_and_self]
  have closed : r.closeBracket ('(' :: inside) =
      { ({ r.goTo ('(' :: inside) with inBrackets := false } : Reader).goTo after with
        tokens := [.done (if image then .image target (Inline.consJoined (.text before) [])
          else .link target (Inline.consJoined (.text before) []))]
        references
        linksBarred := r.linksBarred || !image } := by
    rw [Reader.closeBracket]
    simp only [bracket, read, allowed, Bool.false_eq_true, if_false, shown.resolve_eq]
  rw [closed]
  exact ⟨rfl, rfl, rfl⟩

end Captions

end Reader

/-- **A text that means itself is the text of the link or the image in front of a target.** -/
theorem Inline.ofText_captioned (linkify image : Bool) {caption destination : Text}
    (plain : isCaptionBehind (Reader.opening image).reverse caption)
    (noFootnote : image → caption.head? ≠ some '^')
    (noReference : '&' ∈ caption → ';' ∉ destination)
    (noTag : '<' ∈ caption → '>' ∉ destination)
    {target : Target} (found : inlineTarget? (destination ++ [')']) = some (target, []))
    {t : Text} (trimmed : Text.trimEndBy Ascii.isTrimmed t =
      Reader.opening image ++ (caption ++ ']' :: '(' :: (destination ++ [')'])))
    (references : References) :
    (Inline.ofText linkify t).run references =
      ([if image then .image target (consJoined (.text caption) [])
        else .link target (consJoined (.text caption) [])], references) := by
  have unended : '&' ∈ caption → ';' ∉ '(' :: (destination ++ [')']) := fun member => by
    simp [noReference member]
  have unclosed : '<' ∈ caption → '>' ∉ '(' :: (destination ++ [')']) := fun member => by
    simp [noTag member]
  generalize ahead : caption ++ ']' :: '(' :: (destination ++ [')']) = inside at trimmed
  obtain ⟨fuel, size, enough⟩ :
      ∃ fuel, (Reader.opening image ++ inside).length = fuel + 1 ∧ inside.length ≤ fuel := by
    cases image with
    | false => exact ⟨inside.length, rfl, Nat.le_refl _⟩
    | true => exact ⟨inside.length + 1, rfl, Nat.le_succ _⟩
  obtain ⟨opened, captions, first⟩ := Reader.exists_captions_ofText linkify references plain
    noFootnote fuel
  rw [ahead] at first
  obtain ⟨closing, spare, closed, -, read⟩ := captions.readAll unended unclosed linkify
    (captions.ahead ▸ ahead ▸ enough)
  obtain ⟨ends, unused, tokens⟩ := closed.closeBracket found
  have last : Reader.readAll linkify (spare + 1) closing =
      closing.closeBracket ('(' :: (destination ++ [')'])) := by
    have stepped : Reader.readAll linkify (spare + 1) closing =
        Reader.readAll linkify spare (closing.closeBracket ('(' :: (destination ++ [')']))) := by
      rw [Reader.readAll, closed.ahead]
      rfl
    rw [stepped]
    cases spare with
    | zero => rfl
    | succ spare => rw [Reader.readAll, ends]
  have content : (Inline.ofText linkify t).run references =
      (fun r : Reader => (if linkify then
          joinTexts (Autolink.mailsInAll (Emphasis.resolve r.tokens.reverse))
        else Emphasis.resolve r.tokens.reverse, r.references))
        (Reader.readAll linkify (Text.trimEndBy Ascii.isTrimmed t).length
          (Reader.ofText references (Text.trimEndBy Ascii.isTrimmed t))) := rfl
  rw [content, trimmed, size, first, read, last]
  dsimp only
  rw [tokens, unused]
  cases linkify <;> cases image <;> rfl

end Markdown

end MarkdownDialects
