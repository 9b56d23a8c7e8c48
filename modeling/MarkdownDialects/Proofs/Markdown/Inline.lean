import Mathlib.Data.List.Chain
import MarkdownDialects.Html.Escape
import MarkdownDialects.Markdown.Render
import MarkdownDialects.Proofs.Markdown.Prose

/-!
# Reading content without markup

A text without markup, with nothing blank next to its line ends, is read piece by piece, and each
piece shows exactly the characters it was read from (`Markdown.Reader.step_of_isTidy`).  So the
content of a paragraph of prose is its text (`Markdown.Inline.ofText_of_isTidy`).
-/

namespace MarkdownDialects

namespace Markdown

/-- Next to a line end stands something shown. -/
def ShowsEnds (before after : Char) : Prop :=
  (after = '\n' → Text.isBlank before = false) ∧ (before = '\n' → Text.isBlank after = false)

/-- A text without markup, no line of which starts or ends blank. -/
structure IsTidy (t : Text) : Prop where
  inert : ∀ c ∈ t, isInert c
  noScheme : ¬ "://".toList <:+: t
  noHost : ¬ "www.".toList <:+: t
  neighbours : t.IsChain ShowsEnds

theorem IsTidy.showsEnds {t front back : Text} {c d : Char} (tidy : IsTidy t)
    (whole : t = front ++ c :: d :: back) : ShowsEnds c d :=
  List.isChain_iff_forall_rel_of_append_cons_cons.mp tidy.neighbours whole

namespace Inline

/-- Content that shows the text it was read from. -/
inductive IsPlain : Inline → Prop
  | text {t : Text} (noAt : '@' ∉ t) : IsPlain (.text t)
  | softBreak : IsPlain .softBreak

/-- The text that plain content was read from. -/
def source : Inline → Text
  | .text t => t
  | .softBreak => ['\n']
  | _ => []

theorem consJoined_of_isPlain {i : Inline} {rest : List Inline} (first : i.IsPlain)
    (plain : ∀ j ∈ rest, j.IsPlain) :
    (∀ j ∈ consJoined i rest, j.IsPlain) ∧
      (consJoined i rest).flatMap source = i.source ++ rest.flatMap source := by
  unfold consJoined
  split
  · exact ⟨plain, rfl⟩
  · rename_i t u rest _
    cases first with
    | text noAt =>
      cases plain (.text u) List.mem_cons_self with
      | text noAt' =>
        refine ⟨?_, by simp [source]⟩
        intro j member
        rcases List.mem_cons.mp member with rfl | member
        · exact .text (by simp [noAt, noAt'])
        · exact plain j (List.mem_cons_of_mem _ member)
  · refine ⟨?_, rfl⟩
    intro j member
    rcases List.mem_cons.mp member with rfl | member
    · exact first
    · exact plain j member

/-- Joining neighbouring texts keeps plain content plain, and its text. -/
theorem joinTexts_of_isPlain {is : List Inline} (plain : ∀ i ∈ is, i.IsPlain) :
    (∀ i ∈ joinTexts is, i.IsPlain) ∧ (joinTexts is).flatMap source = is.flatMap source := by
  induction is with
  | nil => exact ⟨fun _ member => (nomatch member), rfl⟩
  | cons i is ih =>
    have others := ih fun j member => plain j (List.mem_cons_of_mem i member)
    have joined := consJoined_of_isPlain (plain i List.mem_cons_self) others.1
    exact ⟨joined.1, by rw [List.flatMap_cons, ← others.2]; exact joined.2⟩

end Inline

namespace Autolink

theorem splitMails_of_not_mem {t : Text} (noAt : '@' ∉ t) (fuel : Nat) (seen : Text) (depth : Int) :
    splitMails fuel seen depth t = [.text (seen.reverse ++ t)] := by
  induction t generalizing fuel seen depth with
  | nil => cases fuel <;> simp [splitMails]
  | cons c t ih =>
    rw [List.mem_cons, not_or] at noAt
    cases fuel with
    | zero => rfl
    | succ fuel =>
      have other : (c == '@') = false := by simpa using Ne.symm noAt.1
      simp [splitMails, other, ih noAt.2]

/-- Where a colon and two slashes are not ahead there is no web address. -/
theorem url?_eq_none {seen rest : Text} (absent : ¬ "://".toList <+: rest) :
    url? seen rest = none := by
  have unmarked : Text.startsWith rest "://".toList = false := by
    rwa [Bool.eq_false_iff, Ne, List.isPrefixOf_iff_prefix]
  simp only [url?, unmarked, Bool.and_false, Bool.false_and, Bool.false_eq_true, if_false]

theorem www?_eq_none {seen rest : Text} (absent : ¬ "www.".toList <+: rest) :
    www? seen rest = none := by
  have unmarked : Text.startsWith rest "www.".toList = false := by
    rwa [Bool.eq_false_iff, Ne, List.isPrefixOf_iff_prefix]
  simp only [www?, unmarked, Bool.and_false, Bool.false_and, Bool.false_eq_true, if_false]

theorem mailsInAll_of_isPlain {is : List Inline} (plain : ∀ i ∈ is, i.IsPlain) :
    mailsInAll is = is := by
  induction is with
  | nil => rfl
  | cons i is ih =>
    have others := ih fun j member => plain j (List.mem_cons_of_mem i member)
    rw [mailsInAll, others]
    cases plain i List.mem_cons_self with
    | text noAt => rw [mailsIn, splitMails_of_not_mem noAt]; rfl
    | softBreak => rfl

end Autolink

namespace Reader

/-- Going on over some text notes it as seen. -/
theorem goTo_eq {r : Reader} {front back : Text} (ahead : r.rest = front ++ back) :
    r.goTo back = { r with rest := back, seen := front.reverse ++ r.seen } := by
  rw [goTo, ahead, List.length_append, Nat.add_sub_cancel, List.take_left]

/-- A character that means nothing starts a run of text, or else it may start a web address. -/
theorem step_of_isSpecial (r : Reader) (linkify : Bool) {c : Char}
    (harmless : isSpecial false c = false) (rest : Text) :
    r.step linkify c rest =
      if linkify && c == ':' then r.readColon rest
      else if linkify && c == 'w' then r.readW rest
      else r.readText linkify c rest := by
  have other (d : Char) (special : isSpecial false d = true) : (c == d) = false := by
    rw [beq_eq_false_iff_ne]
    rintro rfl
    exact Bool.noConfusion (special.symm.trans harmless)
  simp only [step, other '\n' rfl, other '`' rfl, other '\\' rfl, other '&' rfl, other '<' rfl,
    other '*' rfl, other '_' rfl, other '~' rfl, other '[' rfl, other ']' rfl, other '!' rfl,
    Bool.or_false, Bool.false_eq_true, if_false]

/-- An exclamation mark in front of no bracket is read as itself. -/
theorem step_bang (r : Reader) (linkify : Bool) {rest : Text} (noImage : rest.head? ≠ some '[') :
    r.step linkify '!' rest = (r.goTo rest).addText ['!'] := by
  cases rest with
  | nil => rfl
  | cons d rest =>
    have noBracket : d ≠ '[' := by
      rintro rfl
      exact noImage rfl
    simp [step, noBracket]

/-- While content without markup is read, everything seen is shown by plain tokens. -/
structure IsCalm (content : Text) (references : References) (r : Reader) : Prop where
  whole : r.seen.reverse ++ r.rest = content
  outside : r.inBrackets = false
  unused : r.references = references
  plain : ∀ token ∈ r.tokens, ∃ i : Inline, token = .done i ∧ i.IsPlain
  shown : (r.tokens.reverse.map Token.plain).flatMap Inline.source = r.seen.reverse

variable {content : Text} {references : References} {r : Reader}

theorem isCalm_ofText (references : References) (t : Text) :
    IsCalm t references (ofText references t) where
  whole := rfl
  outside := rfl
  unused := rfl
  plain := fun _ member => nomatch member
  shown := rfl

/-- A plain piece that shows what was read keeps the reader calm. -/
theorem IsCalm.goTo_add (calm : IsCalm content references r) {front back : Text} {i : Inline}
    (ahead : r.rest = front ++ back) (plain : i.IsPlain) (source : i.source = front) :
    IsCalm content references ((r.goTo back).add i) := by
  rw [goTo_eq ahead]
  refine ⟨?_, calm.outside, calm.unused, ?_, ?_⟩
  · simp [add, push, ← calm.whole, ahead]
  · intro token member
    rcases List.mem_cons.mp member with rfl | member
    · exact ⟨i, rfl, plain⟩
    · exact calm.plain token member
  · simp [add, push, Token.plain, source, ← calm.shown]

/-- What is ahead is part of the content. -/
theorem IsCalm.isInfix_of_isPrefix (calm : IsCalm content references r) {mark : Text}
    (found : mark <+: r.rest) : mark <:+: content :=
  calm.whole ▸ found.isInfix.trans (List.suffix_append _ _).isInfix

section Step

variable (calm : IsCalm content references r) (tidy : IsTidy content)
include calm tidy

theorem readLineEnd_eq {rest : Text} (ahead : r.rest = '\n' :: rest) :
    r.readLineEnd rest = (r.goTo rest).add .softBreak := by
  have whole : content = r.seen.reverse ++ '\n' :: rest := by rw [← calm.whole, ahead]
  have skipped : skipBlanks rest = rest := by
    cases rest with
    | nil => rfl
    | cons d rest =>
      refine List.dropWhile_cons_of_neg fun blank => ?_
      have shown := (tidy.showsEnds whole).2 rfl
      exact Bool.noConfusion (shown.symm.trans (isBlank_of_ascii blank))
  rw [readLineEnd, skipped]
  split
  · rename_i seen same
    rw [same, List.reverse_cons, List.append_assoc, List.singleton_append] at whole
    exact Bool.noConfusion ((tidy.showsEnds whole).1 rfl)
  · rfl

/-- Text up to the next special character shows itself. -/
theorem readText_eq (linkify : Bool) {c : Char} {rest : Text} (ahead : r.rest = c :: rest) :
    ∃ run back, r.rest = c :: run ++ back ∧ r.readText linkify c rest =
      (r.goTo back).addText (c :: run) := by
  refine ⟨rest.takeWhile fun d => !isSpecial linkify d,
    rest.dropWhile fun d => !isSpecial linkify d,
    by rw [ahead, List.cons_append, List.takeWhile_append_dropWhile], ?_⟩
  have whole : content = r.seen.reverse ++ (c :: rest.takeWhile fun d => !isSpecial linkify d) ++
      rest.dropWhile fun d => !isSpecial linkify d := by
    rw [← calm.whole, ahead, List.append_assoc, List.cons_append, List.takeWhile_append_dropWhile]
  simp only [readText]
  generalize c :: rest.takeWhile (fun d => !isSpecial linkify d) = run at whole ⊢
  generalize rest.dropWhile (fun d => !isSpecial linkify d) = back at whole ⊢
  -- Nothing is trimmed: what stands before a line end is shown, and no hard break comes before.
  have kept :
      (if back.head? == some '\n' then Text.trimEndBy Ascii.isTrimmed run else run) = run := by
    split
    · rename_i feed
      obtain ⟨more, rfl⟩ : ∃ more, back = '\n' :: more := by
        cases back with
        | nil => exact nomatch feed
        | cons d more => exact ⟨more, by simpa using feed⟩
      rw [Text.trimEndBy_eq_self_iff]
      intro d last
      obtain ⟨init, rfl⟩ := List.getLast?_eq_some_iff.mp last
      have shown : Text.isBlank d = false := by
        rw [← List.append_assoc, List.append_assoc, List.singleton_append] at whole
        exact (tidy.showsEnds whole).1 rfl
      exact Text.eq_false_of_shown isBlank_of_isTrimmed shown
    · rfl
  rw [kept]
  split
  · rename_i tokens same
    obtain ⟨i, done, plain⟩ := calm.plain (.done .lineBreak) (same ▸ List.mem_cons_self)
    cases done
    exact nomatch plain
  · rfl

/-- **A piece of tidy content shows the characters it was read from.** -/
theorem step_of_isTidy (linkify : Bool) {c : Char} {rest : Text} (ahead : r.rest = c :: rest) :
    ∃ front back i, r.rest = front ++ back ∧ front ≠ [] ∧ i.IsPlain ∧ i.source = front ∧
      r.step linkify c rest = (r.goTo back).add i := by
  have member : ∀ d ∈ r.rest, isInert d := fun d inside =>
    tidy.inert d (calm.whole ▸ List.mem_append_right _ inside)
  have inert := member c (ahead ▸ List.mem_cons_self)
  have one {i : Inline} (plain : i.IsPlain) (source : i.source = [c])
      (same : r.step linkify c rest = (r.goTo rest).add i) :
      ∃ front back i, r.rest = front ++ back ∧ front ≠ [] ∧ i.IsPlain ∧ i.source = front ∧
        r.step linkify c rest = (r.goTo back).add i :=
    ⟨[c], rest, i, ahead, List.cons_ne_nil _ _, plain, source, same⟩
  have noAt : '@' ∉ r.rest := fun inside => Bool.noConfusion (member '@' inside)
  -- A line end, an exclamation mark, a colon and a `w` are looked at one by one; the characters of
  -- markup do not occur, and any other character starts a run of text.
  have lone : Inline.IsPlain (.text [c]) := .text (by
    rw [List.mem_singleton]
    rintro rfl
    exact noAt (ahead ▸ List.mem_cons_self))
  by_cases feed : c = '\n'
  · subst feed
    refine one .softBreak rfl ?_
    exact readLineEnd_eq calm tidy ahead
  by_cases bang : c = '!'
  · subst bang
    refine one lone rfl (step_bang r linkify fun first => ?_)
    exact Bool.noConfusion (member '[' (ahead ▸ .tail _ (List.mem_of_mem_head? first)))
  have harmless : isSpecial false c = false := by
    have marks : "\n*_~`\\&<[]!".toList.all fun d => d == '\n' || d == '!' || !isInert d := rfl
    refine Bool.eq_false_iff.mpr fun special => ?_
    have mark : c ∈ "\n*_~`\\&<[]!".toList := by simpa [isSpecial] using special
    simpa [feed, bang, inert] using List.all_eq_true.mp marks c mark
  rw [step_of_isSpecial r linkify harmless] at one ⊢
  by_cases colon : (linkify && c == ':') = true
  · refine one lone rfl ?_
    have noUrl : Autolink.url? r.seen r.rest = none :=
      Autolink.url?_eq_none fun found => tidy.noScheme (calm.isInfix_of_isPrefix found)
    have same : c = ':' := by simpa using (Bool.and_eq_true_iff.mp colon).2
    rw [if_pos colon, readColon, noUrl, ite_self, same]
    rfl
  by_cases host : (linkify && c == 'w') = true
  · refine one lone rfl ?_
    have noHost : Autolink.www? r.seen r.rest = none :=
      Autolink.www?_eq_none fun found => tidy.noHost (calm.isInfix_of_isPrefix found)
    have same : c = 'w' := by simpa using (Bool.and_eq_true_iff.mp host).2
    rw [if_neg colon, if_pos host, readW, noHost, ite_self, same]
    rfl
  · obtain ⟨run, back, split, same⟩ := readText_eq calm tidy linkify ahead
    refine ⟨c :: run, back, .text (c :: run), split, List.cons_ne_nil _ _, .text ?_, rfl, ?_⟩
    · intro inside
      exact noAt (split ▸ List.mem_append_left back inside)
    · rw [if_neg colon, if_neg host, same]
      rfl

/-- All of tidy content is read, and shown by plain tokens. -/
theorem readAll_of_isTidy (linkify : Bool) {fuel : Nat} (enough : r.rest.length ≤ fuel) :
    IsCalm content references (readAll linkify fuel r) ∧ (readAll linkify fuel r).rest = [] := by
  -- Every step takes something off the rest, so that the fuel is enough for what is left.
  induction fuel generalizing r with
  | zero => exact ⟨calm, List.length_eq_zero_iff.mp (Nat.le_zero.mp enough)⟩
  | succ fuel ih =>
    rw [readAll]
    cases ahead : r.rest with
    | nil => exact ⟨calm, ahead⟩
    | cons c rest =>
      obtain ⟨front, back, i, split, nonempty, plain, source, same⟩ :=
        step_of_isTidy calm tidy linkify ahead
      have shorter : back.length ≤ fuel := by
        have positive := List.length_pos_iff.mpr nonempty
        rw [split, List.length_append] at enough
        omega
      dsimp only
      rw [same]
      exact ih (calm.goTo_add split plain source) shorter

end Step

end Reader

namespace Inline

/-- Texts side by side are one text, which is left out if it is empty. -/
theorem joinTexts_map_text (texts : List Text) :
    joinTexts (texts.map .text) = consJoined (.text texts.flatten) [] := by
  induction texts with
  | nil => rfl
  | cons t texts ih =>
    have first : joinTexts ((t :: texts).map .text) =
        consJoined (.text t) (joinTexts (texts.map .text)) := rfl
    rw [first, ih, List.flatten_cons]
    cases t <;> cases texts.flatten <;> simp [consJoined]

end Inline

/-- Whether a token may close emphasis. -/
def Token.closes : Token → Bool
  | .run r => r.closes
  | _ => false

namespace Emphasis

theorem resolveFrom_of_idle {right : List Token} (idle : ∀ t ∈ right, t.closes = false) {fuel : Nat}
    (enough : right.length ≤ fuel) (left : List Token) :
    resolveFrom fuel left right = left.reverse ++ right := by
  induction right generalizing fuel left with
  | nil => cases fuel <;> simp [resolveFrom]
  | cons t right ih =>
    cases fuel with
    | zero => exact absurd enough (by simp)
    | succ fuel =>
      have others : ∀ t ∈ right, t.closes = false := fun t member => idle t (.tail _ member)
      have later := ih others (by simpa using enough) (t :: left)
      rw [List.reverse_cons, List.append_assoc, List.singleton_append] at later
      cases t with
      | run r =>
        have first : r.closes = false := idle _ List.mem_cons_self
        simpa [resolveFrom, first] using later
      | done _ => simpa [resolveFrom] using later
      | bracket _ _ _ => simpa [resolveFrom] using later

/-- Where nothing closes emphasis, there is none. -/
theorem resolve_of_idle {tokens : List Token} (idle : ∀ t ∈ tokens, t.closes = false) :
    resolve tokens = Inline.joinTexts (tokens.map Token.plain) := by
  have enough : tokens.length ≤ steps tokens := by
    clear idle
    induction tokens with
    | nil => exact Nat.zero_le _
    | cons t tokens ih =>
      have positive : 1 ≤ stepsOf t := by cases t <;> simp [stepsOf]
      rw [List.length_cons, Nat.add_comm]
      exact Nat.add_le_add positive ih
  rw [resolve, resolveFrom_of_idle idle enough, List.reverse_nil, List.nil_append]

/-- Nothing in texts takes part in emphasis. -/
theorem resolve_texts {texts : List Text} (nonempty : texts.flatten ≠ []) :
    resolve (texts.map fun t => Token.done (.text t)) = [.text texts.flatten] := by
  have idle : ∀ t ∈ texts.map fun t => Token.done (.text t), t.closes = false := by
    intro token member
    obtain ⟨t, _, rfl⟩ := List.mem_map.mp member
    rfl
  obtain ⟨c, t, whole⟩ := List.exists_cons_of_ne_nil nonempty
  rw [resolve_of_idle idle, List.map_map]
  exact (Inline.joinTexts_map_text texts).trans (whole ▸ rfl)

end Emphasis

/-- **Tidy content is its text**: it reads as plain pieces that show the text without its last line
end, and names no definition. -/
theorem Inline.ofText_of_isTidy (linkify : Bool) {t : Text}
    (tidy : IsTidy (Text.trimEndBy Ascii.isTrimmed t)) (references : References) :
    ∃ content, (Inline.ofText linkify t).run references = (content, references) ∧
      (∀ i ∈ content, i.IsPlain) ∧
      content.flatMap source = Text.trimEndBy Ascii.isTrimmed t := by
  generalize trimmed : Text.trimEndBy Ascii.isTrimmed t = shown at tidy ⊢
  obtain ⟨calm, finished⟩ := Reader.readAll_of_isTidy (Reader.isCalm_ofText references shown) tidy
    linkify (Nat.le_refl shown.length)
  generalize read : Reader.readAll linkify shown.length (Reader.ofText references shown) = r
    at calm finished
  have idle : ∀ token ∈ r.tokens.reverse, token.closes = false := fun token member => by
    obtain ⟨i, rfl, _⟩ := calm.plain token (List.mem_reverse.mp member)
    rfl
  have plain : ∀ i ∈ r.tokens.reverse.map Token.plain, i.IsPlain := by
    intro i member
    obtain ⟨token, inside, rfl⟩ := List.mem_map.mp member
    obtain ⟨i, rfl, plain⟩ := calm.plain token (List.mem_reverse.mp inside)
    exact plain
  have all : r.seen.reverse = shown := by
    rw [← calm.whole, finished, List.append_nil]
  obtain ⟨joined, same⟩ := joinTexts_of_isPlain plain
  rw [calm.shown, all] at same
  have read : (Inline.ofText linkify t).run references =
      (if linkify then joinTexts (Autolink.mailsInAll (Emphasis.resolve r.tokens.reverse))
        else Emphasis.resolve r.tokens.reverse, r.references) := by
    rw [← read, ← trimmed]
    rfl
  rw [Emphasis.resolve_of_idle idle, Autolink.mailsInAll_of_isPlain joined, calm.unused] at read
  cases linkify with
  | false => exact ⟨_, read, joined, same⟩
  | true =>
    obtain ⟨twice, again⟩ := joinTexts_of_isPlain joined
    exact ⟨_, read, twice, again.trans same⟩

end Markdown

end MarkdownDialects
