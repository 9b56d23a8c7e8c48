import MarkdownDialects.Dialect.Builtin
import MarkdownDialects.Proofs.Substitution.Scan
import MarkdownDialects.Proofs.Text.Trim

/-!
# Attribute lists there and back

An attribute list on a line of its own travels in a comment.  Nothing but such a comment looks like
one afterwards (`Marker.not_attributeListOpen_isPrefix`), because every list begins a line and the
start of a comment does not run across a line feed.  On the way back the list is unwrapped and one
of two line feeds before its line is dropped; everything else is as it was
(`emit_ingest_attributeLists`).
-/

namespace MarkdownDialects

/-- A line that holds only an attribute list. -/
structure AttributeLine where
  indent : Text
  payload : Text
  gap : Text
  indent_gap : ∀ c ∈ indent, Marker.isGap c
  gap_gap : ∀ c ∈ gap, Marker.isGap c
  nonempty : payload ≠ []
  unclosed : '}' ∉ payload

namespace AttributeLine

open Marker

variable (l : AttributeLine)

/-- The attribute list in its braces. -/
def list : Text := ['{', ':'] ++ l.payload ++ ['}']

/-- The match of the line. -/
def toMatch : Match := ⟨l.indent ++ l.list ++ l.gap, [l.indent, l.list]⟩

/-- The comment that carries the list. -/
def comment : Text := attributeListOpen ++ l.list ++ commentClose

@[simp]
theorem wrapAttributeList_toMatch : wrapAttributeList l.toMatch = l.indent ++ l.comment := by
  simp only [wrapAttributeList, comment, List.append_assoc]
  rfl

/-- What is trimmed off the end of the line is what follows the list. -/
theorem trimEndBy_whole : Text.trimEndBy isGap l.toMatch.whole = l.indent ++ l.list := by
  have solid : isGap '}' = false := by decide
  rw [toMatch, Text.trimEndBy_append l.gap_gap, list, ← List.append_assoc,
    Text.trimEndBy_concat solid]

theorem toMatch_whole_ne_nil : l.toMatch.whole ≠ [] := by
  simp [toMatch, list]

theorem not_mem_indent {c : Char} (solid : isGap c = false) : c ∉ l.indent := fun member =>
  Bool.false_ne_true (solid.symm.trans (l.indent_gap c member))

theorem not_mem_gap {c : Char} (solid : isGap c = false) : c ∉ l.gap := fun member =>
  Bool.false_ne_true (solid.symm.trans (l.gap_gap c member))

/-- What stands in front of the payload once the list is in its comment. -/
def lead : Text := l.indent ++ attributeListOpen ++ ['{', ':']

theorem feed_not_mem_lead : '\n' ∉ l.lead := by
  have gaps : '\n' ∉ l.indent := l.not_mem_indent (by decide)
  have opening : '\n' ∉ attributeListOpen := by decide
  simp [lead, gaps, opening]

theorem indent_append_comment :
    l.indent ++ l.comment = l.lead ++ (l.payload ++ '}' :: commentClose) := by
  simp only [lead, comment, list, List.append_assoc, List.singleton_append]

end AttributeLine

namespace Marker

/-! ## What the patterns find -/

theorem attributeList?_eq_some {t list rest : Text} (found : attributeList? t = some (list, rest)) :
    ∃ payload, payload ≠ [] ∧ '}' ∉ payload ∧ list = ['{', ':'] ++ payload ++ ['}'] ∧
      t = list ++ rest := by
  obtain ⟨inside, opened, found⟩ := Option.bind_eq_some_iff.mp found
  have whole : inside.takeWhile (· != '}') ++ inside.dropWhile (· != '}') = inside :=
    List.takeWhile_append_dropWhile
  have clean : '}' ∉ inside.takeWhile (· != '}') := by
    intro member
    simpa using List.all_eq_true.mp List.all_takeWhile _ member
  generalize inside.takeWhile (· != '}') = payload at found whole clean
  generalize inside.dropWhile (· != '}') = behind at found whole
  dsimp only at found
  split at found
  · rename_i c cs rest
    obtain ⟨rfl, rfl⟩ := Prod.mk.inj (Option.some.inj found)
    refine ⟨c :: cs, List.cons_ne_nil c cs, clean, rfl, ?_⟩
    rw [← Text.after?_eq_some_iff.mp opened, ← whole]
    simp
  · exact nomatch found

theorem attributeList?_append (l : AttributeLine) (rest : Text) :
    attributeList? (l.list ++ rest) = some (l.list, rest) := by
  have all : ∀ c ∈ l.payload, (c != '}') = true := by
    intro c member
    have other : c ≠ '}' := fun same => l.unclosed (same ▸ member)
    simpa using other
  have taken : (l.payload ++ '}' :: rest).takeWhile (· != '}') = l.payload := by
    rw [List.takeWhile_append_of_pos all]
    simp
  have left : (l.payload ++ '}' :: rest).dropWhile (· != '}') = '}' :: rest := by
    rw [List.dropWhile_append_of_pos all]
    rfl
  obtain ⟨c, cs, shown⟩ := List.exists_cons_of_ne_nil l.nonempty
  unfold attributeList?
  simp only [AttributeLine.list, List.append_assoc, Text.after?_append, Option.bind_eq_bind,
    Option.bind_some, List.singleton_append, taken, left]
  rw [shown]
  rfl

/-- A match is a line of its own: it begins and ends a line. -/
theorem attributeListLine_eq_some {before : Option Char} {t : Text} {m : Match}
    (found : attributeListLine before t = some m) :
    Pattern.atLineStart before ∧ ∃ l : AttributeLine, m = l.toMatch ∧
      ∃ rest, t = m.whole ++ rest ∧ Pattern.atLineEnd rest := by
  obtain ⟨_, starts, found⟩ := Option.bind_eq_some_iff.mp found
  obtain ⟨⟨list, behind⟩, listed, found⟩ := Option.bind_eq_some_iff.mp found
  obtain ⟨_, ends, found⟩ := Option.bind_eq_some_iff.mp found
  obtain rfl := Option.some.inj found
  obtain ⟨payload, nonempty, unclosed, rfl, whole⟩ := attributeList?_eq_some listed
  refine ⟨?_, ⟨t.takeWhile isGap, payload, behind.takeWhile isGap,
    List.all_eq_true.mp List.all_takeWhile, List.all_eq_true.mp List.all_takeWhile, nonempty,
    unclosed⟩, rfl, behind.dropWhile isGap, ?_, ?_⟩
  · by_contra inside
    rw [guard, if_neg inside] at starts
    exact nomatch starts
  · simp only [List.append_assoc, List.takeWhile_append_dropWhile] at whole ⊢
    rw [← whole, List.takeWhile_append_dropWhile]
  · by_contra inside
    rw [guard, if_neg inside] at ends
    exact nomatch ends

/-- Nothing in the start of a comment is a gap. -/
theorem takeWhile_isGap_append {indent : Text} (all : ∀ c ∈ indent, isGap c) (rest : Text) :
    (indent ++ (attributeListOpen ++ rest)).takeWhile isGap = indent ∧
      (indent ++ (attributeListOpen ++ rest)).dropWhile isGap = attributeListOpen ++ rest := by
  constructor
  · rw [List.takeWhile_append_of_pos all]
    exact List.append_nil indent
  · rw [List.dropWhile_append_of_pos all]
    rfl

theorem wrappedList?_append (l : AttributeLine) (rest : Text) :
    wrappedList? (l.comment ++ rest) = some (l.list, l.comment) := by
  unfold wrappedList?
  simp only [AttributeLine.comment, List.append_assoc, Text.after?_append, Option.bind_eq_bind,
    Option.bind_some, attributeList?_append]

theorem wrappedList?_isPrefix {t list comment : Text}
    (found : wrappedList? t = some (list, comment)) :
    comment <+: t ∧ attributeListOpen <+: t := by
  obtain ⟨inside, opened, found⟩ := Option.bind_eq_some_iff.mp found
  obtain ⟨⟨_, behind⟩, listed, found⟩ := Option.bind_eq_some_iff.mp found
  obtain ⟨rest, closed, found⟩ := Option.bind_eq_some_iff.mp found
  obtain ⟨rfl, rfl⟩ := Prod.mk.inj (Option.some.inj found)
  obtain ⟨_, _, _, _, whole⟩ := attributeList?_eq_some listed
  rw [← Text.after?_eq_some_iff.mp opened, whole, ← Text.after?_eq_some_iff.mp closed]
  refine ⟨⟨rest, ?_⟩, List.prefix_append _ _⟩
  simp only [List.append_assoc]

theorem wrappedList?_eq_some {t list comment : Text}
    (found : wrappedList? t = some (list, comment)) :
    ∃ payload, list = ['{', ':'] ++ payload ++ ['}'] ∧
      comment = attributeListOpen ++ list ++ commentClose := by
  obtain ⟨inside, opened, found⟩ := Option.bind_eq_some_iff.mp found
  obtain ⟨⟨_, behind⟩, listed, found⟩ := Option.bind_eq_some_iff.mp found
  obtain ⟨rest, closed, found⟩ := Option.bind_eq_some_iff.mp found
  obtain ⟨rfl, rfl⟩ := Prod.mk.inj (Option.some.inj found)
  obtain ⟨payload, _, _, form, _⟩ := attributeList?_eq_some listed
  exact ⟨payload, form, rfl⟩

theorem attributeListMarker_proper : Pattern.Proper attributeListMarker := by
  intro before t m found
  obtain ⟨⟨list, comment⟩, wrapped, found⟩ := Option.bind_eq_some_iff.mp found
  obtain rfl := Option.some.inj found
  obtain ⟨payload, _, rfl⟩ := wrappedList?_eq_some wrapped
  exact ⟨List.cons_ne_nil _ _, (wrappedList?_isPrefix wrapped).1⟩

theorem attributeListMarker_opens : Pattern.Opens attributeListMarker attributeListOpen := by
  intro before t missing
  unfold attributeListMarker wrappedList?
  rw [Text.after?_eq_none_iff.mpr missing]
  rfl

theorem attributeListMarker_append (l : AttributeLine) (before : Option Char) (rest : Text) :
    attributeListMarker before (l.comment ++ rest) = some ⟨l.comment, [l.list]⟩ := by
  unfold attributeListMarker
  rw [wrappedList?_append]
  rfl

theorem detachedAttributeList_opens : Pattern.Opens detachedAttributeList ['\n', '\n'] :=
  Pattern.opens_of_bind fun _ _ => rfl

theorem detachedAttributeList_append (l : AttributeLine) (before : Option Char) (rest : Text) :
    detachedAttributeList before (['\n', '\n'] ++ (l.indent ++ l.comment) ++ rest) =
      some ⟨['\n', '\n'] ++ (l.indent ++ l.comment), [l.indent ++ l.comment]⟩ := by
  have wrapped := wrappedList?_append l rest
  rw [AttributeLine.comment, List.append_assoc] at wrapped
  obtain ⟨taken, left⟩ := takeWhile_isGap_append l.indent_gap (l.list ++ commentClose ++ rest)
  simp only [AttributeLine.comment, List.append_assoc] at wrapped taken left ⊢
  unfold detachedAttributeList
  simp only [Text.after?_append, Option.bind_eq_bind, Option.bind_some, taken, left, wrapped,
    List.append_assoc]

/-- A detached list has the start of a comment behind two line feeds and a gap. -/
theorem detachedAttributeList_eq_none {before : Option Char} {t : Text}
    (missing : ∀ rest, t = '\n' :: '\n' :: rest → ¬ attributeListOpen <+: rest.dropWhile isGap) :
    detachedAttributeList before t = none := by
  rw [Option.eq_none_iff_forall_ne_some]
  intro m found
  obtain ⟨rest, opened, found⟩ := Option.bind_eq_some_iff.mp found
  obtain ⟨⟨_, _⟩, wrapped, _⟩ := Option.bind_eq_some_iff.mp found
  exact missing rest (Text.after?_eq_some_iff.mp opened).symm (wrappedList?_isPrefix wrapped).2

theorem detachedAttributeList_proper : Pattern.Proper detachedAttributeList := by
  intro before t m found
  obtain ⟨rest, opened, found⟩ := Option.bind_eq_some_iff.mp found
  obtain ⟨⟨_, comment⟩, wrapped, found⟩ := Option.bind_eq_some_iff.mp found
  obtain rfl := Option.some.inj found
  obtain ⟨⟨behind, whole⟩, _⟩ := wrappedList?_isPrefix wrapped
  refine ⟨by simp, behind, ?_⟩
  rw [← Text.after?_eq_some_iff.mp opened, List.append_assoc, List.append_assoc, whole,
    List.takeWhile_append_dropWhile]

/-! ## Where comments begin in a text with wrapped lists -/

/-- A piece with its attribute list wrapped. -/
abbrev wrapped : Piece → Text := Piece.output wrapAttributeList

theorem flatMap_wrapped_hit (l : AttributeLine) (rest : List Piece) :
    (Piece.hit l.toMatch :: rest).flatMap wrapped =
      l.indent ++ l.comment ++ rest.flatMap wrapped := by
  rw [List.flatMap_cons, wrapped, Piece.output, l.wrapAttributeList_toMatch]

section Wrapped

variable {before : Option Char} {pieces : List Piece}
  (scanned : Pattern.Scanned attributeListLine before pieces)
include scanned

/-- No list begins inside a line: what is found there without a line feed stood there before. -/
theorem isPrefix_source_of_isPrefix_wrapped (inLine : Pattern.atLineStart before = false) {w : Text}
    (noFeed : '\n' ∉ w) (found : w <+: pieces.flatMap wrapped) :
    w <+: pieces.flatMap Piece.source := by
  induction scanned generalizing w with
  | nil _ => exact found
  | @kept _ c rest _ _ ih =>
    cases w with
    | nil => exact List.nil_prefix
    | cons b w =>
      obtain ⟨rfl, behind⟩ := List.cons_prefix_cons.mp found
      rw [List.mem_cons, not_or] at noFeed
      have inside : Pattern.atLineStart (some b) = false := by
        simpa [Pattern.atLineStart] using Ne.symm noFeed.1
      exact List.cons_prefix_cons.mpr ⟨rfl, ih inside noFeed.2 behind⟩
  | hit _ matched _ _ =>
    rw [(attributeListLine_eq_some matched).1] at inLine
    exact absurd inLine (by decide)

variable (absent : ¬ attributeListOpen <:+: pieces.flatMap Piece.source)
include absent

/-- **No comment begins at a character that was there before.** -/
theorem not_attributeListOpen_isPrefix {c : Char} {rest : List Piece}
    (kept : pieces = .kept c :: rest) : ¬ attributeListOpen <+: c :: rest.flatMap wrapped := by
  subst kept
  have opening : attributeListOpen = '<' :: "!--kramdown-attrlist:".toList := rfl
  intro found
  rw [opening] at found absent
  obtain ⟨rfl, behind⟩ := List.cons_prefix_cons.mp found
  cases scanned with
  | kept _ tail =>
    have stood := isPrefix_source_of_isPrefix_wrapped tail (by decide) (by decide) behind
    exact absent (List.cons_prefix_cons.mpr ⟨rfl, stood⟩).isInfix

/-- Behind a gap a comment begins only where a list was wrapped. -/
theorem not_attributeListOpen_isPrefix_dropWhile (unhit : ∀ m rest, pieces ≠ .hit m :: rest) :
    ¬ attributeListOpen <+: (pieces.flatMap wrapped).dropWhile isGap := by
  induction scanned with
  | nil _ => exact fun found => absurd (List.prefix_nil.mp found) (by decide)
  | @kept _ c rest silent tail ih =>
    have within : ¬ attributeListOpen <:+: rest.flatMap Piece.source := fun found =>
      absent (found.trans (List.suffix_cons c _).isInfix)
    rw [List.flatMap_cons, wrapped, Piece.output, List.singleton_append]
    by_cases gap : isGap c
    · rw [List.dropWhile_cons_of_pos gap]
      refine ih within ?_
      rintro m others rfl
      cases tail with
      | hit _ matched _ =>
        have starts := (attributeListLine_eq_some matched).1
        obtain rfl : c = '\n' := by simpa [Pattern.atLineStart] using starts
        exact absurd gap (by decide)
    · rw [List.dropWhile_cons_of_neg gap]
      exact not_attributeListOpen_isPrefix (.kept silent tail) absent rfl
  | hit _ _ _ _ => exact absurd rfl (unhit _ _)

end Wrapped

/-! ## Unwrapping -/

/-- Drop one of two line feeds before a wrapped list. -/
def attach : Text → Text := detachedAttributeList.replaceAll (Template.expand "\n$1".toList)

/-- Unwrap every wrapped list. -/
def unwrap : Text → Text := attributeListMarker.replaceAll (Template.expand "$1".toList)

theorem expand_attach (m : Match) : Template.expand "\n$1".toList m = '\n' :: m.group 1 :=
  congrArg ('\n' :: ·) (List.append_nil (m.group 1))

theorem expand_unwrap (m : Match) : Template.expand "$1".toList m = m.group 1 :=
  List.append_nil (m.group 1)

section Comment

variable (l : AttributeLine) (rest : Text)

theorem unwrap_comment :
    unwrap (l.indent ++ l.comment ++ rest) = l.indent ++ l.list ++ unwrap rest := by
  have noAngle : '<' ∉ l.indent := l.not_mem_indent (by decide)
  have nonempty : l.comment ≠ [] := List.cons_ne_nil '<' _
  unfold unwrap
  rw [List.append_assoc,
    attributeListMarker_opens.replaceAll_append (fun _ _ _ => rfl) noAngle,
    Pattern.replaceAll_append_of_match (fun _ _ _ => rfl) nonempty
      (attributeListMarker_append l none rest), expand_unwrap, List.append_assoc]
  rfl

theorem attach_detached :
    attach ('\n' :: '\n' :: (l.indent ++ l.comment ++ rest)) =
      '\n' :: (l.indent ++ l.comment ++ attach rest) := by
  have found := detachedAttributeList_append l none rest
  unfold attach
  exact (Pattern.replaceAll_append_of_match (fun _ _ _ => rfl) (by simp) found).trans
    (by rw [expand_attach]; rfl)

/-- A wrapped list begins with a gap or with its comment. -/
theorem not_feed_isPrefix_comment : ¬ ['\n'] <+: l.indent ++ l.comment ++ rest := by
  have gaps := l.indent_gap
  generalize l.indent = indent at gaps ⊢
  cases indent with
  | nil => exact fun found => absurd (List.cons_prefix_cons.mp found).1 (by decide)
  | cons c indent =>
    intro found
    have same : '\n' = c := (List.cons_prefix_cons.mp found).1
    exact absurd (gaps c List.mem_cons_self) (same ▸ by decide)

variable (clean : ¬ attributeListOpen <:+: l.payload)
include clean

/-- No detached list begins inside an attribute list. -/
theorem detachedAttributeList_payload {s : Text} (inside : s <:+ l.payload) (nonempty : s ≠ []) :
    detachedAttributeList none (s ++ '}' :: rest) = none := by
  apply detachedAttributeList_eq_none
  intro behind whole found
  obtain ⟨c, s, rfl⟩ := List.exists_cons_of_ne_nil nonempty
  obtain ⟨rfl, second⟩ := List.cons.inj whole
  cases s with
  | nil => exact absurd (List.cons.inj second).1 (by decide)
  | cons d s =>
    obtain ⟨rfl, third⟩ := List.cons.inj second
    have same : s ++ '}' :: rest = behind := third
    have split : (s ++ '}' :: rest).dropWhile isGap = s.dropWhile isGap ++ '}' :: rest := by
      rw [List.dropWhile_append]
      split
      · rename_i empty
        rw [List.isEmpty_iff.mp empty]
        rfl
      · rfl
    rw [← same, split] at found
    have within := (Text.isPrefix_of_isPrefix_append_cons (by decide) found).isInfix
    have ends : s <:+ l.payload :=
      (List.suffix_cons '\n' s).trans ((List.suffix_cons '\n' _).trans inside)
    exact clean (within.trans ((List.dropWhile_suffix isGap).trans ends).isInfix)

theorem attach_comment :
    attach (l.indent ++ l.comment ++ rest) = l.indent ++ l.comment ++ attach rest := by
  have split (t : Text) :
      l.indent ++ l.comment ++ t = l.lead ++ (l.payload ++ '}' :: (commentClose ++ t)) := by
    rw [l.indent_append_comment, List.append_assoc, List.append_assoc, List.cons_append]
  have ends (t : Text) : '}' :: (commentClose ++ t) = ('}' :: commentClose) ++ t := rfl
  unfold attach
  rw [split, split,
    detachedAttributeList_opens.replaceAll_append (fun _ _ _ => rfl) l.feed_not_mem_lead,
    Pattern.replaceAll_append_of_kept (fun _ _ _ => rfl) _
      fun s inside nonempty => detachedAttributeList_payload l _ clean inside nonempty,
    ends, detachedAttributeList_opens.replaceAll_append (fun _ _ _ => rfl) (by decide)]
  rfl

/-- Of two line feeds before a wrapped list, the first makes no difference. -/
theorem attach_spare :
    attach ('\n' :: '\n' :: (l.indent ++ l.comment ++ rest)) =
      attach ('\n' :: (l.indent ++ l.comment ++ rest)) := by
  have silent : detachedAttributeList none ('\n' :: (l.indent ++ l.comment ++ rest)) = none := by
    apply detachedAttributeList_opens
    intro found
    exact not_feed_isPrefix_comment l rest (List.cons_prefix_cons.mp found).2
  have kept : attach ('\n' :: (l.indent ++ l.comment ++ rest)) =
      '\n' :: attach (l.indent ++ l.comment ++ rest) :=
    Pattern.replaceAll_cons_of_none (fun _ _ _ => rfl) silent
  rw [attach_detached, kept, attach_comment l rest clean]

end Comment

/-- Where no comment begins in a text, none begins once lists are attached. -/
theorem unwrap_cons_attach {c : Char} {t : Text} (missing : ¬ attributeListOpen <+: c :: t) :
    unwrap (c :: attach t) = c :: unwrap (attach t) := by
  have opening : attributeListOpen = '<' :: "!--kramdown-attrlist:".toList := rfl
  refine Pattern.replaceAll_cons_of_none (fun _ _ _ => rfl) (attributeListMarker_opens ?_)
  intro found
  rw [opening] at found missing
  obtain ⟨rfl, behind⟩ := List.cons_prefix_cons.mp found
  obtain ⟨_, covers⟩ := Pattern.scanned_scanFrom detachedAttributeList_proper none t
  have stood := Piece.isPrefix_source_of_isPrefix_output (by decide)
    (fun m => ⟨m.group 1, expand_attach m⟩) behind
  exact missing (List.cons_prefix_cons.mpr ⟨rfl, covers ▸ stood⟩)

/-! ## The text that comes back -/

/-- Whether a text begins with a line feed that is dropped: the first of two right before a line
with an attribute list. -/
def isSpare : List Piece → Bool
  | .kept c :: .kept d :: .hit _ :: _ => c == '\n' && d == '\n'
  | _ => false

/-- A text with its attribute lists attached: of two line feeds right before the line of a list one
is dropped, and so are the spaces and tabs after the list. -/
def attached : List Piece → Text
  | [] => []
  | piece :: rest =>
    if isSpare (piece :: rest) then attached rest
    else piece.output (fun m => Text.trimEndBy isGap m.whole) ++ attached rest

theorem isSpare_iff {pieces : List Piece} :
    isSpare pieces ↔
      ∃ m rest, pieces = .kept '\n' :: .kept '\n' :: .hit m :: rest := by
  constructor
  · intro spare
    unfold isSpare at spare
    split at spare
    · rename_i c d m rest
      rw [Bool.and_eq_true, beq_iff_eq, beq_iff_eq] at spare
      obtain ⟨rfl, rfl⟩ := spare
      exact ⟨m, rest, rfl⟩
    · exact absurd spare (by decide)
  · rintro ⟨m, rest, rfl⟩
    rfl

/-- What a text does not contain, its attribute lists do not contain. -/
theorem not_isInfix_payload {w : Text} {l : AttributeLine} {rest : List Piece}
    (absent : ¬ w <:+: (Piece.hit l.toMatch :: rest).flatMap Piece.source) :
    ¬ w <:+: l.payload := by
  intro found
  refine absent (found.trans ⟨l.indent ++ ['{', ':'],
    ['}'] ++ l.gap ++ rest.flatMap Piece.source, ?_⟩)
  simp [Piece.source, AttributeLine.toMatch, AttributeLine.list]

/-- A line feed that is not followed by another and a list stays, and so does any other
character. -/
theorem attach_cons {before : Option Char} {c : Char} {rest : List Piece}
    (tail : Pattern.Scanned attributeListLine before rest)
    (absent : ¬ attributeListOpen <:+: rest.flatMap Piece.source)
    (stays : ¬ isSpare (.kept c :: rest)) :
    attach (c :: rest.flatMap wrapped) = c :: attach (rest.flatMap wrapped) := by
  refine Pattern.replaceAll_cons_of_none (fun _ _ _ => rfl) (detachedAttributeList_eq_none ?_)
  intro behind whole
  obtain ⟨rfl, second⟩ := List.cons.inj whole
  cases tail with
  | nil _ => exact nomatch second
  | @kept _ d rest silent tail =>
    obtain ⟨rfl, rfl⟩ := List.cons.inj second
    refine not_attributeListOpen_isPrefix_dropWhile tail ?_ ?_
    · exact fun found => absent (found.trans (List.suffix_cons _ _).isInfix)
    · rintro m others rfl
      exact stays rfl
  | @hit _ m rest _ matched _ =>
    obtain ⟨_, l, rfl, _⟩ := attributeListLine_eq_some matched
    rw [flatMap_wrapped_hit] at second
    exact absurd ⟨behind, second.symm⟩ (not_feed_isPrefix_comment l (rest.flatMap wrapped))

/-- **Lists are unwrapped where they were wrapped, and nowhere else.** -/
theorem unwrap_attach_wrapped {before : Option Char} {pieces : List Piece}
    (scanned : Pattern.Scanned attributeListLine before pieces)
    (absent : ¬ attributeListOpen <:+: pieces.flatMap Piece.source) :
    unwrap (attach (pieces.flatMap wrapped)) = attached pieces := by
  -- Piece by piece along the scan: what stands before a list decides about a line feed there, so
  -- the case of a kept character looks two pieces ahead.
  induction scanned with
  | nil _ => rfl
  | @kept before c rest silent tail ih =>
    have within : ¬ attributeListOpen <:+: rest.flatMap Piece.source := fun found =>
      absent (found.trans (List.suffix_cons c _).isInfix)
    rw [attached, ← ih within]
    split
    · rename_i spare
      obtain ⟨m, others, whole⟩ := isSpare_iff.mp spare
      obtain ⟨same, rfl⟩ := List.cons.inj whole
      obtain rfl := Piece.kept.inj same
      cases tail with
      | kept _ tail =>
        cases tail with
        | hit _ matched _ =>
          obtain ⟨_, l, rfl, _⟩ := attributeListLine_eq_some matched
          have clean : ¬ attributeListOpen <:+: l.payload := not_isInfix_payload fun found =>
            within (found.trans (List.suffix_cons _ _).isInfix)
          have spared := attach_spare l (others.flatMap wrapped) clean
          rw [← l.wrapAttributeList_toMatch] at spared
          exact congrArg unwrap spared
    · rename_i stays
      have missing := not_attributeListOpen_isPrefix (.kept silent tail) absent rfl
      calc unwrap (attach (c :: rest.flatMap wrapped))
          = unwrap (c :: attach (rest.flatMap wrapped)) := by rw [attach_cons tail within stays]
        _ = c :: unwrap (attach (rest.flatMap wrapped)) := unwrap_cons_attach missing
  | @hit before m rest nonempty matched tail ih =>
    have within : ¬ attributeListOpen <:+: rest.flatMap Piece.source := fun found =>
      absent (found.trans (List.suffix_append m.whole _).isInfix)
    obtain ⟨_, l, rfl, _⟩ := attributeListLine_eq_some matched
    have noFeed : isSpare (.hit l.toMatch :: rest) = false := rfl
    rw [flatMap_wrapped_hit, attach_comment l _ (not_isInfix_payload absent), unwrap_comment, ih within, attached, noFeed,
      if_neg Bool.false_ne_true, Piece.output, l.trimEndBy_whole]

theorem attributeListLine_proper : Pattern.Proper attributeListLine := by
  intro before t m found
  obtain ⟨_, l, rfl, rest, rfl, _⟩ := attributeListLine_eq_some found
  exact ⟨l.toMatch_whole_ne_nil, List.prefix_append _ rest⟩

end Marker

/-- **Attribute lists round-trip.**  A text without wrapped lists comes back with exactly two
changes at each line that holds only an attribute list: the spaces and tabs after the list are gone,
and of two line feeds right before the line one is gone. -/
theorem emit_ingest_attributeLists {t : Text} (absent : ¬ Marker.attributeListOpen <:+: t) :
    (Marker.attributeListLine.scan t).flatMap Piece.source = t ∧
      RuleSet.apply (Dialect.builtin .kramdown).emit
          (RuleSet.apply (Dialect.builtin .kramdown).ingest t) =
        Marker.attached (Marker.attributeListLine.scan t) := by
  obtain ⟨scanned, covers⟩ :=
    Pattern.scanned_scanFrom Marker.attributeListLine_proper none t
  refine ⟨covers, ?_⟩
  exact Marker.unwrap_attach_wrapped scanned fun found => absent (covers ▸ found)

/-- Lists in a row that compete for line feeds, one over two lines, and one inside a line. -/
theorem emit_ingest_attributeLists_in_a_row :
    ¬ Marker.attributeListOpen <:+:
        "a \x7b: .x\x7d\n\n\n  \x7b: .y\x7d \t\n\n\x7b:\n\n#z\x7d".toList ∧
      RuleSet.apply (Dialect.builtin .kramdown).emit
          (RuleSet.apply (Dialect.builtin .kramdown).ingest
            "a \x7b: .x\x7d\n\n\n  \x7b: .y\x7d \t\n\n\x7b:\n\n#z\x7d".toList) =
        "a \x7b: .x\x7d\n\n  \x7b: .y\x7d\n\x7b:\n\n#z\x7d".toList := by
  have absent : ¬ Marker.attributeListOpen <:+:
      "a \x7b: .x\x7d\n\n\n  \x7b: .y\x7d \t\n\n\x7b:\n\n#z\x7d".toList := by decide
  exact ⟨absent, (emit_ingest_attributeLists absent).2.trans (by decide)⟩

end MarkdownDialects
