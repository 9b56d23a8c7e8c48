import MarkdownDialects.Proofs.Dialect.Kramdown
import MarkdownDialects.Proofs.Dialect.MultiMarkdown
import MarkdownDialects.Proofs.Substitution.Enclosed
import MarkdownDialects.Proofs.Substitution.Neutral

/-!
# Markers and code fences

The rules for spoilers and attribute lists keep the number of fence delimiters in every text.  So do
those that carry a metadata block.  A carried block is unwrapped neutrally if its first and its last
line hold nothing else (`Marker.lineCount_restore`), and dropped neutrally if it holds no fence and
nothing follows it on its last line (`Marker.lineCount_drop`).
-/

namespace MarkdownDialects

/-! ## Spoilers and attribute lists -/

namespace Marker

open Fence

/-- Exchanging solid marks around a text changes no number of fences. -/
theorem lineCount_exchange {opening closing u v : Text} (opens : isSolid opening)
    (closes : isSolid closing) (opened : isSolid u) (closed : isSolid v) (t : Text) :
    lineCount ((enclosed opening closing).replaceAll (enclose u v) t) = lineCount t := by
  have shown {s : Text} (solid : isSolid s) : s ≠ [] := by
    rintro rfl
    exact absurd solid (by decide)
  refine lineCount_replaceAll (enclosed_proper (shown opens) (shown closes)) ?_
  intro before s m found _
  obtain ⟨payload, _, rfl, _⟩ := enclosed_eq_some (shown closes) found
  exact neutral_enclosed opens closes opened closed payload

theorem neutral_wrapAttributeList (l : AttributeLine) :
    Neutral l.toMatch.whole (wrapAttributeList l.toMatch) := by
  have opens : isSolid ['{', ':'] := by decide
  have opened : isSolid (attributeListOpen ++ ['{', ':']) := by decide
  have closed : isSolid (['}'] ++ commentClose) := by decide
  have closes : isSolid (['}'] ++ l.gap) := isSolid_append (by decide) (l.not_mem_gap (by decide))
  have marks := (neutral_enclosed opens closes opened closed l.payload).append_left l.indent
  rw [l.wrapAttributeList_toMatch]
  simpa only [AttributeLine.toMatch, AttributeLine.comment, AttributeLine.list,
    List.append_assoc] using marks

/-- Wrapping the attribute lists of a text. -/
theorem lineCount_wrap (t : Text) :
    lineCount (attributeListLine.replaceAll wrapAttributeList t) = lineCount t :=
  lineCount_replaceAll attributeListLine_proper fun _ _ m found _ => by
    obtain ⟨_, l, rfl, _⟩ := attributeListLine_eq_some found
    exact neutral_wrapAttributeList l

/-- Of two line feeds one can go: the line between them is empty. -/
theorem lineCount_attach (t : Text) : lineCount (attach t) = lineCount t :=
  lineCount_replaceAll detachedAttributeList_proper fun _ _ m found _ => by
    obtain ⟨rest, opened, found⟩ := Option.bind_eq_some_iff.mp found
    obtain ⟨_, wrapped, found⟩ := Option.bind_eq_some_iff.mp found
    obtain rfl := Option.some.inj found
    intro front rest
    simp only [expand_attach, Match.group, List.getD_cons_zero, List.append_assoc, List.cons_append,
      List.nil_append, lineCount_append_feed, lineCount_cons_feed]

/-- Unwrapping the attribute lists of a text. -/
theorem lineCount_unwrap (t : Text) : lineCount (unwrap t) = lineCount t := by
  have opens : isSolid ['{', ':'] := by decide
  have closes : isSolid ['}'] := by decide
  have opened : isSolid (attributeListOpen ++ ['{', ':']) := by decide
  have closed : isSolid (['}'] ++ commentClose) := by decide
  refine lineCount_replaceAll attributeListMarker_proper fun _ _ m found _ => ?_
  obtain ⟨⟨list, marker⟩, wrapped, same⟩ := Option.bind_eq_some_iff.mp found
  obtain rfl := Option.some.inj same
  obtain ⟨payload, rfl, rfl⟩ := wrappedList?_eq_some wrapped
  have marks := neutral_enclosed opened closed opens closes payload
  rw [expand_unwrap]
  simpa only [Match.group, List.getD_cons_zero, List.append_assoc] using marks

/-! ## Markers on whole lines -/

/-- Every line that holds a mark holds nothing else. -/
def OwnLine (mark t : Text) : Prop := ∀ line ∈ Text.lines t, mark <:+: line → line = mark

instance (mark : Text) : DecidablePred (OwnLine mark) := fun t =>
  inferInstanceAs (Decidable (∀ line ∈ Text.lines t, mark <:+: line → line = mark))

/-- A mark on a line of its own begins a line and ends it. -/
theorem OwnLine.atLineStart_and_atLineEnd {mark t front rest : Text} (own : OwnLine mark t)
    (clean : '\n' ∉ mark) (whole : t = front ++ (mark ++ rest)) :
    Pattern.atLineStart front.getLast? ∧ Pattern.atLineEnd rest := by
  obtain ⟨start, noFeed, before⟩ := Text.exists_last_line front
  obtain ⟨ends, noEnd, behind⟩ := Text.exists_first_line rest
  have around : '\n' ∉ start ++ mark ++ ends := by simp [noFeed, clean, noEnd]
  have alone : start ++ mark ++ ends = mark := by
    refine own _ ?_ ⟨start, ends, rfl⟩
    rw [whole]
    rcases before with rfl | ⟨earlier, rfl⟩ <;> rcases behind with rfl | ⟨later, rfl⟩
    · rw [← List.append_assoc, Text.lines_of_not_mem around]
      exact List.mem_singleton_self _
    · rw [← List.append_assoc, ← List.append_assoc, Text.lines_append_feed,
        Text.lines_of_not_mem around]
      exact List.mem_append_left _ (List.mem_singleton_self _)
    · rw [List.append_assoc, List.cons_append, Text.lines_append_feed, ← List.append_assoc,
        Text.lines_of_not_mem around]
      exact List.mem_append_right _ (List.mem_singleton_self _)
    · rw [List.append_assoc, List.cons_append, Text.lines_append_feed, ← List.append_assoc,
        ← List.append_assoc, Text.lines_append_feed, Text.lines_of_not_mem around]
      exact List.mem_append_right _ (List.mem_append_left _ (List.mem_singleton_self _))
  have lengths := congrArg List.length alone
  simp only [List.length_append] at lengths
  obtain rfl : start = [] := List.length_eq_zero_iff.mp (by omega)
  obtain rfl : ends = [] := List.length_eq_zero_iff.mp (by omega)
  refine ⟨?_, ?_⟩
  · rw [atLineStart_getLast?_iff]
    exact before.imp Eq.symm fun ⟨earlier, same⟩ => ⟨earlier, same.symm⟩
  · rcases behind with rfl | ⟨later, rfl⟩ <;> rfl

theorem metadataOpen_ne_nil : metadataOpen ≠ [] := by decide

theorem metadataClose_ne_nil : metadataClose ≠ [] := by decide

/-- The line with which carried metadata begins. -/
def metadataStart : Text := "<!--mmd-meta-start".toList

/-- Whether a line holds nothing but a comment with an attribute list. -/
def isMarkerLine (line : Text) : Bool :=
  ((Text.after? attributeListOpen (line.dropWhile isGap)).bind (Text.before? commentClose)).isSome

/-- A line with a wrapped list, and the line feeds before it. -/
theorem attributeListMarkerLine_eq_some {before : Option Char} {t : Text} {m : Match}
    (found : attributeListMarkerLine before t = some m) :
    ∃ feeds line rest, m.whole = feeds ++ line ∧ (∀ c ∈ feeds, c = '\n') ∧ '\n' ∉ line ∧
      line ≠ [] ∧ isMarkerLine line ∧ ¬ Line.isFenceDelimiter line ∧
      (feeds = [] → Pattern.atLineStart before) ∧ Pattern.atLineEnd rest ∧
      t = m.whole ++ rest := by
  obtain ⟨_, placed, found⟩ := Option.bind_eq_some_iff.mp found
  obtain ⟨inside, opened, found⟩ := Option.bind_eq_some_iff.mp found
  obtain ⟨_, closed, found⟩ := Option.bind_eq_some_iff.mp found
  obtain rfl := Option.some.inj found
  have feeds : ∀ c ∈ t.takeWhile (· == '\n'), c = '\n' := fun c member => by
    simpa using List.all_eq_true.mp List.all_takeWhile c member
  have split : t.takeWhile (· == '\n') ++ t.dropWhile (· == '\n') = t :=
    List.takeWhile_append_dropWhile
  generalize t.takeWhile (· == '\n') = front at placed feeds split ⊢
  generalize t.dropWhile (· == '\n') = behind at opened split ⊢
  have clean : '\n' ∉ behind.takeWhile (· != '\n') := fun member => by
    simpa using List.all_eq_true.mp List.all_takeWhile _ member
  have stops : Pattern.atLineEnd (behind.dropWhile (· != '\n')) := by
    have head := List.head?_dropWhile_not (· != '\n') behind
    cases shown : behind.dropWhile (· != '\n') with
    | nil => rfl
    | cons c rest =>
      rw [shown] at head
      simpa [Pattern.atLineEnd] using head
  have marked := Text.after?_eq_some_iff.mp opened
  have line : behind.takeWhile (· != '\n') =
      (behind.takeWhile (· != '\n')).takeWhile isGap ++ (attributeListOpen ++ inside) := by
    rw [marked, List.takeWhile_append_dropWhile]
  refine ⟨front, _, behind.dropWhile (· != '\n'), rfl, feeds, clean, ?_, ?_, ?_, ?_, stops, ?_⟩
  · rw [line]
    exact List.append_ne_nil_of_right_ne_nil _ (List.cons_ne_nil _ _)
  · rw [isMarkerLine, opened, Option.bind_some, closed]
    rfl
  · have blank : Line.isBlank ((behind.takeWhile (· != '\n')).takeWhile isGap) := by
      rw [Line.isBlank, Text.isAllBlank, List.all_eq_true]
      intro c member
      have gap : isGap c := List.all_eq_true.mp List.all_takeWhile c member
      rcases (by simpa [isGap] using gap : c = ' ' ∨ c = '\t') with rfl | rfl <;> rfl
    have opening : attributeListOpen ++ inside =
        '<' :: ("!--kramdown-attrlist:".toList ++ inside) := rfl
    rw [line, opening, Line.isFenceDelimiter_append_cons (by decide)]
    exact Line.not_isFenceDelimiter_of_isBlank blank
  · rintro rfl
    by_contra inLine
    rw [guard, if_neg (by simpa using inLine)] at placed
    exact Option.some_ne_none _ placed.symm
  · rw [List.append_assoc, List.takeWhile_append_dropWhile, split]

theorem attributeListMarkerLine_proper : Pattern.Proper attributeListMarkerLine := by
  intro before t m found
  obtain ⟨feeds, line, rest, whole, _, _, shown, _, _, _, _, same⟩ :=
    attributeListMarkerLine_eq_some found
  exact ⟨by simp [whole, shown], rest, same.symm⟩

/-- Drop every line with a wrapped list, and the line feeds before it. -/
def strip : Text → Text := attributeListMarkerLine.replaceAll (Replacement.literal []).ofMatch

theorem lineCount_strip (t : Text) : lineCount (strip t) = lineCount t := by
  refine lineCount_replaceAll_of_aligned attributeListMarkerLine_proper ?_
  intro read written m rest whole found _ aligned
  obtain ⟨feeds, line, _, form, all, clean, shown, _, noFence, starts, ends, same⟩ :=
    attributeListMarkerLine_eq_some found
  obtain rfl := List.append_cancel_left same
  have dropped : (Replacement.literal []).ofMatch m = [] := rfl
  rw [form, dropped, List.nil_append, List.append_nil, List.append_assoc]
  constructor
  · cases feeds with
    | nil =>
      have begun := aligned (starts rfl)
      rw [List.nil_append, lineCount_append_of_atLineStart begun,
        lineCount_append_of_atLineStart begun, lineCount_append_of_atLineEnd clean noFence ends]
    | cons c feeds =>
      obtain rfl : c = '\n' := all c List.mem_cons_self
      rw [List.cons_append, lineCount_append_feed,
        lineCount_append_of_feeds fun d member => all d (.tail _ member),
        lineCount_append_of_atLineEnd clean noFence ends]
      cases rest with
      | nil => rw [List.append_nil]; rfl
      | cons d rest =>
        obtain rfl : d = '\n' := by simpa [Pattern.atLineEnd] using ends
        rw [lineCount_append_feed, lineCount_cons_feed]
  · intro atStart
    rw [atLineStart_getLast?_append shown clean] at atStart
    exact absurd atStart Bool.false_ne_true

theorem metadataMarkerBlock_eq_some {before : Option Char} {t : Text} {m : Match}
    (found : metadataMarkerBlock before t = some m) :
    Pattern.atLineStart before ∧ ∃ payload feeds rest,
      m.whole = metadataOpen ++ payload ++ metadataClose ++ feeds ∧ (∀ c ∈ feeds, c = '\n') ∧
        ¬ ['\n'] <+: rest ∧ t = m.whole ++ rest := by
  obtain ⟨_, placed, found⟩ := Option.bind_eq_some_iff.mp found
  obtain ⟨inside, opened, found⟩ := Option.bind_eq_some_iff.mp found
  obtain ⟨⟨payload, behind⟩, closed, found⟩ := Option.bind_eq_some_iff.mp found
  obtain rfl := Option.some.inj found
  refine ⟨?_, payload, _, behind.dropWhile (· == '\n'), rfl, ?_, ?_, ?_⟩
  · by_contra inLine
    rw [guard, if_neg inLine] at placed
    exact nomatch placed
  · intro c member
    simpa using List.all_eq_true.mp List.all_takeWhile c member
  · rintro ⟨rest, shown⟩
    have head := List.head?_dropWhile_not (· == '\n') behind
    rw [← shown] at head
    exact absurd head (by simp)
  · rw [← Text.after?_eq_some_iff.mp opened,
      ((Text.cutAt?_eq_some_iff metadataClose_ne_nil).mp closed).1]
    simp only [List.append_assoc, List.takeWhile_append_dropWhile]

theorem metadataMarkerBlock_proper : Pattern.Proper metadataMarkerBlock := by
  intro before t m found
  obtain ⟨_, payload, feeds, rest, whole, _, _, same⟩ := metadataMarkerBlock_eq_some found
  exact ⟨by simp [whole, metadataOpen_ne_nil], rest, same.symm⟩

/-- Carried metadata that is dropped: it holds no fence, and no text follows it on its last
line. -/
def ClearBlocks (t : Text) : Prop :=
  OwnLine metadataClose t ∧ ∀ m ∈ metadataMarkerBlock.findAll t, lineCount m.whole = 0

instance : DecidablePred ClearBlocks := fun t =>
  inferInstanceAs (Decidable (OwnLine metadataClose t ∧
    ∀ m ∈ metadataMarkerBlock.findAll t, lineCount m.whole = 0))

theorem lineCount_drop {t : Text} (clear : ClearBlocks t) :
    lineCount (metadataMarkerBlock.replaceAll (Replacement.literal []).ofMatch t) =
      lineCount t := by
  refine lineCount_replaceAll_of_aligned metadataMarkerBlock_proper ?_
  intro read written m rest whole found among aligned
  obtain ⟨starts, payload, feeds, _, form, all, noFeed, same⟩ := metadataMarkerBlock_eq_some found
  obtain rfl := List.append_cancel_left same
  have begun := aligned starts
  have dropped : (Replacement.literal []).ofMatch m = [] := rfl
  rw [dropped, List.nil_append, List.append_nil]
  refine ⟨?_, fun _ => begun⟩
  rw [lineCount_append_of_atLineStart begun, lineCount_append_of_atLineStart begun]
  rcases List.eq_nil_or_concat' feeds with rfl | ⟨others, last, rfl⟩
  · have placed : t = read ++ metadataOpen ++ payload ++ (metadataClose ++ rest) := by
      rw [whole, form]
      simp only [List.append_assoc, List.append_nil]
    have ends := (clear.1.atLineStart_and_atLineEnd (by decide) placed).2
    cases rest with
    | nil => rw [List.append_nil, clear.2 m among]; rfl
    | cons c rest =>
      obtain rfl : c = '\n' := by simpa [Pattern.atLineEnd] using ends
      exact absurd ⟨rest, rfl⟩ noFeed
  · obtain rfl : last = '\n' := all last (by simp)
    have ended : Pattern.atLineStart m.whole.getLast? := by
      rw [form, ← List.append_assoc, List.getLast?_concat]
      rfl
    rw [lineCount_append_of_atLineStart ended, clear.2 m among, Nat.zero_add]

theorem metadataMarker_eq_some {before : Option Char} {t : Text} {m : Match}
    (found : metadataMarker before t = some m) :
    ∃ payload feed rest, m = ⟨metadataOpen ++ payload ++ metadataClose ++ feed, [payload]⟩ ∧
      (feed = [] ∨ feed = ['\n']) ∧ t = m.whole ++ rest := by
  obtain ⟨inside, opened, found⟩ := Option.bind_eq_some_iff.mp found
  obtain ⟨⟨payload, behind⟩, closed, found⟩ := Option.bind_eq_some_iff.mp found
  obtain rfl := Option.some.inj found
  have whole := ((Text.cutAt?_eq_some_iff metadataClose_ne_nil).mp closed).1
  rw [← Text.after?_eq_some_iff.mp opened, whole]
  dsimp only
  by_cases fed : behind.head? = some '\n'
  · obtain ⟨rest, rfl⟩ : ∃ rest, behind = '\n' :: rest := by
      cases behind with
      | nil => exact nomatch fed
      | cons c rest => exact ⟨rest, by rw [Option.some.inj fed]⟩
    refine ⟨payload, ['\n'], rest, by rw [if_pos fed], .inr rfl, ?_⟩
    rw [if_pos fed]
    simp only [List.append_assoc, List.singleton_append]
  · refine ⟨payload, [], behind, by rw [if_neg fed], .inl rfl, ?_⟩
    rw [if_neg fed]
    simp only [List.append_assoc, List.append_nil]

theorem metadataMarker_proper : Pattern.Proper metadataMarker := by
  intro before t m found
  obtain ⟨payload, feed, rest, rfl, _, same⟩ := metadataMarker_eq_some found
  exact ⟨by simp [metadataOpen_ne_nil], rest, same.symm⟩

/-- Carried metadata that is unwrapped: its first and its last line hold nothing else. -/
def ClearMarkers (t : Text) : Prop := OwnLine metadataStart t ∧ OwnLine metadataClose t

instance : DecidablePred ClearMarkers := fun t =>
  inferInstanceAs (Decidable (OwnLine metadataStart t ∧ OwnLine metadataClose t))

theorem lineCount_restore {t : Text} (clear : ClearMarkers t) :
    lineCount (metadataMarker.replaceAll (Template.expand "$1".toList) t) = lineCount t := by
  refine lineCount_replaceAll_of_aligned metadataMarker_proper ?_
  intro read written m rest whole found among aligned
  obtain ⟨payload, feed, _, rfl, fed, same⟩ := metadataMarker_eq_some found
  obtain rfl := List.append_cancel_left same
  have opening : metadataOpen = metadataStart ++ ['\n'] := rfl
  have opens : t = read ++ (metadataStart ++
      '\n' :: (payload ++ metadataClose ++ feed ++ rest)) := by
    rw [whole, opening]
    simp
  have closes : t = read ++ metadataOpen ++ payload ++ (metadataClose ++ (feed ++ rest)) := by
    rw [whole]
    simp
  have starts := (clear.1.atLineStart_and_atLineEnd (by decide) opens).1
  obtain ⟨filled, ends⟩ := clear.2.atLineStart_and_atLineEnd (by decide) closes
  have begun := aligned starts
  have payloadEnds : Pattern.atLineStart payload.getLast? := by
    rcases List.eq_nil_or_concat' payload with rfl | ⟨front, last, rfl⟩
    · rfl
    · rwa [← List.append_assoc, List.getLast?_concat, ← List.getLast?_concat (l := front)] at filled
  have restored : Template.expand "$1".toList
      ⟨metadataOpen ++ payload ++ metadataClose ++ feed, [payload]⟩ = payload :=
    List.append_nil payload
  rw [restored]
  constructor
  · have noStart : ¬ Line.isFenceDelimiter metadataStart := by decide
    have noClose : ¬ Line.isFenceDelimiter metadataClose := by decide
    have behind : lineCount (feed ++ rest) = lineCount rest := by
      rcases fed with rfl | rfl
      · rfl
      · exact lineCount_cons_feed rest
    have comment : metadataOpen ++ payload ++ metadataClose ++ feed ++ rest =
        metadataStart ++ '\n' :: (payload ++ (metadataClose ++ (feed ++ rest))) := by
      rw [opening]
      simp only [List.append_assoc, List.cons_append, List.nil_append]
    rw [lineCount_append_of_atLineStart begun, lineCount_append_of_atLineStart begun, comment,
      lineCount_append_of_atLineEnd (by decide) noStart rfl, lineCount_cons_feed,
      lineCount_append_of_atLineStart payloadEnds, lineCount_append_of_atLineStart payloadEnds,
      lineCount_append_of_atLineEnd (by decide) noClose ends, behind]
  · intro _
    rcases List.eq_nil_or_concat' payload with rfl | ⟨front, last, rfl⟩
    · rwa [List.append_nil]
    · rwa [← List.append_assoc, List.getLast?_concat, ← List.getLast?_concat (l := front)]

/-- Wrapping a leading metadata block puts it on lines of its own. -/
theorem lineCount_carry (t : Text) :
    lineCount (metadataBlock.replaceAll wrapMetadata t) = lineCount t := by
  by_cases led : ∃ fields body, Metadata.Leads fields body t
  · obtain ⟨fields, body, leads⟩ := led
    have starts : Pattern.atLineStart (Text.terminated fields).getLast? := by
      rw [Text.terminated_eq_unlines leads.nonempty, List.getLast?_concat]
      rfl
    have noStart : ¬ Line.isFenceDelimiter metadataStart := by decide
    have noClose : ¬ Line.isFenceDelimiter metadataClose := by decide
    have comment : carriedMetadata fields body = metadataStart ++ '\n' ::
        (Text.terminated fields ++ (metadataClose ++ '\n' :: '\n' :: body)) := by
      have opening : metadataOpen = metadataStart ++ ['\n'] := rfl
      simp only [carriedMetadata, opening, List.append_assoc, List.cons_append, List.nil_append]
    rw [replaceAll_metadataBlock_of_leads leads, comment,
      lineCount_append_of_atLineEnd (by decide) noStart rfl, lineCount_cons_feed,
      lineCount_append_of_atLineStart starts,
      lineCount_append_of_atLineEnd (by decide) noClose rfl, lineCount_cons_feed,
      ← lineCount_append_of_atLineStart starts, leads.whole]
  · rw [replaceAll_metadataBlock_of_not_leads fun fields body leads => led ⟨fields, body, leads⟩]

end Marker

end MarkdownDialects
