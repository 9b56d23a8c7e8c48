import MarkdownDialects.Proofs.Line.FenceCount
import MarkdownDialects.Proofs.Substitution.Scan

/-!
# Replacements that keep code fences

When replacing the matches of a pattern keeps the number of lines that are fence delimiters.  It
does if every replacement is neutral wherever it is made (`Fence.lineCount_replaceAll`), or if the
matches cover whole lines and what was written so far begins a line where what was read so far does
(`Fence.lineCount_replaceAll_of_aligned`).
-/

namespace MarkdownDialects

namespace Fence

variable {p : Pattern} {f : Match → Text} {t : Text}

/-- Putting one text in the place of another changes no number of fences, wherever it is done. -/
def Neutral (before after : Text) : Prop :=
  ∀ front rest, lineCount (front ++ (after ++ rest)) = lineCount (front ++ (before ++ rest))

theorem Neutral.refl (s : Text) : Neutral s s := fun _ _ => rfl

/-- What stands in front of both texts makes no difference. -/
theorem Neutral.append_left {before after : Text} (neutral : Neutral before after) (indent : Text) :
    Neutral (indent ++ before) (indent ++ after) := fun front rest => by
  rw [List.append_assoc, List.append_assoc, ← List.append_assoc front,
    ← List.append_assoc front, neutral]

/-- Solid texts do not count, so it makes no difference which of them stands somewhere. -/
theorem neutral_of_isSolid {before after : Text} (solid : isSolid before) (other : isSolid after) :
    Neutral before after := fun front rest => by
  rw [lineCount_append_of_isSolid solid, lineCount_append_of_isSolid other]

/-- Marks around a text do not count if they are solid. -/
theorem lineCount_append_enclosed {opening closing : Text} (opens : isSolid opening)
    (closes : isSolid closing) (front payload rest : Text) :
    lineCount (front ++ (opening ++ payload ++ closing ++ rest)) =
      lineCount front + (laterCount payload + laterCount rest) := by
  rw [List.append_assoc, List.append_assoc, lineCount_append_of_isSolid opens,
    laterCount_append_of_isSolid closes]

theorem neutral_enclosed {opening closing u v : Text} (opens : isSolid opening)
    (closes : isSolid closing) (opened : isSolid u) (closed : isSolid v) (payload : Text) :
    Neutral (opening ++ payload ++ closing) (u ++ payload ++ v) := fun front rest => by
  rw [lineCount_append_enclosed opens closes, lineCount_append_enclosed opened closed]

/-- **Neutral replacements.**  A pattern all of whose matches are replaced neutrally keeps the
number of fences. -/
theorem lineCount_replaceAll (proper : p.Proper)
    (neutral : ∀ before s m, p before s = some m → m ∈ p.findAll t → Neutral m.whole (f m)) :
    lineCount (p.replaceAll f t) = lineCount t := by
  have run := Pattern.replaceAll_induction (f := f) proper
    (R := fun read written => ∀ rest, lineCount (written ++ rest) = lineCount (read ++ rest))
    (fun _ => rfl)
    (fun read written c agree rest => by
      simpa only [List.append_assoc] using agree ([c] ++ rest))
    (fun read written m behind _ found among agree rest => by
      rw [List.append_assoc, neutral _ _ m found among, agree, List.append_assoc])
  simpa only [List.append_nil] using run []

/-! ## Matches of whole lines -/

theorem atLineStart_getLast?_iff {s : Text} :
    Pattern.atLineStart s.getLast? ↔ s = [] ∨ ∃ front, s = front ++ ['\n'] := by
  rcases List.eq_nil_or_concat' s with rfl | ⟨front, last, rfl⟩
  · simp [Pattern.atLineStart]
  · simp [Pattern.atLineStart]

/-- Behind a part of a line no line begins. -/
theorem atLineStart_getLast?_append {line : Text} (shown : line ≠ []) (clean : '\n' ∉ line)
    (front : Text) : Pattern.atLineStart (front ++ line).getLast? = false := by
  obtain ⟨others, last, rfl⟩ := (List.eq_nil_or_concat' line).resolve_left shown
  have solid : last ≠ '\n' := fun feed => clean (by simp [feed])
  simpa [Pattern.atLineStart] using solid

/-- Where a line begins, what is counted before and behind adds up. -/
theorem lineCount_append_of_atLineStart {front : Text}
    (starts : Pattern.atLineStart front.getLast?) (rest : Text) :
    lineCount (front ++ rest) = lineCount front + lineCount rest := by
  rcases atLineStart_getLast?_iff.mp starts with rfl | ⟨before, rfl⟩
  · exact (Nat.zero_add _).symm
  · have last : lineCount (before ++ ['\n']) = lineCount before := lineCount_append_feed before []
    rw [List.append_assoc, List.singleton_append, lineCount_append_feed, last]

/-- A whole line that is no fence delimiter does not count. -/
theorem lineCount_append_of_atLineEnd {line rest : Text} (clean : '\n' ∉ line)
    (noFence : ¬ Line.isFenceDelimiter line) (ends : Pattern.atLineEnd rest) :
    lineCount (line ++ rest) = lineCount rest := by
  have nothing : lineCount line = 0 := by rw [lineCount_of_not_mem clean, if_neg noFence]
  cases rest with
  | nil =>
    rw [List.append_nil, nothing]
    rfl
  | cons c rest =>
    obtain rfl : c = '\n' := by simpa [Pattern.atLineEnd] using ends
    rw [lineCount_append_feed, nothing, lineCount_cons_feed, Nat.zero_add]

theorem lineCount_append_of_feeds {feeds : Text} (all : ∀ c ∈ feeds, c = '\n') (rest : Text) :
    lineCount (feeds ++ rest) = lineCount rest := by
  induction feeds with
  | nil => rfl
  | cons c feeds ih =>
    obtain rfl : c = '\n' := all c List.mem_cons_self
    rw [List.cons_append, lineCount_cons_feed, ih fun d member => all d (.tail _ member)]

/-- **Replacements of whole lines.**  A pattern keeps the number of fences if each replacement keeps
it at its place and ends a line where its match does, given that what was written before it begins a
line where the match begins one. -/
theorem lineCount_replaceAll_of_aligned (proper : p.Proper)
    (hit : ∀ read written m rest, t = read ++ (m.whole ++ rest) →
      p read.getLast? (m.whole ++ rest) = some m → m ∈ p.findAll t →
        (Pattern.atLineStart read.getLast? → Pattern.atLineStart written.getLast?) →
          lineCount (written ++ (f m ++ rest)) = lineCount (written ++ (m.whole ++ rest)) ∧
            (Pattern.atLineStart m.whole.getLast? →
              Pattern.atLineStart (written ++ f m).getLast?)) :
    lineCount (p.replaceAll f t) = lineCount t := by
  let aligned (read written : Text) : Prop :=
    (∀ rest, t = read ++ rest → lineCount (written ++ rest) = lineCount t) ∧
      (Pattern.atLineStart read.getLast? → Pattern.atLineStart written.getLast?)
  have start : aligned [] [] := ⟨fun rest whole => by rw [whole], id⟩
  have kept (read written : Text) (c : Char) (agree : aligned read written) :
      aligned (read ++ [c]) (written ++ [c]) := by
    refine ⟨fun rest whole => ?_, fun starts => ?_⟩
    · rw [List.append_assoc] at whole ⊢
      exact agree.1 _ whole
    · simpa only [List.getLast?_concat] using starts
  have run := Pattern.replaceAll_induction (f := f) proper (R := aligned) start kept
    (fun read written m behind whole found among agree => by
      obtain ⟨counts, ends⟩ := hit read written m behind whole found among agree.2
      have nonempty := (proper found).1
      refine ⟨fun rest same => ?_, fun starts => ?_⟩
      · obtain rfl : behind = rest := by
          rw [whole, List.append_assoc] at same
          exact List.append_cancel_left (List.append_cancel_left same)
        rw [List.append_assoc, counts]
        exact agree.1 _ whole
      · rw [List.getLast?_append_of_ne_nil read nonempty] at starts
        exact ends starts)
  simpa only [List.append_nil] using run.1 [] (List.append_nil t).symm

end Fence

end MarkdownDialects
