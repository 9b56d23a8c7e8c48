import MarkdownDialects.Dialect.Obsidian
import MarkdownDialects.Proofs.Substitution.Scan
import MarkdownDialects.Proofs.Text.Letter

/-!
# What the patterns of note links find

Each pattern begins with a mark of its own, and each of them finds its form of link whatever
follows the link.  Conversely a match has that form and is where the text begins.
-/

namespace MarkdownDialects

namespace Obsidian

/-- A run is read up to the first character outside its class. -/
theorem run?_append {p : Char → Bool} {front rest : Text} {c : Char} (nonempty : front ≠ [])
    (all : ∀ d ∈ front, p d) (stop : p c = false) :
    run? p (front ++ c :: rest) = some (front, c :: rest) := by
  have taken : (front ++ c :: rest).takeWhile p = front := by
    rw [List.takeWhile_append_of_pos all, List.takeWhile_cons_of_neg (by simp [stop]),
      List.append_nil]
  have left : (front ++ c :: rest).dropWhile p = c :: rest := by
    rw [List.dropWhile_append_of_pos all, List.dropWhile_cons_of_neg (by simp [stop])]
  unfold run?
  rw [taken, left]
  cases front with
  | nil => exact absurd rfl nonempty
  | cons _ _ => rfl

theorem inBrackets_of_not_mem {t : Text} (absent : ']' ∉ t) : ∀ c ∈ t, inBrackets c := by
  intro c member
  have different : c ≠ ']' := fun same => absent (same ▸ member)
  simpa [inBrackets] using different

theorem inParens_of_not_mem {t : Text} (absent : ')' ∉ t) : ∀ c ∈ t, inParens c := by
  intro c member
  have different : c ≠ ')' := fun same => absent (same ▸ member)
  simpa [inParens] using different

/-! ## The marks they begin with -/

theorem embedPattern_opens : Pattern.Opens embedPattern "![[".toList :=
  Pattern.opens_of_bind fun _ _ => rfl

theorem aliasedLinkPattern_opens : Pattern.Opens aliasedLinkPattern "[[".toList :=
  Pattern.opens_of_bind fun _ _ => rfl

theorem wikiLinkPattern_opens : Pattern.Opens wikiLinkPattern "[[".toList :=
  Pattern.opens_of_bind fun _ _ => rfl

theorem highlightPattern_opens : Pattern.Opens highlightPattern "==".toList :=
  Pattern.opens_of_bind fun _ _ => rfl

theorem imagePattern_opens : Pattern.Opens imagePattern "![".toList :=
  Pattern.opens_of_bind fun _ _ => rfl

theorem linkPattern_opens : Pattern.Opens linkPattern ['['] :=
  Pattern.opens_of_bind fun _ _ => rfl

/-- A callout contains the mark of its kind. -/
theorem calloutPattern_eq_none {before : Option Char} {t : Text} (absent : ¬ "[!".toList <:+: t) :
    calloutPattern before t = none := by
  unfold calloutPattern
  cases opened : Text.after? ['>'] t with
  | none => cases Pattern.atLineStart before <;> rfl
  | some rest =>
    have missing : Text.after? "[!".toList (rest.dropWhile Marker.isGap) = none := by
      rw [Text.after?_eq_none_iff]
      intro found
      have inside : rest.dropWhile Marker.isGap <:+: t := by
        rw [← Text.after?_eq_some_iff.mp opened]
        exact ((List.dropWhile_suffix _).trans (List.suffix_cons '>' rest)).isInfix
      exact absent (found.isInfix.trans inside)
    rw [Option.bind_eq_bind, Option.bind_eq_bind, Option.bind_some, missing]
    cases Pattern.atLineStart before <;> rfl

/-! ## The links they find -/

section Hits

variable {target shown : Text} (before : Option Char) (rest : Text)

theorem embedPattern_append (nonempty : target ≠ []) (closed : ']' ∉ target) :
    embedPattern before ("![[".toList ++ target ++ "]]".toList ++ rest) =
      some ⟨"![[".toList ++ target ++ "]]".toList, [target]⟩ := by
  have run : run? inBrackets (target ++ ("]]".toList ++ rest)) =
      some (target, "]]".toList ++ rest) :=
    run?_append nonempty (inBrackets_of_not_mem closed) rfl
  unfold embedPattern
  simp only [List.append_assoc, Text.after?_append, Option.bind_eq_bind, Option.bind_some, run]

theorem wikiLinkPattern_append (nonempty : target ≠ []) (closed : ']' ∉ target) :
    wikiLinkPattern before ("[[".toList ++ target ++ "]]".toList ++ rest) =
      some ⟨"[[".toList ++ target ++ "]]".toList, [target]⟩ := by
  have run : run? inBrackets (target ++ ("]]".toList ++ rest)) =
      some (target, "]]".toList ++ rest) :=
    run?_append nonempty (inBrackets_of_not_mem closed) rfl
  unfold wikiLinkPattern
  simp only [List.append_assoc, Text.after?_append, Option.bind_eq_bind, Option.bind_some, run]

/-- The target of an aliased link stops at a pipe or a closing bracket. -/
theorem run?_target (nonempty : target ≠ []) (single : '|' ∉ target) (closed : ']' ∉ target)
    {c : Char} (stop : c = '|' ∨ c = ']') :
    run? (fun c => c != '|' && c != ']') (target ++ c :: rest) = some (target, c :: rest) := by
  refine run?_append nonempty ?_ ?_
  · intro d member
    have noPipe : d ≠ '|' := fun same => single (same ▸ member)
    have noBracket : d ≠ ']' := fun same => closed (same ▸ member)
    simp [noPipe, noBracket]
  · rcases stop with rfl | rfl <;> rfl

theorem aliasedLinkPattern_append (nonempty : target ≠ []) (single : '|' ∉ target)
    (closed : ']' ∉ target) (named : shown ≠ []) (ended : ']' ∉ shown) :
    aliasedLinkPattern before
        ("[[".toList ++ target ++ ['|'] ++ shown ++ "]]".toList ++ rest) =
      some ⟨"[[".toList ++ target ++ ['|'] ++ shown ++ "]]".toList, [target, shown]⟩ := by
  have first : run? (fun c => c != '|' && c != ']')
      (target ++ (['|'] ++ (shown ++ ("]]".toList ++ rest)))) =
        some (target, ['|'] ++ (shown ++ ("]]".toList ++ rest))) :=
    run?_target _ nonempty single closed (.inl rfl)
  have second : run? inBrackets (shown ++ ("]]".toList ++ rest)) =
      some (shown, "]]".toList ++ rest) :=
    run?_append named (inBrackets_of_not_mem ended) rfl
  unfold aliasedLinkPattern
  simp only [List.append_assoc, Text.after?_append, Option.bind_eq_bind, Option.bind_some, first,
    second]

/-- A link without a pipe is no aliased link. -/
theorem aliasedLinkPattern_wikiLink (nonempty : target ≠ []) (single : '|' ∉ target)
    (closed : ']' ∉ target) :
    aliasedLinkPattern before ("[[".toList ++ target ++ "]]".toList ++ rest) = none := by
  have run : run? (fun c => c != '|' && c != ']') (target ++ ("]]".toList ++ rest)) =
      some (target, "]]".toList ++ rest) :=
    run?_target _ nonempty single closed (.inr rfl)
  unfold aliasedLinkPattern
  simp only [List.append_assoc, Text.after?_append, Option.bind_eq_bind, Option.bind_some, run]
  rfl

variable {href : Text}

theorem linkTail?_append (nonempty : href ≠ []) (closed : ')' ∉ href) :
    linkTail? ("](".toList ++ href ++ [')'] ++ rest) = some href := by
  have run : run? inParens (href ++ ([')'] ++ rest)) = some (href, [')'] ++ rest) :=
    run?_append nonempty (inParens_of_not_mem closed) rfl
  unfold linkTail?
  simp only [List.append_assoc, Text.after?_append, Option.bind_eq_bind, Option.bind_some, run]

/-- The text of an image ends at the first closing bracket; it may be empty. -/
theorem imagePattern_append (ended : ']' ∉ shown) (nonempty : href ≠ []) (closed : ')' ∉ href) :
    imagePattern before ("![".toList ++ shown ++ "](".toList ++ href ++ [')'] ++ rest) =
      some ⟨"![".toList ++ shown ++ "](".toList ++ href ++ [')'], [shown, href]⟩ := by
  have all := inBrackets_of_not_mem ended
  have tail := linkTail?_append rest nonempty closed
  have taken : (shown ++ ("](".toList ++ (href ++ ([')'] ++ rest)))).takeWhile inBrackets =
      shown := by
    rw [List.takeWhile_append_of_pos all]
    exact List.append_nil shown
  have left : (shown ++ ("](".toList ++ (href ++ ([')'] ++ rest)))).dropWhile inBrackets =
      "](".toList ++ (href ++ ([')'] ++ rest)) := by
    rw [List.dropWhile_append_of_pos all]
    rfl
  unfold imagePattern
  simp only [List.append_assoc] at tail ⊢
  simp only [Text.after?_append, Option.bind_eq_bind, Option.bind_some, taken, left, tail]

theorem linkPattern_append (named : shown ≠ []) (ended : ']' ∉ shown) (nonempty : href ≠ [])
    (closed : ')' ∉ href) :
    linkPattern before (['['] ++ shown ++ "](".toList ++ href ++ [')'] ++ rest) =
      some ⟨['['] ++ shown ++ "](".toList ++ href ++ [')'], [shown, href]⟩ := by
  have tail := linkTail?_append rest nonempty closed
  have run : run? inBrackets (shown ++ ("](".toList ++ (href ++ ([')'] ++ rest)))) =
      some (shown, "](".toList ++ (href ++ ([')'] ++ rest))) :=
    run?_append named (inBrackets_of_not_mem ended) rfl
  unfold linkPattern
  simp only [List.append_assoc] at tail ⊢
  simp only [Text.after?_append, Option.bind_eq_bind, Option.bind_some, run, tail]

/-- A link leads somewhere. -/
theorem linkPattern_nowhere (named : shown ≠ []) (ended : ']' ∉ shown) :
    linkPattern before (['['] ++ shown ++ "]()".toList ++ rest) = none := by
  have run : run? inBrackets (shown ++ ("]()".toList ++ rest)) =
      some (shown, "]()".toList ++ rest) :=
    run?_append named (inBrackets_of_not_mem ended) rfl
  unfold linkPattern
  simp only [List.append_assoc, Text.after?_append, Option.bind_eq_bind, Option.bind_some, run]
  rfl

/-- Brackets that close twice are no link, even if they opened twice. -/
theorem linkPattern_eq_none (named : shown ≠ []) (ended : ']' ∉ shown) :
    linkPattern before (['['] ++ shown ++ "]]".toList ++ rest) = none := by
  have run : run? inBrackets (shown ++ ("]]".toList ++ rest)) =
      some (shown, "]]".toList ++ rest) :=
    run?_append named (inBrackets_of_not_mem ended) rfl
  unfold linkPattern
  simp only [List.append_assoc, Text.after?_append, Option.bind_eq_bind, Option.bind_some, run]
  rfl

end Hits

/-! ## The form of a match -/

section Form

variable {before : Option Char} {t : Text} {m : Match}

theorem run?_eq_some {p : Char → Bool} {front rest : Text} (found : run? p t = some (front, rest)) :
    front ≠ [] ∧ (∀ c ∈ front, p c) ∧ front ++ rest = t := by
  have whole : t.takeWhile p ++ t.dropWhile p = t := List.takeWhile_append_dropWhile
  have all : ∀ c ∈ t.takeWhile p, p c := List.all_eq_true.mp List.all_takeWhile
  unfold run? at found
  split at found
  · exact nomatch found
  · rename_i nonempty
    obtain ⟨rfl, rfl⟩ := Prod.mk.inj (Option.some.inj found)
    exact ⟨nonempty, all, whole⟩

/-- What a match covers begins the text. -/
theorem embedPattern_eq_some (found : embedPattern before t = some m) :
    ∃ target, m = ⟨"![[".toList ++ target ++ "]]".toList, [target]⟩ ∧ m.whole <+: t := by
  obtain ⟨inside, opened, found⟩ := Option.bind_eq_some_iff.mp found
  obtain ⟨⟨target, behind⟩, run, found⟩ := Option.bind_eq_some_iff.mp found
  obtain ⟨rest, closed, found⟩ := Option.bind_eq_some_iff.mp found
  obtain rfl := Option.some.inj found
  refine ⟨target, rfl, rest, ?_⟩
  rw [← Text.after?_eq_some_iff.mp opened, ← (run?_eq_some run).2.2,
    ← Text.after?_eq_some_iff.mp closed]
  simp only [List.append_assoc]

theorem aliasedLinkPattern_eq_some (found : aliasedLinkPattern before t = some m) :
    ∃ target shown, m = ⟨"[[".toList ++ target ++ ['|'] ++ shown ++ "]]".toList, [target, shown]⟩ ∧
      m.whole <+: t := by
  obtain ⟨inside, opened, found⟩ := Option.bind_eq_some_iff.mp found
  obtain ⟨⟨target, piped⟩, first, found⟩ := Option.bind_eq_some_iff.mp found
  obtain ⟨named, pipe, found⟩ := Option.bind_eq_some_iff.mp found
  obtain ⟨⟨shown, behind⟩, second, found⟩ := Option.bind_eq_some_iff.mp found
  obtain ⟨rest, closed, found⟩ := Option.bind_eq_some_iff.mp found
  obtain rfl := Option.some.inj found
  refine ⟨target, shown, rfl, rest, ?_⟩
  rw [← Text.after?_eq_some_iff.mp opened, ← (run?_eq_some first).2.2,
    ← Text.after?_eq_some_iff.mp pipe, ← (run?_eq_some second).2.2,
    ← Text.after?_eq_some_iff.mp closed]
  simp only [List.append_assoc]

theorem wikiLinkPattern_eq_some (found : wikiLinkPattern before t = some m) :
    ∃ target, m = ⟨"[[".toList ++ target ++ "]]".toList, [target]⟩ ∧ m.whole <+: t := by
  obtain ⟨inside, opened, found⟩ := Option.bind_eq_some_iff.mp found
  obtain ⟨⟨target, behind⟩, run, found⟩ := Option.bind_eq_some_iff.mp found
  obtain ⟨rest, closed, found⟩ := Option.bind_eq_some_iff.mp found
  obtain rfl := Option.some.inj found
  refine ⟨target, rfl, rest, ?_⟩
  rw [← Text.after?_eq_some_iff.mp opened, ← (run?_eq_some run).2.2,
    ← Text.after?_eq_some_iff.mp closed]
  simp only [List.append_assoc]

/-- A callout header stays on its line. -/
theorem calloutPattern_eq_some (found : calloutPattern before t = some m) :
    ∃ indent kind gap title,
      m = ⟨['>'] ++ indent ++ "[!".toList ++ kind ++ [']'] ++ gap ++ title, [kind, title]⟩ ∧
        (∀ c ∈ kind, isKindChar c) ∧ '\n' ∉ indent ∧ '\n' ∉ gap ∧ '\n' ∉ title ∧
        m.whole <+: t := by
  obtain ⟨_, _, found⟩ := Option.bind_eq_some_iff.mp found
  obtain ⟨quoted, opened, found⟩ := Option.bind_eq_some_iff.mp found
  obtain ⟨inside, marked, found⟩ := Option.bind_eq_some_iff.mp found
  obtain ⟨⟨kind, labelled⟩, run, found⟩ := Option.bind_eq_some_iff.mp found
  obtain ⟨after, closed, found⟩ := Option.bind_eq_some_iff.mp found
  obtain rfl := Option.some.inj found
  have gaps (s : Text) : '\n' ∉ s.takeWhile Marker.isGap := by
    intro member
    exact absurd (List.all_eq_true.mp List.all_takeWhile _ member) (by decide)
  have line (s : Text) : '\n' ∉ s.takeWhile (· != '\n') := by
    intro member
    simpa using List.all_eq_true.mp List.all_takeWhile _ member
  refine ⟨_, kind, _, _, rfl, (run?_eq_some run).2.1, gaps _, gaps _, line _,
    (after.dropWhile Marker.isGap).dropWhile (· != '\n'), ?_⟩
  have title : (after.dropWhile Marker.isGap).takeWhile (· != '\n') ++
      (after.dropWhile Marker.isGap).dropWhile (· != '\n') = after.dropWhile Marker.isGap :=
    List.takeWhile_append_dropWhile
  have header : "[!".toList ++ (kind ++ (']' :: after)) = quoted.dropWhile Marker.isGap := by
    rw [← Text.after?_eq_some_iff.mp marked, ← (run?_eq_some run).2.2,
      ← Text.after?_eq_some_iff.mp closed, List.singleton_append]
  rw [← Text.after?_eq_some_iff.mp opened]
  simp only [List.append_assoc, List.cons_append, List.nil_append, title,
    List.takeWhile_append_dropWhile]
  rw [header, List.takeWhile_append_dropWhile]

/-- A highlight stays on its line. -/
theorem highlightPattern_eq_some (found : highlightPattern before t = some m) :
    ∃ marked, m = ⟨"==".toList ++ marked ++ "==".toList, [marked]⟩ ∧ '\n' ∉ marked ∧
      m.whole <+: t := by
  obtain ⟨inside, opened, found⟩ := Option.bind_eq_some_iff.mp found
  obtain ⟨⟨marked, behind⟩, run, found⟩ := Option.bind_eq_some_iff.mp found
  obtain ⟨rest, closed, found⟩ := Option.bind_eq_some_iff.mp found
  obtain rfl := Option.some.inj found
  refine ⟨marked, rfl, ?_, rest, ?_⟩
  · intro member
    exact absurd ((run?_eq_some run).2.1 _ member) (by decide)
  · rw [← Text.after?_eq_some_iff.mp opened, ← (run?_eq_some run).2.2,
      ← Text.after?_eq_some_iff.mp closed]
    simp only [List.append_assoc]

theorem linkTail?_eq_some {href : Text} (found : linkTail? t = some href) :
    "](".toList ++ href ++ [')'] <+: t := by
  obtain ⟨inside, opened, found⟩ := Option.bind_eq_some_iff.mp found
  obtain ⟨⟨target, behind⟩, run, found⟩ := Option.bind_eq_some_iff.mp found
  obtain ⟨rest, closed, found⟩ := Option.bind_eq_some_iff.mp found
  obtain rfl := Option.some.inj found
  refine ⟨rest, ?_⟩
  rw [← Text.after?_eq_some_iff.mp opened, ← (run?_eq_some run).2.2,
    ← Text.after?_eq_some_iff.mp closed]
  simp only [List.append_assoc]

theorem imagePattern_eq_some (found : imagePattern before t = some m) :
    ∃ alt href, m = ⟨"![".toList ++ alt ++ "](".toList ++ href ++ [')'], [alt, href]⟩ ∧
      m.whole <+: t := by
  obtain ⟨inside, opened, found⟩ := Option.bind_eq_some_iff.mp found
  obtain ⟨href, tail, found⟩ := Option.bind_eq_some_iff.mp found
  obtain rfl := Option.some.inj found
  obtain ⟨rest, behind⟩ := linkTail?_eq_some tail
  refine ⟨_, href, rfl, rest, ?_⟩
  rw [← Text.after?_eq_some_iff.mp opened]
  simp only [List.append_assoc] at behind ⊢
  rw [behind, List.takeWhile_append_dropWhile]

/-- A link shows something, up to the first closing bracket. -/
theorem linkPattern_eq_some (found : linkPattern before t = some m) :
    ∃ text href, m = ⟨['['] ++ text ++ "](".toList ++ href ++ [')'], [text, href]⟩ ∧
      text ≠ [] ∧ ']' ∉ text ∧ m.whole <+: t := by
  obtain ⟨inside, opened, found⟩ := Option.bind_eq_some_iff.mp found
  obtain ⟨⟨text, behind⟩, run, found⟩ := Option.bind_eq_some_iff.mp found
  obtain ⟨href, tail, found⟩ := Option.bind_eq_some_iff.mp found
  obtain rfl := Option.some.inj found
  obtain ⟨rest, closed⟩ := linkTail?_eq_some tail
  obtain ⟨named, all, covers⟩ := run?_eq_some run
  have ended : ']' ∉ text := fun member => absurd (all _ member) (by decide)
  refine ⟨text, href, rfl, named, ended, rest, ?_⟩
  rw [← Text.after?_eq_some_iff.mp opened, ← covers, ← closed]
  simp only [List.append_assoc]

end Form

/-! ## The label of a callout -/

/-- Only letters of a callout's kind change in its label. -/
theorem mem_of_mem_calloutLabel {symbol : Char} {kind : Text} (other : symbol.isAlpha = false)
    (member : symbol ∈ calloutLabel kind) : symbol ∈ kind := by
  cases kind with
  | nil => exact member
  | cons c cs =>
    rcases List.mem_cons.mp member with same | later
    · exact List.mem_cons.mpr (.inl (eq_of_toUpper_eq other same.symm).symm)
    · obtain ⟨d, inside, same⟩ := List.mem_map.mp later
      exact List.mem_cons_of_mem c (eq_of_toLower_eq other same ▸ inside)

/-! ## Matches are front parts -/

theorem embedPattern_proper : Pattern.Proper embedPattern := by
  intro before t m found
  obtain ⟨target, rfl, front⟩ := embedPattern_eq_some found
  exact ⟨List.cons_ne_nil _ _, front⟩

theorem aliasedLinkPattern_proper : Pattern.Proper aliasedLinkPattern := by
  intro before t m found
  obtain ⟨target, shown, rfl, front⟩ := aliasedLinkPattern_eq_some found
  exact ⟨List.cons_ne_nil _ _, front⟩

theorem wikiLinkPattern_proper : Pattern.Proper wikiLinkPattern := by
  intro before t m found
  obtain ⟨target, rfl, front⟩ := wikiLinkPattern_eq_some found
  exact ⟨List.cons_ne_nil _ _, front⟩

theorem calloutPattern_proper : Pattern.Proper calloutPattern := by
  intro before t m found
  obtain ⟨_, _, _, _, rfl, _, _, _, _, front⟩ := calloutPattern_eq_some found
  exact ⟨List.cons_ne_nil _ _, front⟩

theorem highlightPattern_proper : Pattern.Proper highlightPattern := by
  intro before t m found
  obtain ⟨marked, rfl, _, front⟩ := highlightPattern_eq_some found
  exact ⟨List.cons_ne_nil _ _, front⟩

theorem imagePattern_proper : Pattern.Proper imagePattern := by
  intro before t m found
  obtain ⟨alt, href, rfl, front⟩ := imagePattern_eq_some found
  exact ⟨List.cons_ne_nil _ _, front⟩

theorem linkPattern_proper : Pattern.Proper linkPattern := by
  intro before t m found
  obtain ⟨text, href, rfl, _, _, front⟩ := linkPattern_eq_some found
  exact ⟨List.cons_ne_nil _ _, front⟩

end Obsidian

end MarkdownDialects
