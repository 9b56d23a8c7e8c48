import MarkdownDialects.Proofs.Text.Mark
import MarkdownDialects.Substitution.Pattern

/-!
# What a scan finds

The relation `Pattern.Scanned` says of a list of pieces that each of them is what the pattern finds
at its place.  The scan of a text is the only such list that covers the text
(`Pattern.scanFrom_eq_iff`), so what a scan finds can be shown piece by piece.  Patterns that do not
look at the character before them are replaced step by step: a text is a row of parts, and every
part becomes its replacement whatever follows it (`Pattern.replaceAll_flatMap`).
-/

namespace MarkdownDialects

namespace Piece

/-- The text that a piece covers. -/
def source : Piece → Text
  | .kept c => [c]
  | .hit m => m.whole

/-- The text that a piece becomes when every match is replaced. -/
def output (f : Match → Text) : Piece → Text
  | .kept c => [c]
  | .hit m => f m

/-- The match that a piece is. -/
def match? : Piece → Option Match
  | .kept _ => none
  | .hit m => some m

/-- A text without a character is found in a replaced text only where it stood before, if every
replacement begins with that character. -/
theorem isPrefix_source_of_isPrefix_output {a : Char} {f : Match → Text} {w : Text}
    (absent : a ∉ w) (headed : ∀ m, ∃ rest, f m = a :: rest) {pieces : List Piece}
    (found : w <+: pieces.flatMap (output f)) : w <+: pieces.flatMap source := by
  induction w generalizing pieces with
  | nil => exact List.nil_prefix
  | cons b w ih =>
    cases pieces with
    | nil => exact absurd (List.prefix_nil.mp found) (List.cons_ne_nil b w)
    | cons piece pieces =>
      cases piece with
      | kept c =>
        obtain ⟨rfl, behind⟩ := List.cons_prefix_cons.mp found
        have others : w <+: pieces.flatMap source :=
          ih (fun member => absent (List.mem_cons_of_mem b member)) behind
        exact List.cons_prefix_cons.mpr ⟨rfl, others⟩
      | hit m =>
        obtain ⟨rest, head⟩ := headed m
        rw [List.flatMap_cons, output, head, List.cons_append] at found
        obtain ⟨same, _⟩ := List.cons_prefix_cons.mp found
        exact absurd (same ▸ List.mem_cons_self) absent

end Piece

namespace Pattern

variable {p : Pattern} {f : Match → Text}

/-- Every match is a nonempty front part of the text. -/
def Proper (p : Pattern) : Prop :=
  ∀ ⦃before : Option Char⦄ ⦃t : Text⦄ ⦃m : Match⦄,
    p before t = some m → m.whole ≠ [] ∧ m.whole <+: t

/-- Pieces that a pattern finds one after the other, given the character before them. -/
inductive Scanned (p : Pattern) : Option Char → List Piece → Prop
  | nil {before : Option Char} (silent : p before [] = none) : Scanned p before []
  | kept {before : Option Char} {c : Char} {rest : List Piece}
      (silent : p before (c :: rest.flatMap Piece.source) = none)
      (tail : Scanned p (some c) rest) : Scanned p before (.kept c :: rest)
  | hit {before : Option Char} {m : Match} {rest : List Piece} (nonempty : m.whole ≠ [])
      (found : p before (m.whole ++ rest.flatMap Piece.source) = some m)
      (tail : Scanned p m.whole.getLast? rest) : Scanned p before (.hit m :: rest)

/-- Scanning goes on behind the characters that a match still covers. -/
theorem scanFrom_length_append (before : Option Char) (front rest : Text) :
    scanFrom p before front.length (front ++ rest) =
      scanFrom p (front.getLast?.or before) 0 rest := by
  induction front generalizing before with
  | nil => rfl
  | cons c front ih =>
    rw [List.length_cons, List.cons_append, scanFrom, ih, List.getLast?_cons]
    cases front.getLast? <;> rfl

/-- A match is taken as a whole. -/
theorem scanFrom_append_of_match {before : Option Char} {m : Match} {rest : Text}
    (nonempty : m.whole ≠ []) (found : p before (m.whole ++ rest) = some m) :
    scanFrom p before 0 (m.whole ++ rest) = .hit m :: scanFrom p m.whole.getLast? 0 rest := by
  obtain ⟨c, cs, whole⟩ := List.exists_cons_of_ne_nil nonempty
  rw [whole, List.cons_append] at found ⊢
  have behind := scanFrom_length_append (p := p) (some c) cs rest
  simp only [scanFrom, found, whole, List.length_cons]
  rw [behind, List.getLast?_cons]
  cases cs.getLast? <;> rfl

/-- A character at which nothing matches is kept. -/
theorem scanFrom_cons_of_none {before : Option Char} {c : Char} {rest : Text}
    (silent : p before (c :: rest) = none) :
    scanFrom p before 0 (c :: rest) = .kept c :: scanFrom p (some c) 0 rest := by
  simp only [scanFrom, silent]

/-- Pieces that a pattern finds in a row are what the scan of their text gives. -/
theorem Scanned.scanFrom_eq {before : Option Char} {pieces : List Piece}
    (scanned : Scanned p before pieces) :
    scanFrom p before 0 (pieces.flatMap Piece.source) = pieces := by
  induction scanned with
  | nil silent => simp only [List.flatMap_nil, scanFrom, silent]
  | kept silent _ ih =>
    rw [List.flatMap_cons, Piece.source, List.singleton_append, scanFrom_cons_of_none silent, ih]
  | hit nonempty found _ ih =>
    rw [List.flatMap_cons, Piece.source, scanFrom_append_of_match nonempty found, ih]

/-- The pattern matched somewhere for every match among the pieces. -/
theorem Scanned.exists_match {before : Option Char} {pieces : List Piece} {m : Match}
    (scanned : Scanned p before pieces) (member : .hit m ∈ pieces) :
    ∃ earlier t, p earlier t = some m := by
  induction scanned with
  | nil _ => exact absurd member List.not_mem_nil
  | kept _ _ ih =>
    rcases List.mem_cons.mp member with same | member
    · exact absurd same (by simp)
    · exact ih member
  | hit _ found _ ih =>
    rcases List.mem_cons.mp member with same | member
    · cases same
      exact ⟨_, _, found⟩
    · exact ih member

/-- A scan finds its pieces one after the other, and they cover the text. -/
theorem scanned_scanFrom (proper : Proper p) (before : Option Char) (t : Text) :
    Scanned p before (scanFrom p before 0 t) ∧
      (scanFrom p before 0 t).flatMap Piece.source = t := by
  induction size : t.length using Nat.strong_induction_on generalizing before t with
  | _ n ih =>
    cases t with
    | nil =>
      have silent : p before [] = none := by
        rw [Option.eq_none_iff_forall_ne_some]
        intro m found
        exact (proper found).1 (List.prefix_nil.mp (proper found).2)
      simp only [scanFrom, silent]
      exact ⟨.nil silent, rfl⟩
    | cons c rest =>
      cases found : p before (c :: rest) with
      | none =>
        obtain ⟨scanned, covers⟩ := ih rest.length (by simp [← size]) (some c) rest rfl
        rw [scanFrom_cons_of_none found, List.flatMap_cons, covers]
        exact ⟨.kept (by rwa [covers]) scanned, rfl⟩
      | some m =>
        obtain ⟨nonempty, after, whole⟩ := proper found
        have positive : 0 < m.whole.length := List.length_pos_iff.mpr nonempty
        have shorter : after.length < n := by
          rw [← size, ← whole, List.length_append]
          omega
        obtain ⟨scanned, covers⟩ := ih after.length shorter m.whole.getLast? after rfl
        rw [← whole] at found ⊢
        rw [scanFrom_append_of_match nonempty found, List.flatMap_cons, covers]
        exact ⟨.hit nonempty (by rwa [covers]) scanned, rfl⟩

/-- The scan of a text is the one list of pieces found in a row that covers the text. -/
theorem scanFrom_eq_iff (proper : Proper p) (before : Option Char) (t : Text)
    (pieces : List Piece) :
    scanFrom p before 0 t = pieces ↔
      Scanned p before pieces ∧ pieces.flatMap Piece.source = t := by
  constructor
  · rintro rfl
    exact scanned_scanFrom proper before t
  · rintro ⟨scanned, rfl⟩
    exact scanned.scanFrom_eq

/-- Replacing goes piece by piece. -/
theorem replaceAll_eq_flatMap (t : Text) : replaceAll p f t = (scan p t).flatMap (Piece.output f) :=
  rfl

theorem findAll_eq_filterMap (t : Text) : findAll p t = (scan p t).filterMap Piece.match? := rfl

/-- The matches of a text are those among the pieces of its scan. -/
theorem mem_findAll {t : Text} {m : Match} : m ∈ findAll p t ↔ .hit m ∈ scan p t := by
  rw [findAll, List.mem_filterMap]
  constructor
  · rintro ⟨piece, member, found⟩
    cases piece with
    | kept c => exact nomatch found
    | hit other =>
      obtain rfl := Option.some.inj found
      exact member
  · intro member
    exact ⟨.hit m, member, rfl⟩

/-- A text without matches stays as it is. -/
theorem replaceAll_of_findAll_eq_nil {t : Text} (none : findAll p t = []) :
    replaceAll p f t = t := by
  have run (before : Option Char) (t : Text) (silent : ∀ m, .hit m ∉ scanFrom p before 0 t) :
      (scanFrom p before 0 t).flatMap (Piece.output f) = t := by
    induction t generalizing before with
    | nil =>
      cases found : p before [] with
      | none => simp only [scanFrom, found, List.flatMap_nil]
      | some m => exact absurd (by simp [scanFrom, found]) (silent m)
    | cons c t ih =>
      cases found : p before (c :: t) with
      | none =>
        rw [scanFrom_cons_of_none found] at silent ⊢
        rw [List.flatMap_cons, ih (some c) fun m member => silent m (.tail _ member)]
        rfl
      | some m =>
        have hit : .hit m ∈ scanFrom p before 0 (c :: t) := by
          simp only [scanFrom, found]
          split <;> exact List.mem_cons_self
        exact absurd hit (silent m)
  refine run Option.none t fun m member => ?_
  have found : m ∈ findAll p t := mem_findAll.mpr member
  rw [none] at found
  exact List.not_mem_nil found

/-- **Induction along a scan.**  What relates nothing read to nothing written, and stays true when a
character is kept and when a match is replaced, relates a text to what it becomes. -/
theorem replaceAll_induction (proper : Proper p) {t : Text} {R : Text → Text → Prop}
    (start : R [] [])
    (kept : ∀ read written c, R read written → R (read ++ [c]) (written ++ [c]))
    (hit : ∀ read written m rest, t = read ++ (m.whole ++ rest) →
      p read.getLast? (m.whole ++ rest) = some m → m ∈ findAll p t → R read written →
        R (read ++ m.whole) (written ++ f m)) :
    R t (replaceAll p f t) := by
  obtain ⟨scanned, covers⟩ := scanned_scanFrom proper none t
  have run {before : Option Char} {pieces : List Piece} (scanned : Scanned p before pieces) :
      ∀ read written, before = read.getLast? → t = read ++ pieces.flatMap Piece.source →
        (∀ m, .hit m ∈ pieces → m ∈ findAll p t) → R read written →
          R t (written ++ pieces.flatMap (Piece.output f)) := by
    induction scanned with
    | nil _ =>
      intro read written _ whole _ related
      rw [List.flatMap_nil, List.append_nil] at whole ⊢
      rwa [whole]
    | @kept _ c rest _ _ ih =>
      intro read written _ whole among related
      have next := ih (read ++ [c]) (written ++ [c]) (by simp) (by simpa [Piece.source] using whole)
        (fun m member => among m (List.mem_cons_of_mem _ member)) (kept read written c related)
      simpa [Piece.output] using next
    | @hit _ m rest nonempty found _ ih =>
      rintro read written rfl whole among related
      have last : m.whole.getLast? = (read ++ m.whole).getLast? :=
        (List.getLast?_append_of_ne_nil read nonempty).symm
      have next := ih (read ++ m.whole) (written ++ f m) last
        (by simpa [Piece.source] using whole)
        (fun m member => among m (List.mem_cons_of_mem _ member))
        (hit read written m _ whole found (among m List.mem_cons_self) related)
      simpa [Piece.output] using next
  exact run scanned [] [] rfl covers.symm (fun m member => mem_findAll.mpr member) start

/-- What was written holds no mark that was not read, nor ends in a front part of one that was not
read last. -/
structure BringsNo (mark read written : Text) : Prop where
  inside : mark <:+: written → mark <:+: read
  atEnd : ∀ front, front ≠ [] → front <+: mark → front <:+ written → front <:+ read

namespace BringsNo

variable {mark read written whole : Text}

theorem nil (mark : Text) : BringsNo mark [] [] := ⟨id, fun _ _ _ => id⟩

/-- A character that is kept completes a mark only if it did so before. -/
theorem concat (related : BringsNo mark read written) (c : Char) :
    BringsNo mark (read ++ [c]) (written ++ [c]) := by
  have atEnd (front : Text) (part : front <+: mark) (ends : front <:+ written ++ [c]) :
      front <:+ read ++ [c] := by
    rcases List.suffix_concat_iff.mp ends with rfl | ⟨before, rfl, earlier⟩
    · exact List.nil_suffix
    · rcases eq_or_ne before [] with rfl | nonempty
      · exact List.suffix_append read [c]
      · have stood := related.atEnd before nonempty ((List.prefix_append _ _).trans part) earlier
        exact List.suffix_append_self_iff.mpr stood
  refine ⟨fun found => ?_, fun front _ part ends => atEnd front part ends⟩
  rcases List.infix_concat_iff.mp found with ends | earlier
  · exact (atEnd mark List.prefix_rfl ends).isInfix
  · exact (related.inside earlier).trans (List.prefix_append _ _).isInfix

/-- A replacement that begins and ends with characters outside of the mark brings no mark but its
own. -/
theorem append {first last : Char} {inner : Text} (related : BringsNo mark read written)
    (opens : first ∉ mark) (closes : last ∉ mark)
    (own : mark <:+: first :: inner ++ [last] → mark <:+: whole) :
    BringsNo mark (read ++ whole) (written ++ (first :: inner ++ [last])) := by
  constructor
  · intro found
    rw [List.cons_append, Text.isInfix_append_cons_iff opens] at found
    rcases found with earlier | later
    · exact (related.inside earlier).trans (List.prefix_append _ _).isInfix
    · exact (own (later.trans (List.suffix_cons _ _).isInfix)).trans
        (List.suffix_append _ _).isInfix
  · intro front nonempty part ends
    rw [← List.append_assoc] at ends
    obtain ⟨before, rfl, _⟩ := (List.suffix_concat_iff.mp ends).resolve_left nonempty
    exact absurd (part.subset (by simp)) closes

/-- A match can be dropped where no front part of a mark was read last. -/
theorem dropped (related : BringsNo mark read written) (before : ∀ c ∈ read.getLast?, c ∉ mark) :
    BringsNo mark (read ++ whole) written := by
  refine ⟨fun found => (related.inside found).trans (List.prefix_append _ _).isInfix, ?_⟩
  intro front nonempty part ends
  obtain ⟨others, last, rfl⟩ := (List.eq_nil_or_concat' front).resolve_left nonempty
  obtain ⟨earlier, rfl⟩ := related.atEnd _ nonempty part ends
  exact absurd (part.subset (by simp)) (before last (by simp))

end BringsNo

/-- A character that no replacement brings in is not there afterwards. -/
theorem not_mem_replaceAll (proper : Proper p) {c : Char}
    (keeps : ∀ before s m, p before s = some m → c ∉ m.whole → c ∉ f m) {t : Text}
    (absent : c ∉ t) : c ∉ replaceAll p f t := by
  have run := replaceAll_induction (f := f) proper (t := t)
    (R := fun read written => c ∉ read → c ∉ written) id
    (fun read written d related flat => by
      rw [List.mem_append, not_or] at flat ⊢
      exact ⟨related flat.1, flat.2⟩)
    (fun read written m rest _ found _ related flat => by
      rw [List.mem_append, not_or] at flat ⊢
      exact ⟨related flat.1, keeps _ _ m found flat.2⟩)
  exact run absent

/-- Replacing changes nothing if every replacement has a character that is not there afterwards. -/
theorem replaceAll_eq_self_of_not_mem (proper : Proper p) {c : Char}
    (marked : ∀ before s m, p before s = some m → c ∈ f m) {t : Text}
    (absent : c ∉ replaceAll p f t) : replaceAll p f t = t := by
  apply replaceAll_of_findAll_eq_nil
  rw [List.eq_nil_iff_forall_not_mem]
  intro m member
  have hit : .hit m ∈ scan p t := mem_findAll.mp member
  obtain ⟨scanned, _⟩ := scanned_scanFrom proper none t
  obtain ⟨before, s, found⟩ := scanned.exists_match hit
  exact absent (List.mem_flatMap.mpr ⟨.hit m, hit, marked before s m found⟩)

/-- Behind its first place, a text in which nothing matches is kept. -/
theorem scanFrom_of_silent {t : Text} (silent : ∀ c s, s <:+ t → p (some c) s = none) (c : Char) :
    scanFrom p (some c) 0 t = t.map .kept := by
  induction t generalizing c with
  | nil => simp only [scanFrom, silent c [] List.suffix_rfl, List.map_nil]
  | cons d t ih =>
    have others : ∀ c s, s <:+ t → p (some c) s = none := fun c s inside =>
      silent c s (inside.trans (List.suffix_cons d t))
    rw [scanFrom_cons_of_none (silent c _ List.suffix_rfl), ih others, List.map_cons]

/-- Pieces without a match become what they cover. -/
theorem flatMap_output_of_kept {pieces : List Piece} (none : ∀ m, .hit m ∉ pieces) :
    pieces.flatMap (Piece.output f) = pieces.flatMap Piece.source := by
  refine List.flatMap_congr fun piece member => ?_
  cases piece with
  | kept c => rfl
  | hit m => exact absurd member (none m)

theorem flatMap_output_map_kept (t : Text) : (t.map .kept).flatMap (Piece.output f) = t := by
  induction t with
  | nil => rfl
  | cons c t ih => rw [List.map_cons, List.flatMap_cons, ih]; rfl

/-- A text in which nothing matches, at its start or further on, stays as it is. -/
theorem replaceAll_of_silent_behind {t : Text} (start : p none t = none)
    (silent : ∀ c s, s <:+ t → p (some c) s = none) : replaceAll p f t = t := by
  rw [replaceAll_eq_flatMap, scan]
  cases t with
  | nil =>
    simp only [scanFrom, start]
    rfl
  | cons c t =>
    have others : ∀ d s, s <:+ t → p (some d) s = none := fun d s inside =>
      silent d s (inside.trans (List.suffix_cons c t))
    rw [scanFrom_cons_of_none start, scanFrom_of_silent others, ← List.map_cons,
      flatMap_output_map_kept]

/-- A pattern that matches nowhere in a text changes nothing in it. -/
theorem replaceAll_of_silent {t : Text} (silent : ∀ before s, s <:+ t → p before s = none) :
    replaceAll p f t = t :=
  replaceAll_of_silent_behind (silent none t List.suffix_rfl) fun c => silent (some c)

/-- A pattern that matches nowhere in a text has no matches there. -/
theorem findAll_of_silent {t : Text} (silent : ∀ before s, s <:+ t → p before s = none) :
    findAll p t = [] := by
  have kept : scan p t = t.map .kept := by
    cases t with
    | nil => simp only [scan, scanFrom, silent none [] List.suffix_rfl, List.map_nil]
    | cons c t =>
      rw [scan, scanFrom_cons_of_none (silent none _ List.suffix_rfl), List.map_cons,
        scanFrom_of_silent fun d s inside => silent (some d) s (inside.trans (List.suffix_cons c t))]
  rw [List.eq_nil_iff_forall_not_mem]
  intro m member
  rw [mem_findAll, kept] at member
  obtain ⟨_, _, same⟩ := List.mem_map.mp member
  exact nomatch same

/-- A match at the front is replaced, and nothing else if nothing else matches. -/
theorem replaceAll_append_of_silent {m : Match} {rest : Text} (nonempty : m.whole ≠ [])
    (found : p none (m.whole ++ rest) = some m)
    (silent : ∀ c s, s <:+ rest → p (some c) s = none) :
    replaceAll p f (m.whole ++ rest) = f m ++ rest := by
  rw [replaceAll_eq_flatMap, scan, scanFrom_append_of_match nonempty found,
    List.getLast?_eq_some_getLast nonempty, scanFrom_of_silent silent, List.flatMap_cons,
    flatMap_output_map_kept]
  rfl

/-- A text that is one match becomes its replacement. -/
theorem Proper.replaceAll_of_match (proper : Proper p) {whole : Text} {groups : List Text}
    (found : p none whole = some ⟨whole, groups⟩) :
    replaceAll p f whole = f ⟨whole, groups⟩ := by
  have silent (c : Char) : p (some c) [] = none := by
    rw [Option.eq_none_iff_forall_ne_some]
    intro m found
    exact (proper found).1 (List.prefix_nil.mp (proper found).2)
  have alone : p none (whole ++ []) = some ⟨whole, groups⟩ := by rwa [List.append_nil]
  have replaced := replaceAll_append_of_silent (f := f) (proper found).1 alone
    fun c s inside => List.suffix_nil.mp inside ▸ silent c
  rwa [List.append_nil, List.append_nil] at replaced

/-- A row of parts becomes the row of their replacements, if every part becomes its replacement
whatever follows it. -/
theorem replaceAll_flatMap {α : Type} {before after : α → Text} (empty : p none [] = none)
    (step : ∀ part rest, replaceAll p f (before part ++ rest) = after part ++ replaceAll p f rest)
    (parts : List α) : replaceAll p f (parts.flatMap before) = parts.flatMap after := by
  induction parts with
  | nil =>
    rw [replaceAll_eq_flatMap, scan, List.flatMap_nil, scanFrom, empty]
    rfl
  | cons part parts ih => rw [List.flatMap_cons, step, ih, List.flatMap_cons]

/-- Every match begins with the given mark. -/
def Opens (p : Pattern) (mark : Text) : Prop :=
  ∀ ⦃before : Option Char⦄ ⦃t : Text⦄, ¬ mark <+: t → p before t = none

/-- A pattern that first of all reads a mark. -/
theorem opens_of_bind {mark : Text} {body : Option Char → Text → Text → Option Match}
    (begins : ∀ before t, p before t = (Text.after? mark t).bind (body before t)) :
    Opens p mark := by
  intro before t missing
  rw [begins, Text.after?_eq_none_iff.mpr missing, Option.bind_none]

/-- A pattern changes nothing in a text that does not contain the mark of its matches. -/
theorem Opens.replaceAll_of_absent {mark : Text} (opens : Opens p mark) {t : Text}
    (absent : ¬ mark <:+: t) : replaceAll p f t = t := by
  apply replaceAll_of_silent
  intro before s inside
  exact opens fun found => absent (found.isInfix.trans inside.isInfix)

/-- The pattern does not look at the character before it. -/
def Unanchored (p : Pattern) : Prop := ∀ before other t, p before t = p other t

theorem scanFrom_congr (unanchored : Unanchored p) (before other : Option Char) (t : Text) :
    scanFrom p before 0 t = scanFrom p other 0 t := by
  cases t <;> simp only [scanFrom, unanchored before other]

section Unanchored

variable (unanchored : Unanchored p)
include unanchored

/-- A character at which nothing matches stays. -/
theorem replaceAll_cons_of_none {c : Char} {rest : Text} (silent : p none (c :: rest) = none) :
    replaceAll p f (c :: rest) = c :: replaceAll p f rest := by
  rw [replaceAll_eq_flatMap, replaceAll_eq_flatMap, scan, scan, scanFrom_cons_of_none silent,
    scanFrom_congr unanchored (some c) none]
  rfl

/-- A match at the front is replaced, and replacing goes on behind it. -/
theorem replaceAll_append_of_match {whole rest : Text} {groups : List Text} (nonempty : whole ≠ [])
    (found : p none (whole ++ rest) = some ⟨whole, groups⟩) :
    replaceAll p f (whole ++ rest) = f ⟨whole, groups⟩ ++ replaceAll p f rest := by
  have taken : scanFrom p none 0 (whole ++ rest) =
      .hit ⟨whole, groups⟩ :: scanFrom p whole.getLast? 0 rest :=
    scanFrom_append_of_match (m := ⟨whole, groups⟩) nonempty found
  rw [replaceAll_eq_flatMap, replaceAll_eq_flatMap, scan, scan, taken,
    scanFrom_congr unanchored _ none]
  rfl

/-- A front part in which no match begins stays. -/
theorem replaceAll_append_of_kept {front : Text} (rest : Text)
    (silent : ∀ s, s <:+ front → s ≠ [] → p none (s ++ rest) = none) :
    replaceAll p f (front ++ rest) = front ++ replaceAll p f rest := by
  induction front with
  | nil => rfl
  | cons c front ih =>
    have first : p none (c :: (front ++ rest)) = none :=
      silent (c :: front) List.suffix_rfl (List.cons_ne_nil c front)
    rw [List.cons_append, replaceAll_cons_of_none unanchored first,
      ih fun s inside => silent s (inside.trans (List.suffix_cons c front))]
    rfl

/-- A front part without the first character of every match stays. -/
theorem Opens.replaceAll_append {a : Char} {w : Text} (opens : Opens p (a :: w)) {front : Text}
    (absent : a ∉ front) (rest : Text) :
    replaceAll p f (front ++ rest) = front ++ replaceAll p f rest := by
  apply replaceAll_append_of_kept unanchored
  intro s inside nonempty
  obtain ⟨c, s, rfl⟩ := List.exists_cons_of_ne_nil nonempty
  apply opens
  intro found
  have same : a = c := (List.cons_prefix_cons.mp found).1
  exact absent (inside.subset (same ▸ List.mem_cons_self))

end Unanchored

end Pattern

end MarkdownDialects
