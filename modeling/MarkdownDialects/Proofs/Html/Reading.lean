import Mathlib.Data.List.Basic
import Mathlib.Data.List.TakeWhile
import Mathlib.Data.Option.Basic
import Mathlib.Logic.Relation
import MarkdownDialects.Html.Document
import MarkdownDialects.Html.Escape
import MarkdownDialects.Proofs.Text.LineEnd

/-!
# Reading HTML token by token

A document is read in steps, one for each token (`Html.Reading.Step`), and where the steps lead to
the end of the text the document is what was built there (`Html.parse_of_reads`).  Escaped text is
read as the text it was written from, whatever tokens it is cut into
(`Html.Collects.reads_escape`).
-/

namespace MarkdownDialects

namespace Html

/-- The text ahead while a document is read, the name of the last start tag, and what was built from
the text behind. -/
structure Reading where
  last : String
  ahead : Text
  builder : Builder

/-- The name of the last start tag after a token. -/
def Token.lastName (last : String) : Token → String
  | .startTag tag => tag.name
  | _ => last

namespace Reading

/-- One token is read and taken. -/
inductive Step : Reading → Reading → Prop
  | token {last : String} {ahead rest : Text} {b : Builder} {token : Token}
      (shorter : rest.length < ahead.length)
      (found : Lexer.next b.content last b.isInForeign ahead = (some token, rest)) :
      Step ⟨last, ahead, b⟩ ⟨token.lastName last, rest, b.takeToken token⟩

end Reading

/-- Some tokens are read and taken one after the other. -/
abbrev Reads : Reading → Reading → Prop := Relation.ReflTransGen Reading.Step

namespace Builder

theorem takeAll_nil (fuel : Nat) (last : String) (b : Builder) : takeAll fuel last [] b = b := by
  cases fuel <;> rfl

/-- A step uses one unit of fuel. -/
theorem takeAll_of_step {r s : Reading} (step : Reading.Step r s) (fuel : Nat) :
    takeAll (fuel + 1) r.last r.ahead r.builder = takeAll fuel s.last s.ahead s.builder := by
  cases step with
  | @token last ahead rest b token shorter found =>
    cases ahead with
    | nil => exact absurd shorter (Nat.not_lt_zero _)
    | cons c ahead =>
      simp only [takeAll, found]
      cases token <;> rfl

/-- Fuel for the text ahead is enough for all steps. -/
theorem takeAll_of_reads {r s : Reading} (reads : Reads r s) {fuel : Nat}
    (enough : r.ahead.length ≤ fuel) :
    ∃ left, s.ahead.length ≤ left ∧
      takeAll fuel r.last r.ahead r.builder = takeAll left s.last s.ahead s.builder := by
  induction reads using Relation.ReflTransGen.head_induction_on generalizing fuel with
  | refl => exact ⟨fuel, enough, rfl⟩
  | @head r next step _ ih =>
    have shorter : next.ahead.length < r.ahead.length := by cases step with
      | token shorter _ => exact shorter
    obtain ⟨fuel, rfl⟩ : ∃ n, fuel = n + 1 := ⟨fuel - 1, by omega⟩
    have spare : next.ahead.length ≤ fuel := by omega
    obtain ⟨left, kept, same⟩ := ih spare
    exact ⟨left, kept, (takeAll_of_step step fuel).trans same⟩

end Builder

/-- A document is what was built when everything was read. -/
theorem parse_of_reads {t : Text} {last : String} {b : Builder}
    (reads : Reads ⟨"", cleaned t, .start⟩ ⟨last, [], b⟩) :
    parse t = (b.takeToken .eof).forest.document := by
  obtain ⟨left, _, taken⟩ := Builder.takeAll_of_reads reads (Nat.le_succ _)
  rw [parse, taken, Builder.takeAll_nil]

theorem normalizeNewlines_of_not_mem {t : Text} (clean : '\r' ∉ t) :
    Text.normalizeNewlines t = t :=
  Text.normalizeNewlines_eq_self fun pair => clean (pair.subset List.mem_cons_self)

/-- A text without carriage returns that starts with no mark of the byte order is read as it is. -/
theorem cleaned_eq_self {c : Char} {t : Text} (unmarked : c ≠ '\ufeff') (clean : '\r' ∉ c :: t) :
    cleaned (c :: t) = c :: t := by
  have noMark : ((c :: t).head? == some '\ufeff') = false := by simpa using unmarked
  rw [cleaned, noMark, if_neg Bool.false_ne_true, normalizeNewlines_of_not_mem clean]
  have kept : ∀ d ∈ c :: t, (if d == '\r' then '\n' else d) = d := by
    intro d member
    have different : d ≠ '\r' := fun same => clean (same ▸ member)
    simp [different]
  exact (List.map_congr_left kept).trans (List.map_id' _)

/-! ## Text -/

/-- Characters that are read as they are. -/
def isPlain (c : Char) : Bool := c != '<' && c != '&' && c != '\x00'

namespace Lexer

/-- A run of plain characters in front of others is one token. -/
theorem next_plain {front rest : Text} (nonempty : front ≠ []) (plain : ∀ c ∈ front, isPlain c)
    (stops : ∀ c ∈ rest.head?, isPlain c = false) (last : String) (foreign : Bool) :
    next .data last foreign (front ++ rest) = (some (.characters front), rest) := by
  have taken : (front ++ rest).takeWhile isPlain = front := by
    rw [List.takeWhile_append_of_pos plain]
    cases rest with
    | nil => exact List.append_nil front
    | cons c rest => rw [List.takeWhile_cons_of_neg (by simp [stops c rfl]), List.append_nil]
  have left : (front ++ rest).dropWhile isPlain = rest := by
    rw [List.dropWhile_append_of_pos plain]
    cases rest with
    | nil => rfl
    | cons c rest => rw [List.dropWhile_cons_of_neg (by simp [stops c rfl])]
  have kept : front.map shown = front := by
    refine (List.map_congr_left fun c member => ?_).trans (List.map_id' front)
    have noNull : c ≠ '\x00' := by rintro rfl; exact Bool.noConfusion (plain _ member)
    simp [shown, noNull]
  obtain ⟨c, front, rfl⟩ := List.exists_cons_of_ne_nil nonempty
  have first := plain c List.mem_cons_self
  have read : next .data last foreign (c :: (front ++ rest)) =
      (some (run isPlain (c :: (front ++ rest))).1, (run isPlain (c :: (front ++ rest))).2) := by
    unfold next
    split
    case h_5 => rfl
    all_goals simp_all [isPlain]
  rw [List.cons_append, read, run, ← List.cons_append, taken, left, kept]

/-- A name with a semicolon is read as what it stands for. -/
theorem reference?_of_lookup? {name chars : Text} (found : Entity.lookup? name = some chars)
    (letters : ∀ c ∈ name, c.isAlphanum) (inAttribute : Bool) (rest : Text) :
    reference? inAttribute (name ++ ';' :: rest) = some (chars, rest) := by
  have taken : (name ++ ';' :: rest).takeWhile Char.isAlphanum = name := by
    rw [List.takeWhile_append_of_pos letters]
    exact List.append_nil name
  have left : (name ++ ';' :: rest).dropWhile Char.isAlphanum = ';' :: rest := by
    rw [List.dropWhile_append_of_pos letters]
    rfl
  have read : namedCharacters? inAttribute (name ++ ';' :: rest) = some (chars, rest) := by
    simp only [namedCharacters?, taken, left, found]
    rfl
  cases name with
  | nil => exact absurd found.symm (Option.some_ne_none chars)
  | cons c name =>
    have noNumber : c ≠ '#' := by rintro rfl; exact Bool.noConfusion (letters _ List.mem_cons_self)
    unfold reference?
    split
    case h_1 same => exact absurd (List.cons.inj same).1 noNumber
    case h_2 => exact read

/-- A reference that a semicolon ends is one token. -/
theorem next_reference {name chars : Text} (found : Entity.lookup? name = some chars)
    (letters : ∀ c ∈ name, c.isAlphanum) (rest : Text) (last : String) (foreign : Bool) :
    next .data last foreign ('&' :: (name ++ ';' :: rest)) =
      (some (.reference chars true), rest) := by
  have written : (name ++ ';' :: rest).take ((name ++ ';' :: rest).length - rest.length) =
      name ++ [';'] := by
    have size : (name ++ ';' :: rest).length - rest.length = (name ++ [';']).length := by
      simp only [List.length_append, List.length_cons, List.length_nil]
      omega
    have whole : name ++ ';' :: rest = (name ++ [';']) ++ rest := by simp
    rw [size, whole, List.take_left' rfl]
  have read : ampersand (name ++ ';' :: rest) = (.reference chars true, rest) := by
    simp only [ampersand, reference?_of_lookup? found letters, written, List.getLast?_concat,
      beq_self_eq_true]
  unfold next
  simp only [read]

end Lexer

/-- Characters that are written as references. -/
def isReferred (c : Char) : Bool := c == '"' || c == '&' || c == '<' || c == '>'

theorem escapeChar_eq_self {c : Char} (ordinary : isReferred c = false) : escapeChar c = [c] := by
  unfold escapeChar
  split <;> first | exact Bool.noConfusion ordinary | rfl

theorem escape_append (s t : Text) : escape (s ++ t) = escape s ++ escape t :=
  List.flatMap_append

theorem escape_eq_self {t : Text} (ordinary : ∀ c ∈ t, isReferred c = false) : escape t = t := by
  rw [escape, List.flatMap_congr fun c member => escapeChar_eq_self (ordinary c member)]
  exact List.flatMap_singleton' t

/-- An escaped character is a named reference. -/
theorem exists_reference {c : Char} (referred : isReferred c) :
    ∃ name, escapeChar c = '&' :: (name ++ [';']) ∧ Entity.lookup? name = some [c] ∧
      ∀ d ∈ name, d.isAlphanum := by
  simp only [isReferred, Bool.or_eq_true, beq_iff_eq, or_assoc] at referred
  rcases referred with rfl | rfl | rfl | rfl
  · exact ⟨"quot".toList, rfl, by decide +kernel, List.all_eq_true.mp rfl⟩
  · exact ⟨"amp".toList, rfl, by decide +kernel, List.all_eq_true.mp rfl⟩
  · exact ⟨"lt".toList, rfl, by decide +kernel, List.all_eq_true.mp rfl⟩
  · exact ⟨"gt".toList, rfl, by decide +kernel, List.all_eq_true.mp rfl⟩

/-- Only the characters of names are added. -/
theorem mem_of_mem_escape {c : Char} (other : c.isAlphanum = false ∧ c ≠ '&' ∧ c ≠ ';') {t : Text}
    (member : c ∈ escape t) : c ∈ t := by
  obtain ⟨d, inside, member⟩ := List.mem_flatMap.mp member
  by_cases referred : isReferred d
  · obtain ⟨name, written, _, letters⟩ := exists_reference referred
    rw [written] at member
    have within : c ∈ name := by simpa [other] using member
    exact Bool.noConfusion (other.1.symm.trans (letters c within))
  · rw [escapeChar_eq_self (Bool.eq_false_iff.mpr referred), List.mem_singleton] at member
    exact member ▸ inside

theorem isPlain_of_isReferred_eq_false {c : Char} (ordinary : isReferred c = false)
    (shown : c ≠ '\x00') : isPlain c := by
  have noTag : c ≠ '<' := by rintro rfl; exact Bool.noConfusion ordinary
  have noReference : c ≠ '&' := by rintro rfl; exact Bool.noConfusion ordinary
  simp [isPlain, noTag, noReference, shown]

/-- A text that starts with no reference starts with a run of other characters. -/
theorem exists_ordinary_run {c : Char} (ordinary : isReferred c = false) (s : Text) :
    ∃ front back, c :: s = front ++ back ∧ front ≠ [] ∧ (∀ d ∈ front, isReferred d = false) ∧
      ∀ d ∈ back.head?, isReferred d := by
  refine ⟨c :: s.takeWhile (!isReferred ·), s.dropWhile (!isReferred ·), ?_, List.cons_ne_nil _ _,
    ?_, ?_⟩
  · rw [List.cons_append, List.takeWhile_append_dropWhile]
  · intro d member
    rcases List.mem_cons.mp member with rfl | member
    · exact ordinary
    · simpa using List.all_eq_true.mp List.all_takeWhile d member
  · intro d head
    have outside := List.head?_dropWhile_not (!isReferred ·) s
    rw [Option.mem_def.mp head] at outside
    simpa using outside

/-- Text ends at a tag and before a reference. -/
theorem isPlain_of_mem_head? {back : Text} (referred : ∀ d ∈ back.head?, isReferred d)
    (rest : Text) :
    ∀ d ∈ (escape back ++ '<' :: rest).head?, isPlain d = false := by
  intro d head
  cases back with
  | nil =>
    obtain rfl := Option.some.inj head
    rfl
  | cons c back =>
    obtain ⟨name, written, _, _⟩ := exists_reference (referred c rfl)
    rw [escape, List.flatMap_cons, written] at head
    obtain rfl := Option.some.inj head
    rfl

/-- Builders that collect text: what comes is put behind what they have. -/
structure Collects (collect : Bool → Text → Builder) : Prop where
  content : ∀ ok t, (collect ok t).content = .data
  outside : ∀ ok t, (collect ok t).isInForeign = false
  kept : ∀ ok t, (collect ok t).dropLineFeed = false
  space : ∀ ok t s, s ≠ [] → (collect ok t).take (.space s) = collect ok (t ++ s)
  text : ∀ ok t s, s ≠ [] → (collect ok t).take (.text s) = collect false (t ++ s)

namespace Collects

variable {collect : Bool → Text → Builder} (collects : Collects collect)
include collects

/-- Text is collected whatever runs it is cut into. -/
theorem takeText {fuel : Nat} {s : Text} (enough : s.length ≤ fuel) (noNull : '\x00' ∉ s)
    (ok : Bool) (t : Text) :
    ∃ after, Builder.takeText fuel s (collect ok t) = collect after (t ++ s) := by
  induction fuel generalizing s ok t with
  | zero =>
    obtain rfl := List.eq_nil_of_length_eq_zero (Nat.le_zero.mp enough)
    exact ⟨ok, by rw [List.append_nil]; rfl⟩
  | succ fuel ih =>
    cases s with
    | nil => exact ⟨ok, by rw [List.append_nil]; rfl⟩
    | cons c rest =>
      let isLike (d : Char) : Bool := d != '\x00' && Builder.isSpace d == Builder.isSpace c
      have split : rest.takeWhile isLike ++ rest.dropWhile isLike = rest :=
        List.takeWhile_append_dropWhile
      have shorter : (rest.dropWhile isLike).length ≤ fuel :=
        Nat.le_trans (List.dropWhile_suffix isLike).length_le (Nat.le_of_succ_le_succ enough)
      have later : '\x00' ∉ rest.dropWhile isLike := fun member =>
        noNull (.tail c ((List.dropWhile_suffix isLike).mem member))
      have shown : c ≠ '\x00' := by rintro rfl; exact noNull List.mem_cons_self
      have first : Builder.takeText (fuel + 1) (c :: rest) (collect ok t) =
          Builder.takeText fuel (rest.dropWhile isLike) ((collect ok t).take
            (if Builder.isSpace c then .space (c :: rest.takeWhile isLike)
              else .text (c :: rest.takeWhile isLike))) := by
        rw [Builder.takeText]
        exact shown
      have whole (t : Text) : t ++ (c :: rest.takeWhile isLike) ++ rest.dropWhile isLike =
          t ++ c :: rest := by
        rw [List.append_assoc, List.cons_append, split]
      rw [first]
      by_cases space : Builder.isSpace c
      · rw [if_pos space, collects.space _ _ _ (List.cons_ne_nil _ _), ← whole]
        exact ih shorter later _ _
      · rw [if_neg space, collects.text _ _ _ (List.cons_ne_nil _ _), ← whole]
        exact ih shorter later _ _

/-- Characters and references are collected alike. -/
theorem takeToken {s : Text} {token : Token}
    (written : token = .characters s ∨ token = .reference s true) (noNull : '\x00' ∉ s)
    (ok : Bool) (t : Text) :
    ∃ after, (collect ok t).takeToken token = collect after (t ++ s) := by
  have same : { collect ok t with dropLineFeed := false } = collect ok t := by
    rw [← collects.kept ok t]
  have unchanged : Builder.withoutLineFeed false s = s := by
    unfold Builder.withoutLineFeed
    split <;> rfl
  obtain ⟨after, taken⟩ := collects.takeText (Nat.le_refl _) noNull ok t
  refine ⟨after, ?_⟩
  rcases written with rfl | rfl <;>
    simp only [Builder.takeToken, collects.kept, Bool.false_and, unchanged, same, taken]

/-- One token of text is collected. -/
theorem reads_token {s ahead rest : Text} {last : String} {token : Token}
    (written : token = .characters s ∨ token = .reference s true) (noNull : '\x00' ∉ s)
    (shorter : rest.length < ahead.length)
    (found : ∀ foreign, Lexer.next .data last foreign ahead = (some token, rest))
    (ok : Bool) (t : Text) :
    ∃ after, Reads ⟨last, ahead, collect ok t⟩ ⟨last, rest, collect after (t ++ s)⟩ := by
  obtain ⟨after, taken⟩ := collects.takeToken written noNull ok t
  have step : Reading.Step ⟨last, ahead, collect ok t⟩
      ⟨token.lastName last, rest, (collect ok t).takeToken token⟩ :=
    .token shorter (by rw [collects.content]; exact found _)
  have same : token.lastName last = last := by rcases written with rfl | rfl <;> rfl
  rw [taken, same] at step
  exact ⟨after, .single step⟩

/-- Escaped text up to the next tag is collected as the text that was escaped. -/
theorem reads_escape {s : Text} (noNull : '\x00' ∉ s) (rest : Text) (last : String) (ok : Bool)
    (t : Text) :
    ∃ after, Reads ⟨last, escape s ++ '<' :: rest, collect ok t⟩
      ⟨last, '<' :: rest, collect after (t ++ s)⟩ := by
  -- Every token covers a character of `s`, so the induction is on the length of `s`.
  induction size : s.length using Nat.strong_induction_on generalizing s ok t with
  | _ n ih =>
    cases s with
    | nil => exact ⟨ok, by rw [List.append_nil]; exact .refl⟩
    | cons c s =>
      by_cases referred : isReferred c
      · obtain ⟨name, written, found, letters⟩ := exists_reference referred
        have ahead : escape (c :: s) ++ '<' :: rest =
            '&' :: (name ++ ';' :: (escape s ++ '<' :: rest)) := by
          rw [escape, List.flatMap_cons, written]
          simp [escape]
        have first : '\x00' ∉ [c] := fun member => noNull (by simp_all)
        obtain ⟨middle, front⟩ := collects.reads_token (.inr rfl) first
          (by simp only [List.length_cons, List.length_append]; omega)
          (fun foreign => Lexer.next_reference found letters (escape s ++ '<' :: rest) last foreign)
          ok t
        obtain ⟨after, later⟩ := ih s.length (by simp [← size])
          (fun member => noNull (.tail c member)) middle (t ++ [c]) rfl
        rw [List.append_assoc, List.singleton_append] at later
        exact ⟨after, ahead ▸ front.trans later⟩
      · obtain ⟨front, back, split, nonempty, ordinary, ends⟩ :=
          exists_ordinary_run (Bool.eq_false_iff.mpr referred) s
        have shown : '\x00' ∉ front ∧ '\x00' ∉ back := by simpa [split] using noNull
        have plain : ∀ d ∈ front, isPlain d := fun d member =>
          isPlain_of_isReferred_eq_false (ordinary d member) fun same => shown.1 (same ▸ member)
        have ahead : escape (c :: s) ++ '<' :: rest = front ++ (escape back ++ '<' :: rest) := by
          rw [split, escape_append, escape_eq_self ordinary, List.append_assoc]
        have positive : 0 < front.length := List.length_pos_iff.mpr nonempty
        obtain ⟨middle, first⟩ := collects.reads_token (.inl rfl) shown.1
          (by simp only [List.length_append]; omega)
          (Lexer.next_plain nonempty plain (isPlain_of_mem_head? ends rest) last) ok t
        obtain ⟨after, later⟩ := ih back.length
          (by rw [← size, split, List.length_append]; omega) shown.2 middle (t ++ front) rfl
        rw [List.append_assoc, ← split] at later
        exact ⟨after, ahead ▸ first.trans later⟩

end Collects

end Html

end MarkdownDialects
