import MarkdownDialects.Proofs.Dialect.Kramdown
import MarkdownDialects.Proofs.Dialect.MultiMarkdown
import MarkdownDialects.Proofs.Html.Comment

/-!
# Comments that carry syntax

Attribute lists and metadata travel in comments.  In a text without comments every comment that
stands there after reading is one of these (`Marker.exists_carries`).  What it carries is written as
it is, so it decides where the comment ends (`carried_comments_close_iff`).
-/

namespace MarkdownDialects

namespace Marker

open Metadata (Leads)
open Text (terminated)

/-- The start of every comment. -/
def commentOpen : Text := "<!--".toList

/-! ## Comments around attribute lists -/

/-- Between the angle brackets of its start and of its end, the comment of a list has no others but
those of the list. -/
theorem exists_comment_eq (l : AttributeLine) :
    ∃ name, '<' ∉ name ∧ l.comment = '<' :: (name ++ (l.payload ++ '}' :: commentClose)) := by
  have opening : attributeListOpen = '<' :: "!--kramdown-attrlist:".toList := rfl
  refine ⟨"!--kramdown-attrlist:".toList ++ ['{', ':'], by decide, ?_⟩
  rw [AttributeLine.comment, AttributeLine.list, opening]
  simp only [List.append_assoc, List.cons_append, List.nil_append]

section Wrapped

variable {u : Text} (unclosed : '}' ∉ u)
include unclosed

/-- Around a list and in its comment, a mark begins only where the comment does. -/
theorem eq_comment_of_isPrefix (l : AttributeLine) {s rest : Text}
    (inside : s <:+ l.indent ++ l.comment) (clean : ¬ '<' :: u <:+: l.payload)
    (found : '<' :: u <+: s ++ rest) : s = [] ∨ s = l.comment := by
  cases s with
  | nil => exact .inl rfl
  | cons c s =>
    refine .inr ?_
    obtain rfl : '<' = c := (List.cons_prefix_cons.mp found).1
    have inComment := Text.isSuffix_of_cons_isSuffix_append (l.not_mem_indent (by decide)) inside
    obtain ⟨name, noAngle, split⟩ := exists_comment_eq l
    rw [split] at inComment ⊢
    refine (List.suffix_cons_iff.mp inComment).resolve_right fun behind => ?_
    have inTail := Text.isSuffix_of_cons_isSuffix_append noAngle behind
    rcases Text.isSuffix_append_iff.mp inTail with ends | ⟨payload, inPayload, whole⟩
    · exact absurd (ends.subset List.mem_cons_self) (by decide)
    · rw [whole, List.append_assoc, List.cons_append] at found
      have closed : '}' ∉ '<' :: u := by simp [unclosed]
      have within := Text.isPrefix_of_isPrefix_append_cons closed found
      exact clean (within.isInfix.trans inPayload.isInfix)

/-- **A mark stands only at comments.**  In a text with wrapped attribute lists, a mark that begins
as a tag does and was not in the text begins where the comment of a list begins. -/
theorem exists_comment_of_isPrefix (oneLine : '\n' ∉ u) {before : Option Char} {pieces : List Piece}
    (scanned : Pattern.Scanned attributeListLine before pieces)
    (absent : ¬ '<' :: u <:+: pieces.flatMap Piece.source) {s : Text}
    (inside : s <:+ pieces.flatMap wrapped) (found : '<' :: u <+: s) :
    ∃ (l : AttributeLine) (rest : List Piece), .hit l.toMatch :: rest <:+ pieces ∧
      s = l.comment ++ rest.flatMap wrapped := by
  induction scanned with
  | nil silent =>
    rw [List.suffix_nil.mp inside] at found
    exact absurd (List.prefix_nil.mp found) (List.cons_ne_nil _ _)
  | @kept _ c rest silent tail ih =>
    rcases List.suffix_cons_iff.mp inside with rfl | later
    · obtain ⟨rfl, behind⟩ := List.cons_prefix_cons.mp found
      have stood := isPrefix_source_of_isPrefix_wrapped tail (by decide) oneLine behind
      exact absurd (List.cons_prefix_cons.mpr ⟨rfl, stood⟩).isInfix absent
    · obtain ⟨l, others, ends, whole⟩ :=
        ih (fun within => absent (within.trans (List.suffix_cons _ _).isInfix)) later
      exact ⟨l, others, ends.trans (List.suffix_cons _ _), whole⟩
  | @hit _ m rest nonempty matched tail ih =>
    obtain ⟨_, l, rfl, _⟩ := attributeListLine_eq_some matched
    have later (ends : s <:+ rest.flatMap wrapped) :
        ∃ (l' : AttributeLine) (others : List Piece),
          .hit l'.toMatch :: others <:+ .hit l.toMatch :: rest ∧
            s = l'.comment ++ others.flatMap wrapped := by
      obtain ⟨l', others, behind, whole⟩ :=
        ih (fun within => absent (within.trans (List.suffix_append _ _).isInfix)) ends
      exact ⟨l', others, behind.trans (List.suffix_cons _ _), whole⟩
    rw [flatMap_wrapped_hit] at inside
    rcases Text.isSuffix_append_iff.mp inside with ends | ⟨front, ends, rfl⟩
    · exact later ends
    · rcases eq_comment_of_isPrefix unclosed l ends (not_isInfix_payload absent)
        found with rfl | rfl
      · exact later List.suffix_rfl
      · exact ⟨l, rest, List.suffix_rfl, rfl⟩

end Wrapped

/-! ## The comment around metadata -/

/-- Carried metadata begins with the only comment, if there was none in the text. -/
theorem eq_carriedMetadata_of_isPrefix {fields : List Text} {body t : Text}
    (leads : Leads fields body t) (absent : ¬ commentOpen <:+: t) {s : Text}
    (inside : s <:+ carriedMetadata fields body) (found : commentOpen <+: s) :
    s = carriedMetadata fields body := by
  have noFeed : '\n' ∉ commentOpen := by decide
  have ends := Text.terminated_eq_unlines leads.nonempty
  have opening : metadataOpen = '<' :: ("!--mmd-meta-start".toList ++ ['\n']) := rfl
  rw [leads.whole, ends] at absent
  rw [carriedMetadata, ends, opening] at inside ⊢
  simp only [List.append_assoc, List.cons_append, List.nil_append] at absent inside ⊢
  refine (List.suffix_cons_iff.mp inside).resolve_right fun behind => ?_
  refine absurd (found.isInfix.trans behind.isInfix) ?_
  simp only [Text.isInfix_append_cons_iff noFeed, not_or] at absent ⊢
  exact ⟨by decide, absent.1, by decide, absent.2⟩

/-! ## What comments carry -/

/-- What the comment of an attribute list holds. -/
def listPayload (list : Text) : Text := "kramdown-attrlist:".toList ++ list

/-- What the comment of metadata holds. -/
def metadataPayload (fields : List Text) : Text :=
  "mmd-meta-start\n".toList ++ terminated fields ++ "mmd-meta-end".toList

/-- What stands between the marks of a comment that reading a text writes: an attribute list on a
line of its own, or the leading metadata. -/
inductive Carries (t : Text) : DialectId → Text → Prop
  | attributeList {m : Match} (found : m ∈ attributeListLine.findAll t) :
      Carries t .kramdown (listPayload (m.group 2))
  | metadata {fields : List Text} {body : Text} (leads : Leads fields body t) :
      Carries t .multiMarkdown (metadataPayload fields)

theorem attributeListOpen_append (list : Text) :
    attributeListOpen ++ list = commentOpen ++ listPayload list := by
  have opening : attributeListOpen = commentOpen ++ "kramdown-attrlist:".toList := by decide
  unfold listPayload
  rw [← List.append_assoc, ← opening]

theorem carriedMetadata_eq (fields : List Text) (body : Text) :
    carriedMetadata fields body =
      commentOpen ++ metadataPayload fields ++ commentClose ++ '\n' :: '\n' :: body := by
  have opening : metadataOpen = commentOpen ++ "mmd-meta-start\n".toList := by decide
  have closing : metadataClose = "mmd-meta-end".toList ++ commentClose := by decide
  unfold carriedMetadata metadataPayload
  rw [opening, closing]
  simp only [List.append_assoc]

section Carries

variable {t payload : Text} {source : DialectId}

/-- What is carried begins with a name. -/
theorem Carries.exists_cons (carries : Carries t source payload) :
    ∃ c s, payload = c :: s ∧ c ≠ '>' ∧ c ≠ '-' := by
  cases carries with
  | attributeList found => exact ⟨'k', _, rfl, by decide, by decide⟩
  | metadata leads => exact ⟨'m', _, rfl, by decide, by decide⟩

/-- What is carried stands in a comment. -/
theorem Carries.isInfix (carries : Carries t source payload) :
    commentOpen ++ payload ++ commentClose <:+:
      RuleSet.apply (Dialect.builtin source).ingest t := by
  cases carries with
  | @attributeList m found =>
    have member : wrapped (.hit m) ∈ (attributeListLine.scan t).map wrapped :=
      List.mem_map.mpr ⟨.hit m, Pattern.mem_findAll.mp found, rfl⟩
    refine List.IsInfix.trans ⟨m.group 1, [], ?_⟩ (List.infix_of_mem_flatten member)
    rw [← attributeListOpen_append, List.append_nil, wrapped, Piece.output, wrapAttributeList]
    simp only [List.append_assoc]
  | @metadata fields body leads =>
    rw [Dialect.apply_multiMarkdown_ingest, replaceAll_metadataBlock_of_leads leads,
      carriedMetadata_eq]
    exact (List.prefix_append _ _).isInfix

/-- Every comment was written by reading the text. -/
theorem exists_carries (carrier : source = .kramdown ∨ source = .multiMarkdown)
    (absent : ¬ commentOpen <:+: t) {front behind : Text}
    (opened : RuleSet.apply (Dialect.builtin source).ingest t = front ++ commentOpen ++ behind) :
    ∃ payload rest, Carries t source payload ∧ behind = payload ++ commentClose ++ rest := by
  have begins : commentOpen <+: commentOpen ++ behind := List.prefix_append _ _
  have inside : commentOpen ++ behind <:+ RuleSet.apply (Dialect.builtin source).ingest t :=
    ⟨front, by rw [opened, List.append_assoc]⟩
  rcases carrier with rfl | rfl
  · obtain ⟨scanned, covers⟩ := Pattern.scanned_scanFrom attributeListLine_proper none t
    obtain ⟨l, rest, ends, whole⟩ := exists_comment_of_isPrefix (by decide) (by decide) scanned
      (fun found => absent (covers ▸ found)) inside begins
    have found : l.toMatch ∈ attributeListLine.findAll t :=
      Pattern.mem_findAll.mpr (ends.subset List.mem_cons_self)
    refine ⟨_, rest.flatMap wrapped, .attributeList found, ?_⟩
    rw [AttributeLine.comment, attributeListOpen_append, List.append_assoc, List.append_assoc,
      List.append_right_inj] at whole
    rw [whole, List.append_assoc]
    rfl
  · by_cases led : ∃ fields body, Leads fields body t
    · obtain ⟨fields, body, leads⟩ := led
      rw [Dialect.apply_multiMarkdown_ingest, replaceAll_metadataBlock_of_leads leads] at inside
      have whole := eq_carriedMetadata_of_isPrefix leads absent inside begins
      refine ⟨_, '\n' :: '\n' :: body, .metadata leads, ?_⟩
      rw [carriedMetadata_eq, List.append_assoc, List.append_assoc,
        List.append_right_inj] at whole
      rw [whole, List.append_assoc]
    · have missing : ∀ fields body, ¬ Leads fields body t := fun fields body leads =>
        led ⟨fields, body, leads⟩
      rw [Dialect.apply_multiMarkdown_ingest, replaceAll_metadataBlock_of_not_leads missing]
        at inside
      exact absurd (begins.isInfix.trans inside.isInfix) absent

end Carries

end Marker

/-- **Where carried comments end.**  In a text without comments, what is carried stands in a comment
after reading, and every comment carries something.  The first `-->` behind its start is its own
exactly if what it carries holds none, and a reader of HTML takes the whole of it for one comment
exactly if it holds no `--!>` either. -/
theorem carried_comments_close_iff {source : DialectId}
    (carrier : source = .kramdown ∨ source = .multiMarkdown) {t : Text}
    (absent : ¬ Marker.commentOpen <:+: t) :
    (∀ payload, Marker.Carries t source payload →
        Marker.commentOpen ++ payload ++ Marker.commentClose <:+:
          RuleSet.apply (Dialect.builtin source).ingest t) ∧
      ∀ front behind,
        RuleSet.apply (Dialect.builtin source).ingest t = front ++ Marker.commentOpen ++ behind →
        ∃ payload rest, Marker.Carries t source payload ∧
          behind = payload ++ Marker.commentClose ++ rest ∧
          (Text.cutAt? Marker.commentClose behind = some (payload, rest) ↔
            ¬ Marker.commentClose <:+: payload) ∧
          ∀ last foreign,
            Html.Lexer.next .data last foreign (Marker.commentOpen ++ behind) =
                (some (.comment (payload.map Html.Lexer.shown)), rest) ↔
              ¬ Marker.commentClose <:+: payload ∧ ¬ "--!>".toList <:+: payload := by
  refine ⟨fun payload carries => carries.isInfix, fun front behind opened => ?_⟩
  obtain ⟨payload, rest, carries, rfl⟩ := Marker.exists_carries carrier absent opened
  obtain ⟨c, s, named, bracket, dash⟩ := carries.exists_cons
  have closing : Marker.commentClose = "--".toList ++ ['>'] := rfl
  refine ⟨payload, rest, carries, rfl, ?_, fun last foreign => ?_⟩
  · rw [closing]
    exact Text.cutAt?_append_iff (by decide) payload rest
  · rw [named]
    exact Html.Lexer.next_comment_iff last foreign bracket dash

/-- A list over two lines with an arrow in it is one comment. -/
theorem carried_comments_close_iff_of_arrow :
    ¬ Marker.commentOpen <:+: "a\n\x7b: b->c\n--d\x7d".toList ∧
      RuleSet.apply (Dialect.builtin .kramdown).ingest "a\n\x7b: b->c\n--d\x7d".toList =
        "a\n".toList ++ Marker.commentOpen ++ "kramdown-attrlist:\x7b: b->c\n--d\x7d-->".toList ∧
      Text.cutAt? Marker.commentClose "kramdown-attrlist:\x7b: b->c\n--d\x7d-->".toList =
        some ("kramdown-attrlist:\x7b: b->c\n--d\x7d".toList, []) ∧
      ∀ last foreign, Html.Lexer.next .data last foreign
          (Marker.commentOpen ++ "kramdown-attrlist:\x7b: b->c\n--d\x7d-->".toList) =
        (some (.comment ("kramdown-attrlist:\x7b: b->c\n--d\x7d".toList.map Html.Lexer.shown)),
          []) := by
  have absent : ¬ Marker.commentOpen <:+: "a\n\x7b: b->c\n--d\x7d".toList := by decide
  have opened : RuleSet.apply (Dialect.builtin .kramdown).ingest "a\n\x7b: b->c\n--d\x7d".toList =
      "a\n".toList ++ Marker.commentOpen ++
        "kramdown-attrlist:\x7b: b->c\n--d\x7d-->".toList := by decide
  have lists : Marker.attributeListLine.findAll "a\n\x7b: b->c\n--d\x7d".toList =
      [⟨"\x7b: b->c\n--d\x7d".toList, [[], "\x7b: b->c\n--d\x7d".toList]⟩] := by decide
  obtain ⟨payload, rest, carries, whole, cut, read⟩ :=
    (carried_comments_close_iff (.inl rfl) absent).2 _ _ opened
  obtain rfl : payload = "kramdown-attrlist:\x7b: b->c\n--d\x7d".toList := by
    cases carries with
    | attributeList found =>
      rw [lists, List.mem_singleton] at found
      subst found
      decide
  obtain rfl : rest = [] := by
    have same : "kramdown-attrlist:\x7b: b->c\n--d\x7d".toList ++ Marker.commentClose ++ [] =
        "kramdown-attrlist:\x7b: b->c\n--d\x7d".toList ++ Marker.commentClose ++ rest := whole
    exact (List.append_cancel_left same).symm
  exact ⟨absent, opened, cut.mpr (by decide), fun last foreign =>
    (read last foreign).mpr ⟨by decide, by decide⟩⟩

/-- **A list or a field can close its comment.**  Both texts are without comments. -/
theorem carried_comments_close_early :
    (¬ Marker.commentOpen <:+: "\x7b: x-->y\x7d".toList ∧
      RuleSet.apply (Dialect.builtin .kramdown).ingest "\x7b: x-->y\x7d".toList =
        Marker.commentOpen ++ "kramdown-attrlist:\x7b: x-->y\x7d-->".toList ∧
      Text.cutAt? Marker.commentClose "kramdown-attrlist:\x7b: x-->y\x7d-->".toList =
        some ("kramdown-attrlist:\x7b: x".toList, "y\x7d-->".toList)) ∧
    (¬ Marker.commentOpen <:+: "Title: a --> b\n\nText".toList ∧
      RuleSet.apply (Dialect.builtin .multiMarkdown).ingest "Title: a --> b\n\nText".toList =
        Marker.commentOpen ++
          "mmd-meta-start\nTitle: a --> b\nmmd-meta-end-->\n\nText".toList ∧
      Text.cutAt? Marker.commentClose
          "mmd-meta-start\nTitle: a --> b\nmmd-meta-end-->\n\nText".toList =
        some ("mmd-meta-start\nTitle: a ".toList, " b\nmmd-meta-end-->\n\nText".toList)) := by
  decide

end MarkdownDialects
