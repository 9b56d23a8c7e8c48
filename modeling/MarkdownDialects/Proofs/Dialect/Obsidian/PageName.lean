import MarkdownDialects.Proofs.Dialect.Obsidian.RoundTrip
import MarkdownDialects.Proofs.Html.Address
import MarkdownDialects.Proofs.Text.PageName

/-!
# Links to pages

A page's name is the name of a note.  The renderer encodes the destination of its link, and the
rules that emit Obsidian read the name back from that (`Obsidian.apply_emitRules_encodedLink`).
-/

namespace MarkdownDialects

/-- Characters of an encoded name. -/
def isEncodedChar (c : Char) : Bool := isNameChar c || c == '%'

namespace IsPageName

variable {name : Text} (page : IsPageName name)
include page

theorem isReadable {c : Char} (member : c ∈ name) : Percent.IsReadable c := by
  have named := page.chars c member
  simp only [isNameChar, Bool.or_eq_true, beq_iff_eq] at named
  rcases named with ((alphanum | rfl) | rfl) | rfl
  · refine .inr ⟨?_, ?_⟩
    · rw [Html.isAddressChar, alphanum, Bool.true_or]
    · rintro rfl
      exact Bool.noConfusion alphanum
  · exact .inr ⟨rfl, by decide⟩
  · exact .inr ⟨rfl, by decide⟩
  · exact .inl rfl

theorem not_mem_escapeAddress {c : Char} (other : isEncodedChar c = false) :
    c ∉ Html.escapeAddress name := by
  obtain ⟨unnamed, _⟩ := Bool.or_eq_false_iff.mp other
  refine Percent.not_mem_escapeAddress (fun _ => page.isReadable) (page.not_mem unnamed) ?_
  intro member
  have mark : c = '%' ∨ c = '2' ∨ c = '0' := by simpa using member
  rcases mark with rfl | rfl | rfl <;> exact Bool.noConfusion other

theorem decode_escapeAddress : Percent.decode (Html.escapeAddress name) = name :=
  Percent.decode_escapeAddress fun _ => page.isReadable

theorem escapeAddress_ne_nil : Html.escapeAddress name ≠ [] := by
  intro empty
  have decoded := page.decode_escapeAddress
  rw [empty] at decoded
  exact page.ne_nil decoded.symm

/-- No white space is left in the encoded name. -/
theorem isBlank_of_mem_escapeAddress {c : Char} (member : c ∈ Html.escapeAddress name) :
    Text.isBlank c = false := by
  have encoded : isEncodedChar c := by
    by_contra other
    exact page.not_mem_escapeAddress (Bool.eq_false_iff.mpr other) member
  rcases Bool.or_eq_true_iff.mp encoded with named | mark
  · refine isBlank_of_isNameChar named ?_
    rintro rfl
    exact Percent.space_not_mem_escapeAddress (fun _ => page.isReadable) member
  · rw [beq_iff_eq.mp mark]
    rfl

theorem noteTarget_escapeAddress : Obsidian.noteTarget (Html.escapeAddress name) = name := by
  have trimmed : Text.trim (Html.escapeAddress name) = Html.escapeAddress name := by
    refine Text.trimBy_eq_self_iff.mpr
      ⟨Text.trimStartBy_eq_self_iff.mpr fun c head => ?_,
        Text.trimEndBy_eq_self_iff.mpr fun c final => ?_⟩
    · exact page.isBlank_of_mem_escapeAddress (List.mem_of_mem_head? head)
    · exact page.isBlank_of_mem_escapeAddress (List.mem_of_getLast? final)
  rw [Obsidian.noteTarget, trimmed, Obsidian.unbracket_of_not_mem (page.not_mem_escapeAddress rfl),
    page.decode_escapeAddress]

theorem looksInternal : Obsidian.looksInternal name := by
  have noScheme : Obsidian.hasScheme name = false := by
    have noMark : Text.startsWith (name.dropWhile Obsidian.isLetter) "://".toList = false := by
      rw [Bool.eq_false_iff, Ne, List.isPrefixOf_iff_prefix]
      intro found
      exact page.not_mem (c := ':') rfl
        ((List.dropWhile_suffix _).mem (found.subset List.mem_cons_self))
    obtain ⟨c, rest, rfl, _⟩ := page.exists_cons
    rw [Obsidian.hasScheme, noMark, Bool.and_false]
  have noSlash : name.contains '/' = false := by
    simpa using page.not_mem (c := '/') rfl
  have noExtension : Obsidian.hasFileExtension name = false := by
    have noStop (n : Nat) : ((name.reverse.drop n).head? == some '.') = false := by
      rw [beq_eq_false_iff_ne]
      intro stop
      exact page.not_mem (c := '.') rfl
        (List.mem_reverse.mp (List.mem_of_mem_drop (List.mem_of_mem_head? stop)))
    rw [Obsidian.hasFileExtension, noStop, Bool.and_false]
  simp only [Obsidian.looksInternal, page.trim_eq, noScheme, noSlash, noExtension]
  rfl

end IsPageName

namespace Obsidian

/-- The name of a page as the name of a note. -/
def NoteName.ofPageName {name : Text} (page : IsPageName name) : NoteName where
  text := name
  nonempty := page.ne_nil
  trimmed := page.trim_eq
  clean c member :=
    have others : ∀ c ∈ "[]|()%/=!<>\\".toList, (!isNameChar c) = true := List.all_eq_true.mp rfl
    page.not_mem ((Bool.not_eq_true' _).mp (others c member))
  internal := page.looksInternal

/-- A link that shows a name, with the name encoded in its destination. -/
def encodedLink (name : Text) : Text :=
  ['['] ++ name ++ "](".toList ++ Html.escapeAddress name ++ [')']

variable {name : Text} (page : IsPageName name)
include page

/-- A link to a page becomes a link that shows the name. -/
theorem apply_ingestRules_page :
    RuleSet.apply ingestRules ("[[".toList ++ name ++ "]]".toList) = link name name := by
  have ingested := apply_ingestRules [.link (.ofPageName page)]
  rwa [List.flatMap_singleton, List.flatMap_singleton] at ingested

theorem not_mem_encodedLink {c : Char} (other : isEncodedChar c = false)
    (syntactic : c ∉ "[]()".toList) : c ∉ encodedLink name := by
  have inName : c ∉ name := page.not_mem (Bool.or_eq_false_iff.mp other).1
  have inAddress := page.not_mem_escapeAddress other
  simp at syntactic
  simp [encodedLink, syntactic, inName, inAddress]

theorem linkBack_escapeAddress (whole : Text) :
    linkBack ⟨whole, [name, Html.escapeAddress name]⟩ = "[[".toList ++ name ++ "]]".toList := by
  let note : NoteName := .ofPageName page
  have written := linkBack_of_noteTarget note.toLinkText (by simp) note
    page.noteTarget_escapeAddress whole
  rwa [beq_self_eq_true, if_pos rfl] at written

/-- **The link of a page is read back with its destination encoded.** -/
theorem apply_emitRules_encodedLink :
    RuleSet.apply emitRules (encodedLink name) = "[[".toList ++ name ++ "]]".toList := by
  have images : imagePattern.replaceAll embedBack (encodedLink name) = encodedLink name := by
    have absent : '!' ∉ encodedLink name := not_mem_encodedLink page rfl (by simp)
    apply imagePattern_opens.replaceAll_of_absent
    intro found
    exact absent (found.subset List.mem_cons_self)
  have links : linkPattern.replaceAll linkBack (encodedLink name) =
      "[[".toList ++ name ++ "]]".toList := by
    have found := linkPattern_append none [] page.ne_nil (page.not_mem rfl)
      page.escapeAddress_ne_nil (page.not_mem_escapeAddress rfl)
    have replaced := Pattern.replaceAll_append_of_match (f := linkBack) (fun _ _ _ => rfl)
      (List.cons_ne_nil _ _) found
    rw [linkBack_escapeAddress page, List.append_nil] at replaced
    exact replaced.trans (List.append_nil _)
  have spoilers : Marker.spoilerSpan.replaceAll Marker.unwrapSpoiler
      ("[[".toList ++ name ++ "]]".toList) = "[[".toList ++ name ++ "]]".toList := by
    have absent : '<' ∉ "[[".toList ++ name ++ "]]".toList := by
      simp [page.not_mem (c := '<') rfl]
    apply (Marker.enclosed_opens Marker.spoilerOpen Marker.spoilerClose).replaceAll_of_absent
    intro found
    exact absent (found.subset List.mem_cons_self)
  simp only [emitRules, RuleSet.apply_cons, RuleSet.apply_nil, Rule.apply_compute, images, links,
    spoilers]

end Obsidian

end MarkdownDialects
