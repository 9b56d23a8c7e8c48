import MarkdownDialects.Proofs.Html.Reading

/-!
# Reading short pages
-/

namespace MarkdownDialects

namespace Html

namespace Builder

/-- The open elements of a page whose body is open. -/
def pageRoot : List OpenElement := [⟨3, .html, "body"⟩, ⟨1, .html, "html"⟩]

/-- A builder inside the body of a page without a document type declaration. -/
def inPage (forest : Forest) (stack : List OpenElement) (formatting : List FormattingEntry)
    (framesetOk dropLineFeed : Bool) : Builder :=
  { start with
    forest, stack, formatting, framesetOk, dropLineFeed, mode := .inBody, legacy := true,
    head := some ⟨2, .html, "head"⟩ }

/-- A page with one block. -/
def blockForest (block : String) : Forest :=
  ⟨#[⟨.document, none, [1]⟩, ⟨.element .html "html" [], some 0, [2, 3]⟩,
    ⟨.element .html "head" [], some 1, []⟩, ⟨.element .html "body" [], some 1, [4]⟩,
    ⟨.element .html block [], some 3, []⟩]⟩

/-- A page with one block, a formatting element in it, and the text in that. -/
def pageForest (block : String) (inline : Tag) (t : Text) : Forest :=
  let front : List Entry :=
    [⟨.document, none, [1]⟩, ⟨.element .html "html" [], some 0, [2, 3]⟩,
      ⟨.element .html "head" [], some 1, []⟩, ⟨.element .html "body" [], some 1, [4]⟩,
      ⟨.element .html block [], some 3, [5]⟩]
  let inner (children : List NodeId) : Entry :=
    ⟨.element .html inline.name inline.attributes, some 4, children⟩
  match t with
  | [] => ⟨(front ++ [inner []]).toArray⟩
  | c :: cs => ⟨(front ++ [inner [6], ⟨.text (c :: cs), some 5, []⟩]).toArray⟩

/-- While the text of a page is read. -/
def collectPage (block : String) (inline : Tag) (ok : Bool) (t : Text) : Builder :=
  inPage (pageForest block inline t) (⟨5, .html, inline.name⟩ :: ⟨4, .html, block⟩ :: pageRoot)
    [.element ⟨5, .html, inline.name⟩ inline] ok false

theorem collects_page (block : String) {inline : Tag} (plain : inline.name ≠ "template") :
    Collects (collectPage block inline) := by
  have place (ok : Bool) (t : Text) : (collectPage block inline ok t).place = .lastChild 5 := by
    have unlike : (⟨5, .html, inline.name⟩ : OpenElement).isNamed "template" = false := by
      simp [OpenElement.isNamed, plain]
    change Place.lastChild (holder _ _) = .lastChild 5
    rw [holder, unlike]
    rfl
  have joined (ok : Bool) (t : Text) {s : Text} (nonempty : s ≠ []) :
      (collectPage block inline ok t).insertText s = collectPage block inline ok (t ++ s) := by
    obtain ⟨c, s, rfl⟩ := List.exists_cons_of_ne_nil nonempty
    rw [insertText, place]
    cases t <;> rfl
  exact
    { content := fun _ _ => rfl
      outside := fun _ _ => rfl
      kept := fun _ _ => rfl
      space := fun ok t s nonempty => joined ok t nonempty
      text := fun ok t s nonempty => joined false t nonempty }

/-- A document whose body holds one node and a line feed. -/
def soleDocument (n : Node) : List Node :=
  [.element "html" [] [.element "head" [] [], .element "body" [] [n, .text ['\n']]]]

/-- The document that a page is read as. -/
def pageDocument (block : String) (inline : Tag) (t : Text) : List Node :=
  soleDocument (.element block [] [.element inline.name inline.attributes [.text t]])

/-- The nodes of a page when everything is read. -/
def pageEnd (block : String) (inline : Tag) (t : Text) : Forest :=
  ⟨#[⟨.document, none, [1]⟩, ⟨.element .html "html" [], some 0, [2, 3]⟩,
      ⟨.element .html "head" [], some 1, []⟩, ⟨.element .html "body" [], some 1, [4, 7]⟩,
      ⟨.element .html block [], some 3, [5]⟩,
      ⟨.element .html inline.name inline.attributes, some 4, [6]⟩, ⟨.text t, some 5, []⟩,
      ⟨.text ['\n'], some 3, []⟩]⟩

theorem takeToken_pageForest (block : String) (inline : Tag) {t : Text} (nonempty : t ≠ [])
    (ok : Bool) :
    (inPage (pageForest block inline t) pageRoot [] ok false).takeToken (.characters ['\n']) =
      inPage (pageEnd block inline t) pageRoot [] ok false := by
  obtain ⟨c, t, rfl⟩ := List.exists_cons_of_ne_nil nonempty
  rfl

theorem takeToken_eof (forest : Forest) (ok : Bool) :
    (inPage forest pageRoot [] ok false).takeToken .eof = inPage forest pageRoot [] ok false := rfl

theorem document_pageEnd (block : String) (inline : Tag) (t : Text) :
    (pageEnd block inline t).document = pageDocument block inline t := by
  rfl

end Builder

/-- Tags without attributes. -/
def Tag.ofName (name : String) : Tag := ⟨name, [], false⟩

theorem reads_tag {last : String} {ahead rest : Text} {b after : Builder} (token : Token)
    (shorter : rest.length < ahead.length)
    (found : Lexer.next b.content last b.isInForeign ahead = (some token, rest))
    (taken : b.takeToken token = after) :
    Reads ⟨last, ahead, b⟩ ⟨token.lastName last, rest, after⟩ :=
  taken ▸ .single (.token shorter found)

/-- A page is read to its end behind the end tags of its elements. -/
theorem reads_pageEnd (block : String) (inline : Tag) {t : Text} (nonempty : t ≠ []) (ok : Bool)
    (last : String) :
    Reads ⟨last, ['\n'], Builder.inPage (Builder.pageForest block inline t) Builder.pageRoot [] ok
        false⟩
      ⟨last, [], Builder.inPage (Builder.pageEnd block inline t) Builder.pageRoot [] ok false⟩ :=
  reads_tag (.characters ['\n']) Nat.zero_lt_one rfl
    (Builder.takeToken_pageForest block inline nonempty ok)

/-- A page is what its tags open and close, with the text between them. -/
theorem parse_page {block : String} {inline : Tag} (plain : inline.name ≠ "template") {ok : Bool}
    {opening closing t : Text}
    (opens : ∀ rest, Reads ⟨"", '<' :: (opening ++ rest), .start⟩
      ⟨inline.name, rest, Builder.collectPage block inline ok []⟩)
    (closes : ∀ ok, Reads
      ⟨inline.name, '<' :: (closing ++ ['\n']), Builder.collectPage block inline ok t⟩
      ⟨inline.name, ['\n'],
        Builder.inPage (Builder.pageForest block inline t) Builder.pageRoot [] ok false⟩)
    (noReturn : '\r' ∉ opening ∧ '\r' ∉ t ∧ '\r' ∉ closing) (nonempty : t ≠ [])
    (noNull : '\x00' ∉ t) :
    parse ('<' :: (opening ++ (escape t ++ '<' :: (closing ++ ['\n'])))) =
      Builder.pageDocument block inline t := by
  have escaped : '\r' ∉ escape t := fun member =>
    noReturn.2.1 (mem_of_mem_escape (by decide) member)
  have kept : cleaned ('<' :: (opening ++ (escape t ++ '<' :: (closing ++ ['\n'])))) =
      '<' :: (opening ++ (escape t ++ '<' :: (closing ++ ['\n']))) :=
    cleaned_eq_self (by decide) (by simp [noReturn, escaped])
  obtain ⟨after, inside⟩ := (Builder.collects_page block plain).reads_escape noNull
    (closing ++ ['\n']) inline.name ok []
  have whole := (opens _).trans (inside.trans ((closes after).trans
    (reads_pageEnd block inline nonempty after inline.name)))
  rw [parse_of_reads (kept ▸ whole), Builder.takeToken_eof]
  exact Builder.document_pageEnd block inline t

/-- **Code is read as its text.** -/
theorem parse_code {t : Text} (nonempty : t ≠ []) (noNull : '\x00' ∉ t) (noReturn : '\r' ∉ t) :
    parse ("<pre><code>".toList ++ escape t ++ "</code></pre>\n".toList) =
      Builder.pageDocument "pre" (.ofName "code") t := by
  have opens (rest : Text) : Reads ⟨"", '<' :: ("pre><code>".toList ++ rest), .start⟩
      ⟨"code", rest, Builder.collectPage "pre" (.ofName "code") false []⟩ :=
    .trans (b := ⟨"pre", "<code>".toList ++ rest,
        Builder.inPage (Builder.blockForest "pre") (⟨4, .html, "pre"⟩ :: Builder.pageRoot) [] false
          true⟩)
      (reads_tag (.startTag (.ofName "pre")) (by simp) rfl rfl)
      (reads_tag (.startTag (.ofName "code")) (by simp; omega) rfl rfl)
  have closes (ok : Bool) : Reads
      ⟨"code", '<' :: ("/code></pre>".toList ++ ['\n']),
        Builder.collectPage "pre" (.ofName "code") ok t⟩
      ⟨"code", ['\n'], Builder.inPage (Builder.pageForest "pre" (.ofName "code") t)
        Builder.pageRoot [] ok false⟩ :=
    .trans (b := ⟨"code", "</pre>\n".toList,
        Builder.inPage (Builder.pageForest "pre" (.ofName "code") t)
          (⟨4, .html, "pre"⟩ :: Builder.pageRoot) [] ok false⟩)
      (reads_tag (.endTag (.ofName "code")) (by simp) rfl rfl)
      (reads_tag (.endTag (.ofName "pre")) (by simp) rfl rfl)
  have front : "<pre><code>".toList = '<' :: "pre><code>".toList := rfl
  have back : "</code></pre>\n".toList = '<' :: ("/code></pre>".toList ++ ['\n']) := rfl
  rw [List.append_assoc, front, back, List.cons_append]
  exact parse_page (by decide) opens closes ⟨by decide, noReturn, by decide⟩ nonempty noNull

namespace Lexer

/-- Texts that a quoted value holds as they are. -/
structure IsQuotable (value : Text) : Prop where
  noQuote : '"' ∉ value
  noReference : '&' ∉ value
  noNull : '\x00' ∉ value

theorem IsQuotable.of_cons {c : Char} {value : Text} (quotable : IsQuotable (c :: value)) :
    IsQuotable value :=
  ⟨fun member => quotable.noQuote (.tail c member),
    fun member => quotable.noReference (.tail c member),
    fun member => quotable.noNull (.tail c member)⟩

/-- A quoted value without references is read as it is. -/
theorem quotedValue?_append {value : Text} (quotable : IsQuotable value) (rest : Text) :
    quotedValue? '"' 0 (value ++ '"' :: rest) = some (value, rest) := by
  induction value with
  | nil => rfl
  | cons c value ih =>
    have noQuote : c ≠ '"' := fun same => quotable.noQuote (same ▸ List.mem_cons_self)
    have noReference : c ≠ '&' := fun same => quotable.noReference (same ▸ List.mem_cons_self)
    have noNull : c ≠ '\x00' := fun same => quotable.noNull (same ▸ List.mem_cons_self)
    have others := ih quotable.of_cons
    simp [quotedValue?, noQuote, noReference, others, shown, noNull]

theorem attributes?_href (n : Nat) (t : Text) :
    attributes? (n + 2) [] (' ' :: ("href=".toList ++ '"' :: t)) =
      match value? ('"' :: t) with
      | some (value, rest) => attributes? (n + 1) (addAttribute [] "href".toList value) rest
      | none => none := rfl

/-- The tag of a link with a quoted address. -/
theorem tag?_link {address : Text} (quotable : IsQuotable address) (rest : Text) :
    tag? ("a href=\"".toList ++ (address ++ '"' :: '>' :: rest)) =
      some (⟨"a", [⟨"href", address⟩], false⟩, rest) := by
  let quoted : Text := '"' :: (address ++ '"' :: '>' :: rest)
  have value : value? quoted = some (address, '>' :: rest) := quotedValue?_append quotable _
  have found (n : Nat) : attributes? (n + 2) [] (' ' :: ("href=".toList ++ quoted)) =
      some ([⟨"href", address⟩], false, rest) := by
    rw [attributes?_href, value]
    rfl
  have read : tag? ("a href=\"".toList ++ (address ++ '"' :: '>' :: rest)) =
      (attributes? (("href=".toList ++ quoted).length + 3) []
          (' ' :: ("href=".toList ++ quoted))).map
        fun found => (⟨"a", found.1, found.2.1⟩, found.2.2) := rfl
  rw [read, found]
  rfl

/-- A bracket and a letter start a tag. -/
theorem next_of_tag? {c : Char} {t rest : Text} {tag : Tag} (letter : c.isAlpha)
    (found : tag? (c :: t) = some (tag, rest)) (last : String) :
    next .data last false ('<' :: c :: t) = (some (.startTag tag), rest) := by
  have ordinary {d : Char} (mark : d.isAlpha = false) : c ≠ d := by
    rintro rfl
    exact Bool.false_ne_true (mark.symm.trans letter)
  rw [next, markup, if_pos letter, found]
  · exact ordinary (by decide)
  · exact ordinary (by decide)
  · exact fun _ slash => absurd slash (ordinary (by decide))
  · exact fun _ _ slash => absurd slash (ordinary (by decide))

end Lexer

/-- The tag of a link. -/
def Tag.link (address : Text) : Tag := ⟨"a", [⟨"href", address⟩], false⟩

/-- **A link is read as its address and its text.** -/
theorem parse_link {address t : Text} (quotable : Lexer.IsQuotable address)
    (oneLine : '\r' ∉ address) (nonempty : t ≠ []) (noNull : '\x00' ∉ t) (noReturn : '\r' ∉ t) :
    parse ("<p><a href=\"".toList ++ (address ++ "\">".toList ++
      (escape t ++ "</a></p>\n".toList))) =
      Builder.pageDocument "p" (.link address) t := by
  have opens (rest : Text) :
      Reads ⟨"", '<' :: (("p><a href=\"".toList ++ (address ++ "\">".toList)) ++ rest), .start⟩
        ⟨"a", rest, Builder.collectPage "p" (.link address) true []⟩ := by
    have tag : Lexer.next .data "p" false
        ("<a href=\"".toList ++ ((address ++ "\">".toList) ++ rest)) =
          (some (.startTag (.link address)), rest) := by
      have ahead : (address ++ "\">".toList) ++ rest = address ++ '"' :: '>' :: rest :=
        List.append_assoc ..
      rw [ahead]
      exact Lexer.next_of_tag? (t := " href=\"".toList ++ (address ++ '"' :: '>' :: rest))
        (by decide) (Lexer.tag?_link quotable rest) "p"
    rw [List.append_assoc]
    exact .trans (b := ⟨"p", "<a href=\"".toList ++ ((address ++ "\">".toList) ++ rest),
        Builder.inPage (Builder.blockForest "p") (⟨4, .html, "p"⟩ :: Builder.pageRoot) [] true
          false⟩)
      (reads_tag (.startTag (.ofName "p")) (by simp) rfl rfl)
      (reads_tag (.startTag (.link address)) (by simp; omega) tag rfl)
  have closes (ok : Bool) : Reads
      ⟨"a", '<' :: ("/a></p>".toList ++ ['\n']), Builder.collectPage "p" (.link address) ok t⟩
      ⟨"a", ['\n'], Builder.inPage (Builder.pageForest "p" (.link address) t)
        Builder.pageRoot [] ok false⟩ :=
    .trans (b := ⟨"a", "</p>\n".toList,
        Builder.inPage (Builder.pageForest "p" (.link address) t)
          (⟨4, .html, "p"⟩ :: Builder.pageRoot) [] ok false⟩)
      (reads_tag (.endTag (.ofName "a")) (by simp) rfl rfl)
      (reads_tag (.endTag (.ofName "p")) (by simp) rfl rfl)
  have front : "<p><a href=\"".toList = '<' :: "p><a href=\"".toList := rfl
  have back : "</a></p>\n".toList = '<' :: ("/a></p>".toList ++ ['\n']) := rfl
  have address : '\r' ∉ "p><a href=\"".toList ++ (address ++ "\">".toList) := by
    simp [oneLine]
  rw [front, back, List.cons_append, ← List.append_assoc]
  exact parse_page (show "a" ≠ "template" by decide) opens closes ⟨address, noReturn, by decide⟩
    nonempty noNull

end Html

end MarkdownDialects
