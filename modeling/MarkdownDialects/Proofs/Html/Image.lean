import MarkdownDialects.Proofs.Html.Page

/-!
# Reading an image

The values of quoted attributes are read back from their escaped form
(`Html.Lexer.quotedValue?_escape`), so a paragraph with an image is read as that image with its
source and its alternative text (`Html.parse_imageBlock`).
-/

namespace MarkdownDialects

namespace Html

/-- A paragraph with an image in it, as it is written. -/
def imageBlock (source text : Text) : Text :=
  "<p><img src=\"".toList ++ (escapeAddress source ++ "\" alt=\"".toList ++
    (escape text ++ "\" /></p>\n".toList))

/-- An image with a source and an alternative text. -/
def imageNode (source text : Text) : Node :=
  .element "img" [⟨"src", source⟩, ⟨"alt", text⟩] []

namespace Lexer

/-- What a reference covers is not read again. -/
theorem quotedValue?_skip (quote : Char) (front rest : Text) :
    quotedValue? quote front.length (front ++ rest) = quotedValue? quote 0 rest := by
  induction front with
  | nil => rfl
  | cons c front ih =>
    rw [List.length_cons, List.cons_append, quotedValue?]
    exact ih

/-- **An escaped value is read back.** -/
theorem quotedValue?_escape {value : Text} (noNull : '\x00' ∉ value) (rest : Text) :
    quotedValue? '"' 0 (escape value ++ '"' :: rest) = some (value, rest) := by
  induction value with
  | nil => rfl
  | cons c value ih =>
    rw [List.mem_cons, not_or] at noNull
    have others := ih noNull.2
    rw [escape, List.flatMap_cons, ← escape]
    by_cases referred : isReferred c
    · obtain ⟨name, written, found, letters⟩ := exists_reference referred
      have shape : escapeChar c ++ escape value ++ '"' :: rest =
          '&' :: (name ++ ';' :: (escape value ++ '"' :: rest)) := by
        rw [written]
        simp
      have size : (name ++ ';' :: (escape value ++ '"' :: rest)).length -
          (escape value ++ '"' :: rest).length = (name ++ [';']).length := by
        simp only [List.length_append, List.length_cons, List.length_nil]
        omega
      have covered : quotedValue? '"' (name ++ [';']).length
          (name ++ ';' :: (escape value ++ '"' :: rest)) = some (value, rest) := by
        have skipped := quotedValue?_skip '"' (name ++ [';']) (escape value ++ '"' :: rest)
        rw [List.append_assoc, List.singleton_append] at skipped
        exact skipped.trans others
      have noQuote : ('&' == '"') = false := rfl
      rw [shape, quotedValue?, noQuote, if_neg Bool.false_ne_true]
      dsimp only
      rw [reference?_of_lookup? found letters, if_pos (beq_self_eq_true _)]
      dsimp only
      rw [size, covered]
      rfl
    · have ordinary := Bool.eq_false_iff.mpr referred
      have noQuote : c ≠ '"' := by
        rintro rfl
        exact referred rfl
      have noReference : c ≠ '&' := by
        rintro rfl
        exact referred rfl
      rw [escapeChar_eq_self ordinary, List.singleton_append, List.cons_append]
      simp [quotedValue?, noQuote, noReference, others, shown, Ne.symm noNull.1]

theorem attributes?_src (n : Nat) (t : Text) :
    attributes? (n + 1) [] (' ' :: ("src=".toList ++ '"' :: t)) =
      match value? ('"' :: t) with
      | some (value, rest) => attributes? n (addAttribute [] "src".toList value) rest
      | none => none := rfl

theorem attributes?_alt (n : Nat) (found : List Attribute) (t : Text) :
    attributes? (n + 1) found (' ' :: ("alt=".toList ++ '"' :: t)) =
      match value? ('"' :: t) with
      | some (value, rest) => attributes? n (addAttribute found "alt".toList value) rest
      | none => none := rfl

/-- The tag of an image with quoted attributes. -/
theorem tag?_image {source text : Text} (noNull : '\x00' ∉ source ∧ '\x00' ∉ text) (rest : Text) :
    tag? ("img src=\"".toList ++ (escape source ++ "\" alt=\"".toList ++
      (escape text ++ ("\" />".toList ++ rest)))) =
      some (⟨"img", [⟨"src", source⟩, ⟨"alt", text⟩], true⟩, rest) := by
  let back : Text := '"' :: (escape text ++ '"' :: (" />".toList ++ rest))
  let front : Text := '"' :: (escape source ++ '"' :: (' ' :: ("alt=".toList ++ back)))
  have first : value? front = some (source, ' ' :: ("alt=".toList ++ back)) :=
    quotedValue?_escape noNull.1 _
  have second : value? back = some (text, " />".toList ++ rest) := quotedValue?_escape noNull.2 _
  have found (n : Nat) : attributes? (n + 3) [] (' ' :: ("src=".toList ++ front)) =
      some ([⟨"src", source⟩, ⟨"alt", text⟩], true, rest) := by
    rw [attributes?_src, first]
    dsimp only
    rw [attributes?_alt, second]
    rfl
  have shape : "img src=\"".toList ++ (escape source ++ "\" alt=\"".toList ++
      (escape text ++ ("\" />".toList ++ rest))) =
        "img".toList ++ ' ' :: ("src=".toList ++ front) := by
    simp [front, back]
  have read : tag? ("img".toList ++ ' ' :: ("src=".toList ++ front)) =
      (attributes? (("src=".toList ++ front).length + 5) [] (' ' :: ("src=".toList ++ front))).map
        fun found => (⟨"img", found.1, found.2.1⟩, found.2.2) := rfl
  rw [shape, read, found]
  rfl

end Lexer

namespace Builder

/-- A page with an image in a paragraph. -/
def imageForest (source text : Text) : Forest :=
  ⟨#[⟨.document, none, [1]⟩, ⟨.element .html "html" [], some 0, [2, 3]⟩,
    ⟨.element .html "head" [], some 1, []⟩, ⟨.element .html "body" [], some 1, [4]⟩,
    ⟨.element .html "p" [], some 3, [5]⟩,
    ⟨.element .html "img" [⟨"src", source⟩, ⟨"alt", text⟩], some 4, []⟩]⟩

/-- The nodes of the page when everything is read. -/
def imageEnd (source text : Text) : Forest :=
  ⟨#[⟨.document, none, [1]⟩, ⟨.element .html "html" [], some 0, [2, 3]⟩,
    ⟨.element .html "head" [], some 1, []⟩, ⟨.element .html "body" [], some 1, [4, 6]⟩,
    ⟨.element .html "p" [], some 3, [5]⟩,
    ⟨.element .html "img" [⟨"src", source⟩, ⟨"alt", text⟩], some 4, []⟩,
    ⟨.text ['\n'], some 3, []⟩]⟩

theorem document_imageEnd (source text : Text) :
    (imageEnd source text).document =
      soleDocument (.element "p" [] [imageNode source text]) := rfl

end Builder

/-- The tag of an image. -/
def Tag.image (source text : Text) : Tag := ⟨"img", [⟨"src", source⟩, ⟨"alt", text⟩], true⟩

/-- **A paragraph with an image is read as its source and its text.** -/
theorem parse_imageBlock {source text : Text} (plain : escapeAddress source = escape source)
    (noReturn : '\r' ∉ source ∧ '\r' ∉ text) (noNull : '\x00' ∉ source ∧ '\x00' ∉ text) :
    parse (imageBlock source text) =
      Builder.soleDocument (.element "p" [] [imageNode source text]) := by
  let values : Text := escape source ++ "\" alt=\"".toList ++
    (escape text ++ "\" /></p>\n".toList)
  have shape : imageBlock source text =
      '<' :: ("p>".toList ++ '<' :: ("img src=\"".toList ++ values)) :=
    congrArg (fun address => "<p><img src=\"".toList ++ (address ++ "\" alt=\"".toList ++
      (escape text ++ "\" /></p>\n".toList))) plain
  have kept : cleaned (imageBlock source text) = imageBlock source text := by
    have escaped {t : Text} (clean : '\r' ∉ t) : '\r' ∉ escape t := fun member =>
      clean (mem_of_mem_escape (by decide) member)
    rw [shape]
    exact cleaned_eq_self (by decide) (by simp [values, escaped noReturn.1, escaped noReturn.2])
  have image : Lexer.next .data "p" false ('<' :: ("img src=\"".toList ++ values)) =
      (some (.startTag (.image source text)), "</p>\n".toList) := by
    have read : Lexer.tag? ("img src=\"".toList ++ values) =
        some (.image source text, "</p>\n".toList) :=
      Lexer.tag?_image noNull _
    exact Lexer.next_of_tag? (t := "mg src=\"".toList ++ values) (by decide) read "p"
  have whole : Reads ⟨"", imageBlock source text, .start⟩
      ⟨"img", [], Builder.inPage (Builder.imageEnd source text) Builder.pageRoot [] false
        false⟩ := by
    rw [shape]
    refine .trans (b := ⟨"p", '<' :: ("img src=\"".toList ++ values),
      Builder.inPage (Builder.blockForest "p") (⟨4, .html, "p"⟩ :: Builder.pageRoot) [] true false⟩)
      (reads_tag (.startTag (.ofName "p")) (by simp) rfl rfl) ?_
    refine .trans (b := ⟨"img", "</p>\n".toList, Builder.inPage (Builder.imageForest source text)
      (⟨4, .html, "p"⟩ :: Builder.pageRoot) [] false false⟩)
      (reads_tag (.startTag (.image source text)) (by simp [values]) image rfl) ?_
    refine .trans (b := ⟨"img", ['\n'], Builder.inPage (Builder.imageForest source text)
      Builder.pageRoot [] false false⟩)
      (reads_tag (.endTag (.ofName "p")) (by decide) rfl rfl) ?_
    exact reads_tag (.characters ['\n']) Nat.zero_lt_one rfl rfl
  rw [parse_of_reads (kept.symm ▸ whole), Builder.takeToken_eof]
  exact Builder.document_imageEnd source text

end Html

end MarkdownDialects
