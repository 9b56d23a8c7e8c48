import MarkdownDialects.Proofs.Serialize.Behind
import MarkdownDialects.Proofs.Serialize.Gaps
import MarkdownDialects.Proofs.Serialize.Literal

/-!
# Words in emphasis

White space next to a block is not written, and the first and the last child of any element count as
next to one.  Emphasis of nothing but white space is not written either, but white space behind it
collapses with what was in it.  So a paragraph loses the gap between two words if nothing but such
white space is looked at first in it, and keeps all other words
(`words_writeDocument_paragraph_iff`).
-/

namespace MarkdownDialects

namespace Serialize

open Html (Node Attribute)

/-- Letters, and white space that collapses. -/
def isProseChar (c : Char) : Bool := c.isAlpha || collapses c

/-- Emphasis, deleted text, and spans that are not spoilers. -/
def isProseTag (e : Element) : Bool :=
  e.tag == "em" || e.tag == "strong" || e.tag == "del" || e.tag == "span" && !e.has "data-spoiler"

mutual

/-- Whether a node is text of letters and white space, with emphasis, deleted text and spans in it
at any depth. -/
def isProse : Node → Bool
  | .text t => t.all isProseChar
  | .comment _ => false
  | .element tag attributes content => isProseTag ⟨tag, attributes⟩ && areProse content

/-- Whether some nodes are text of letters and white space, with emphasis, deleted text and spans in
it at any depth. -/
def areProse : List Node → Bool
  | [] => true
  | n :: rest => isProse n && areProse rest

end

/-- Whether an element with nothing but white space in it is not written. -/
def vanishes (tag : String) : Bool := tag == "em" || tag == "strong" || tag == "del"

/-- The fate of white space in an element that is not written. -/
def Traced.swallowed : Traced → Traced
  | (c, .shown) => (c, .swallowed)
  | m => m

mutual

/-- The characters of a node and their fates. -/
def trace : Node → List Traced
  | .text t => traced .shown t
  | .comment _ => []
  | .element tag _ content =>
    if vanishes tag && Text.isAllBlank (Node.textContents content) then
      (traceAll true content).map Traced.swallowed
    else traceAll true content

/-- The characters of some nodes and their fates, given whether the nodes begin their parent. -/
def traceAll : Bool → List Node → List Traced
  | _, [] => []
  | first, n :: rest =>
    (if isBlankText n && (first || rest.isEmpty) then traced .dropped n.textContent else trace n) ++
      traceAll false rest

end

/-- The characters that mark emphasis and deleted text. -/
def isEmphasisMark (c : Char) : Bool := c == '_' || c == '*' || c == '~'

/-- A text without the marks of emphasis and deleted text. -/
def unmarked (t : Text) : Text := t.filter (!isEmphasisMark ·)

theorem unmarked_append (s t : Text) : unmarked (s ++ t) = unmarked s ++ unmarked t :=
  List.filter_append ..

/-! ## The characters of the text -/

theorem map_fst_traced (fate : Fate) (t : Text) : (traced fate t).map Prod.fst = t := by
  rw [traced, List.map_map]
  exact List.map_id t

theorem fst_swallowed (m : Traced) : m.swallowed.1 = m.1 := by
  obtain ⟨c, fate⟩ := m
  cases fate <;> rfl

theorem map_fst_swallowed (ms : List Traced) :
    (ms.map Traced.swallowed).map Prod.fst = ms.map Prod.fst := by
  rw [List.map_map]
  exact List.map_congr_left fun m _ => fst_swallowed m

mutual

theorem map_fst_trace (n : Node) : (trace n).map Prod.fst = n.textContent := by
  cases n with
  | text t => exact map_fst_traced .shown t
  | comment t => rfl
  | element tag attributes content =>
    rw [trace, Node.textContent]
    split
    · rw [map_fst_swallowed, map_fst_traceAll]
    · rw [map_fst_traceAll]

theorem map_fst_traceAll (first : Bool) (nodes : List Node) :
    (traceAll first nodes).map Prod.fst = Node.textContents nodes := by
  cases nodes with
  | nil => rfl
  | cons n rest =>
    rw [traceAll, List.map_append, Node.textContents, map_fst_traceAll false rest]
    split
    · rw [map_fst_traced]
    · rw [map_fst_trace]

end

/-! ## Text -/

section Char

variable {c : Char}

/-- In prose all white space collapses. -/
theorem isBlank_eq_collapses (prose : isProseChar c) : Text.isBlank c = collapses c := by
  rcases Bool.or_eq_true_iff.mp prose with letter | space
  · have solid {d : Char} (other : d.isAlpha = false) : c ≠ d := Line.ne_of_isAlpha letter other
    rw [Line.isBlank_of_isAlpha letter]
    simp [collapses, solid (d := ' ') rfl, solid (d := '\t') rfl, solid (d := '\r') rfl,
      solid (d := '\n') rfl]
  · rw [space]
    simp only [collapses, Bool.or_eq_true, beq_iff_eq] at space
    rcases space with ((rfl | rfl) | rfl) | rfl <;> rfl

/-- What is shown in prose is a letter. -/
theorem isAlpha_of_shown (prose : isProseChar c) (shown : Text.isBlank c = false) : c.isAlpha := by
  rw [isBlank_eq_collapses prose] at shown
  rwa [isProseChar, shown, Bool.or_false] at prose

end Char

/-- Text of letters and spaces. -/
def IsLettered (t : Text) : Prop := ∀ c ∈ t, c.isAlpha ∨ c = ' '

section Lettered

variable {t : Text} (lettered : IsLettered t)
include lettered

theorem IsLettered.ne {c d : Char} (member : c ∈ t) (other : d.isAlpha = false) (solid : d ≠ ' ') :
    c ≠ d := by
  rcases lettered c member with letter | rfl
  · exact Line.ne_of_isAlpha letter other
  · exact solid.symm

/-- Nothing in such a text needs an escape. -/
theorem IsLettered.escape_eq : escape t = t := by
  refine escape_eq_self (fun c member => ?_) fun c first => lettered c (List.mem_of_mem_head? first)
  have other {d : Char} (none : d.isAlpha = false) (solid : d ≠ ' ') : c ≠ d :=
    lettered.ne member none solid
  simp [isMarkup, other (d := '\\') rfl, other (d := '*') rfl, other (d := '`') rfl,
    other (d := '[') rfl, other (d := ']') rfl, other (d := '_') rfl]

theorem IsLettered.unmarked_eq : unmarked t = t := by
  rw [unmarked, List.filter_eq_self]
  intro c member
  have other {d : Char} (none : d.isAlpha = false) (solid : d ≠ ' ') : c ≠ d :=
    lettered.ne member none solid
  simp [isEmphasisMark, other (d := '_') rfl, other (d := '*') rfl, other (d := '~') rfl]

theorem IsLettered.escaping_eq (pen : Pen) : pen.escaping t = t := by
  have noBar : '|' ∉ t := fun member => lettered.ne member rfl (by decide) rfl
  rw [Pen.escaping, escapeBars, Text.replaceChar_of_not_mem noBar, ite_self]

end Lettered

section ProseText

variable {t : Text} (prose : t.all isProseChar)
include prose

/-- What is written for prose is letters and spaces. -/
theorem isLettered_output (drops : Bool) (fate : Fate) :
    IsLettered (output drops (traced fate t)) := by
  intro c member
  rcases mem_output member with space | ⟨letter, inside⟩
  · exact .inr space
  · rw [map_fst_traced] at inside
    exact .inl (isAlpha_of_shown (List.all_eq_true.mp prose c inside) letter)

/-- Collapsing white space writes what is not dropped. -/
theorem collapse_eq_output : collapse t = output false (traced .shown t) := by
  induction t with
  | nil => rfl
  | cons c t ih =>
    rw [List.all_cons, Bool.and_eq_true] at prose
    obtain ⟨first, others⟩ := prose
    have behind : traced .shown (c :: t) = (c, .shown) :: traced .shown t := rfl
    rw [behind]
    cases blank : Text.isBlank c with
    | false =>
      have kept : collapses c = false := isBlank_eq_collapses first ▸ blank
      rw [output_cons_of_shown _ blank, ← ih others, collapse.eq_def]
      simp [kept]
    | true =>
      have space : collapses c := isBlank_eq_collapses first ▸ blank
      rw [output_cons_shown _ blank]
      cases t with
      | nil =>
        rw [collapse.eq_def]
        simp [space, traced, output]
      | cons d t =>
        have second : isProseChar d := (Bool.and_eq_true_iff.mp others).1
        have run : collapse (c :: d :: t) =
            if collapses d then collapse (d :: t) else ' ' :: collapse (d :: t) := by
          rw [collapse.eq_def]
          simp [space]
        have next : traced .shown (d :: t) = (d, .shown) :: traced .shown t := rfl
        rw [run, ih others, next]
        cases also : Text.isBlank d with
        | true =>
          rw [if_pos (isBlank_eq_collapses second ▸ also), output_cons_shown _ also,
            output_true_cons _ also]
        | false =>
          have kept : ¬ collapses d := Bool.eq_false_iff.mp (isBlank_eq_collapses second ▸ also)
          rw [if_neg kept, output_cons_of_shown _ also, output_cons_of_shown _ also]

omit prose in
/-- What a text ends with says whether a space is to be dropped behind it. -/
theorem dropsBehind_traced (drops : Bool) :
    dropsBehind drops (traced .shown t) =
      ((output drops (traced .shown t)).getLast?.map (· == ' ')).getD drops := by
  induction t generalizing drops with
  | nil => rfl
  | cons c t ih =>
    have behind : traced .shown (c :: t) = (c, .shown) :: traced .shown t := rfl
    have step : dropsBehind drops (traced .shown (c :: t)) =
        dropsBehind (Text.isBlank c) (traced .shown t) := rfl
    rw [step, ih, behind]
    cases blank : Text.isBlank c with
    | false =>
      have solid : c ≠ ' ' := by
        rintro rfl
        exact Bool.noConfusion blank
      rw [output_cons_of_shown _ blank, List.getLast?_cons]
      cases (output false (traced .shown t)).getLast? <;> simp [solid]
    | true =>
      cases drops with
      | true => rw [output_true_cons _ blank]
      | false =>
        rw [output_cons_shown _ blank, List.getLast?_cons]
        cases (output true (traced .shown t)).getLast? <;> simp

end ProseText

/-! ## What is written for the nodes -/

/-- What is written for some characters, but for the marks of emphasis. -/
structure Writes (ms : List Traced) (pen : Pen) (written : Text × Pen) : Prop where
  oneLine : '\n' ∉ written.1
  shown : unmarked written.1 = output pen.dropsSpace ms
  behind : written.2 = pen.dropping (dropsBehind pen.dropsSpace ms)
  blank : (∀ m ∈ ms, Text.isBlank m.1) → ∀ c ∈ written.1, Text.isBlank c

namespace Writes

variable {ms others : List Traced} {pen : Pen} {t u : Text} {next last : Pen}

theorem nil (pen : Pen) : Writes [] pen ([], pen) where
  oneLine := List.not_mem_nil
  shown := rfl
  behind := rfl
  blank _ := List.forall_mem_nil _

theorem append (first : Writes ms pen (t, next)) (second : Writes others next (u, last)) :
    Writes (ms ++ others) pen (t ++ u, last) := by
  have behind : next = pen.dropping (dropsBehind pen.dropsSpace ms) := first.behind
  have drops : next.dropsSpace = dropsBehind pen.dropsSpace ms := by rw [behind]; rfl
  refine ⟨?_, ?_, ?_, fun blank => ?_⟩
  · exact List.not_mem_append first.oneLine second.oneLine
  · rw [unmarked_append, first.shown, second.shown, drops, output_append]
  · rw [second.behind, drops, dropsBehind_append, behind]
    rfl
  · exact List.forall_mem_append.mpr
      ⟨first.blank fun m member => blank m (List.mem_append_left _ member),
        second.blank fun m member => blank m (List.mem_append_right _ member)⟩

/-- White space that is not looked at is not written and changes nothing. -/
theorem dropped {t : Text} (blank : ∀ c ∈ t, Text.isBlank c) (pen : Pen) :
    Writes (traced .dropped t) pen ([], pen) := by
  have skipped (drops : Bool) : output drops (traced .dropped t) = [] ∧
      dropsBehind drops (traced .dropped t) = drops := by
    induction t with
    | nil => exact ⟨rfl, rfl⟩
    | cons c t ih =>
      obtain ⟨nothing, same⟩ := ih fun d member => blank d (.tail c member)
      have first : Text.isBlank c := blank c List.mem_cons_self
      have step : dropsBehind drops (traced .dropped (c :: t)) =
          dropsBehind (Text.isBlank c && drops) (traced .dropped t) := rfl
      refine ⟨(output_cons_dropped _ first drops).trans nothing, ?_⟩
      rw [step, first, Bool.true_and, same]
  exact ⟨List.not_mem_nil, (skipped pen.dropsSpace).1.symm, by rw [(skipped pen.dropsSpace).2]; rfl,
    fun _ => List.forall_mem_nil _⟩

theorem text {t : Text} (prose : t.all isProseChar) (pen : Pen) :
    Writes (traced .shown t) pen (writeText t pen) := by
  have lettered := isLettered_output prose pen.dropsSpace .shown
  have behind := dropsBehind_traced (t := t) pen.dropsSpace
  have collapsed : (if pen.dropsSpace then (collapse t).dropWhile (· == ' ') else collapse t) =
      output pen.dropsSpace (traced .shown t) := by
    rw [collapse_eq_output prose]
    cases pen.dropsSpace with
    | true => exact dropWhile_output_false _
    | false => rfl
  have blank : (∀ m ∈ traced .shown t, Text.isBlank m.1) →
      ∀ c ∈ output pen.dropsSpace (traced .shown t), Text.isBlank c := by
    intro all c member
    rcases mem_output member with rfl | ⟨letter, inside⟩
    · rfl
    · obtain ⟨m, among, rfl⟩ := List.mem_map.mp inside
      exact all m among
  have oneLine : '\n' ∉ output pen.dropsSpace (traced .shown t) := fun member =>
    lettered.ne member rfl (by decide) rfl
  simp only [writeText, collapsed]
  split
  next empty =>
    rw [List.isEmpty_iff] at empty
    rw [empty] at behind
    refine ⟨List.not_mem_nil, empty.symm, ?_, fun _ => List.forall_mem_nil _⟩
    rw [behind]
    rfl
  next some =>
    rw [lettered.escape_eq, lettered.escaping_eq]
    refine ⟨oneLine, lettered.unmarked_eq, ?_, blank⟩
    rw [behind]
    cases last : (output pen.dropsSpace (traced .shown t)).getLast? with
    | none => exact absurd (List.isEmpty_iff.mpr (List.getLast?_eq_none_iff.mp last)) some
    | some c => rfl

/-- In an element that is not written, white space still collapses. -/
theorem swallowed (blank : ∀ m ∈ ms, Text.isBlank m.1) (drops : Bool) :
    output drops (ms.map Traced.swallowed) = [] ∧
      dropsBehind drops (ms.map Traced.swallowed) = dropsBehind drops ms := by
  induction ms generalizing drops with
  | nil => exact ⟨rfl, rfl⟩
  | cons m ms ih =>
    obtain ⟨c, fate⟩ := m
    have first : Text.isBlank c := blank (c, fate) List.mem_cons_self
    have others := ih fun other member => blank other (.tail _ member)
    have step : dropsBehind drops ((c, fate) :: ms) =
        dropsBehind (Traced.drops drops (c, fate)) ms := rfl
    have swallow : dropsBehind drops (((c, fate) :: ms).map Traced.swallowed) =
        dropsBehind (Traced.drops drops (Traced.swallowed (c, fate)))
          (ms.map Traced.swallowed) := rfl
    rw [swallow, step, (others _).2]
    cases fate with
    | dropped => exact ⟨(output_cons_dropped _ first _).trans (others _).1, rfl⟩
    | swallowed => exact ⟨(output_cons_swallowed _ first _).trans (others _).1, rfl⟩
    | shown => exact ⟨(output_cons_swallowed _ first _).trans (others _).1, rfl⟩

/-- Where there is a letter, something is shown. -/
theorem not_isAllBlank (writes : Writes ms pen (t, next))
    (letter : ¬ ∀ m ∈ ms, Text.isBlank m.1) : Text.isAllBlank t = false := by
  rw [Bool.eq_false_iff]
  intro blank
  have letters := filter_output pen.dropsSpace ms
  have none : (output pen.dropsSpace ms).filter (!Text.isBlank ·) = [] := by
    rw [← writes.shown, List.filter_eq_nil_iff]
    intro c member
    simp [List.all_eq_true.mp blank c (List.mem_of_mem_filter member)]
  refine letter fun m member => ?_
  rw [none, eq_comm, List.filter_eq_nil_iff] at letters
  simpa using letters m.1 (List.mem_map_of_mem member)

theorem delimit (writes : Writes ms pen (t, next)) {delimiter : Text}
    (marks : ∀ c ∈ delimiter, isEmphasisMark c) :
    Writes (if ∀ m ∈ ms, Text.isBlank m.1 then ms.map Traced.swallowed else ms) pen
      (Serialize.delimit t delimiter, next) := by
  split
  next blank =>
    have nothing : Serialize.delimit t delimiter = [] :=
      if_pos (List.all_eq_true.mpr (writes.blank blank))
    obtain ⟨silent, same⟩ := swallowed blank pen.dropsSpace
    rw [nothing]
    refine ⟨List.not_mem_nil, silent.symm, ?_, fun _ => List.forall_mem_nil _⟩
    rw [same]
    exact writes.behind
  next letter =>
    obtain ⟨front, back, _, _, whole, delimited⟩ :=
      exists_delimit (writes.not_isAllBlank letter) delimiter
    have bare : unmarked delimiter = [] := by
      rw [unmarked, List.filter_eq_nil_iff]
      intro c member
      simp [marks c member]
    have noFeed : '\n' ∉ delimiter := fun member => absurd (marks '\n' member) (by decide)
    have oneLine : '\n' ∉ front ++ Text.trim t ++ back := whole ▸ writes.oneLine
    have shown : unmarked (front ++ Text.trim t ++ back) = output pen.dropsSpace ms :=
      whole ▸ writes.shown
    rw [delimited]
    refine ⟨?_, ?_, writes.behind, fun blank => absurd blank letter⟩
    · simpa [noFeed] using oneLine
    · simpa [unmarked_append, bare] using shown

end Writes

/-- On one line nothing happens at a seam. -/
theorem join_of_oneLine {out piece : Text} (front : '\n' ∉ out) (back : '\n' ∉ piece) :
    join out piece = out ++ piece := by
  rcases eq_or_ne piece [] with rfl | nonempty
  · rw [join_nil_right, List.append_nil]
  · have bare : piece.dropWhile (· == '\n') = piece :=
      Text.trimStartBy_eq_self_iff.mpr fun c first =>
        beq_eq_false_iff_ne.mpr fun feed => back (feed ▸ List.mem_of_mem_head? first)
    have kept : Text.trimEndBy (· == '\n') out = out :=
      Text.trimEndBy_eq_self_iff.mpr fun c last =>
        beq_eq_false_iff_ne.mpr fun feed => front (feed ▸ List.mem_of_getLast? last)
    have joined := join_feeds (n := 0) bare nonempty out
    rwa [seam, kept, Nat.sub_self, if_pos ⟨rfl, rfl⟩] at joined

theorem isBlockNode_of_isProse {n : Node} (prose : isProse n) : isBlockNode n = false := by
  cases n with
  | text t => rfl
  | comment t => exact absurd prose Bool.false_ne_true
  | element tag attributes content =>
    have known := (Bool.and_eq_true_iff.mp prose).1
    simp only [isProseTag, Bool.or_eq_true, Bool.and_eq_true, beq_iff_eq] at known
    rcases known with ((rfl | rfl) | rfl) | ⟨rfl, _⟩ <;> rfl

/-- Among prose, a node is followed by a block only if it is the last one. -/
theorem all_isBlockNode_eq_isEmpty {nodes : List Node} (prose : areProse nodes) :
    nodes.head?.all isBlockNode = nodes.isEmpty := by
  cases nodes with
  | nil => rfl
  | cons n rest => exact isBlockNode_of_isProse (Bool.and_eq_true_iff.mp prose).1

/-- An element that is not written without letters, in terms of the characters in it. -/
theorem trace_of_vanishes {tag : String} (vanishing : vanishes tag) (attributes : List Attribute)
    (content : List Node) :
    trace (.element tag attributes content) =
      if ∀ m ∈ traceAll true content, Text.isBlank m.1 then
        (traceAll true content).map Traced.swallowed
      else traceAll true content := by
  have blank : (vanishes tag && Text.isAllBlank (Node.textContents content)) ↔
      ∀ m ∈ traceAll true content, Text.isBlank m.1 := by
    rw [vanishing, Bool.true_and, Text.isAllBlank, List.all_eq_true, ← map_fst_traceAll true,
      List.forall_mem_map]
  rw [trace, if_congr blank rfl rfl]

/-- A span that is no spoiler is written as its content. -/
theorem writeNode_span {attributes : List Attribute}
    (plain : Element.has ⟨"span", attributes⟩ "data-spoiler" = false) (options : SerializeOptions)
    (parent : String) (content : List Node) (pen : Pen) :
    writeNode options ElementRule.defaults parent (.element "span" attributes content) pen =
      writeChildren options ElementRule.defaults "span" true content pen [] := by
  have noRule :
      (ElementRule.defaults.find? fun rule => rule.applies ⟨"span", attributes⟩) = none := by
    simp [ElementRule.defaults, ElementRule.spoiler, ElementRule.affix, plain]
  rw [writeNode]
  simp only [noRule]
  rfl

/-- The delimiters of emphasis are made of its marks. -/
structure MarksEmphasis (options : SerializeOptions) : Prop where
  em : ∀ c ∈ options.emDelimiter, isEmphasisMark c
  strong : ∀ c ∈ options.strongDelimiter, isEmphasisMark c

theorem marksEmphasis_default : MarksEmphasis {} :=
  ⟨List.all_eq_true.mp rfl, List.all_eq_true.mp rfl⟩

section Nodes

variable {options : SerializeOptions}

mutual

theorem writes_writeNode (style : MarksEmphasis options) {n : Node} (prose : isProse n)
    (parent : String) (pen : Pen) :
    Writes (trace n) pen (writeNode options ElementRule.defaults parent n pen) := by
  cases n with
  | text t => exact Writes.text prose pen
  | comment t => exact absurd prose Bool.false_ne_true
  | element tag attributes content =>
    obtain ⟨known, inside⟩ := Bool.and_eq_true_iff.mp prose
    have nothing : '\n' ∉ ([] : Text) := List.not_mem_nil
    obtain ⟨written, whole, writes⟩ := writes_writeChildren style inside tag true pen nothing
    rw [List.nil_append] at whole
    have delimited (delimiter : Text) (marks : ∀ c ∈ delimiter, isEmphasisMark c)
        (vanishing : vanishes tag)
        (same : writeNode options ElementRule.defaults parent
            (.element tag attributes content) pen =
          (delimit (writeChildren options ElementRule.defaults tag true content pen []).1 delimiter,
            (writeChildren options ElementRule.defaults tag true content pen []).2)) :
        Writes (trace (.element tag attributes content)) pen
          (writeNode options ElementRule.defaults parent
            (.element tag attributes content) pen) := by
      rw [same, whole, trace_of_vanishes vanishing]
      exact writes.delimit marks
    simp only [isProseTag, Bool.or_eq_true, Bool.and_eq_true, beq_iff_eq] at known
    rcases known with ((rfl | rfl) | rfl) | ⟨rfl, plain⟩
    · exact delimited options.emDelimiter style.em rfl rfl
    · exact delimited options.strongDelimiter style.strong rfl rfl
    · exact delimited ['~', '~'] (List.all_eq_true.mp rfl) rfl rfl
    · rw [writeNode_span (by simpa using plain), whole]
      exact writes

theorem writes_writeChildren (style : MarksEmphasis options) {nodes : List Node}
    (prose : areProse nodes) (parent : String) (first : Bool) (pen : Pen) {out : Text}
    (oneLine : '\n' ∉ out) :
    ∃ written, writeChildren options ElementRule.defaults parent first nodes pen out =
        (out ++ written.1, written.2) ∧ Writes (traceAll first nodes) pen written := by
  cases nodes with
  | nil => exact ⟨([], pen), by rw [writeChildren, List.append_nil], Writes.nil pen⟩
  | cons n rest =>
    obtain ⟨head, others⟩ := Bool.and_eq_true_iff.mp prose
    rw [writeChildren, traceAll, all_isBlockNode_eq_isEmpty others]
    split
    next skipped =>
      obtain ⟨written, whole, writes⟩ := writes_writeChildren style others parent false pen oneLine
      cases n with
      | text t =>
        have blank : Text.isAllBlank t := (Bool.and_eq_true_iff.mp skipped).1
        exact ⟨written, whole, (Writes.dropped (List.all_eq_true.mp blank) pen).append writes⟩
      | comment t => exact absurd head Bool.false_ne_true
      | element tag attributes content => exact absurd skipped Bool.false_ne_true
    next =>
      have piece := writes_writeNode style head parent pen
      obtain ⟨written, whole, writes⟩ := writes_writeChildren style others parent false
        (writeNode options ElementRule.defaults parent n pen).2
        (List.not_mem_append oneLine piece.oneLine)
      refine ⟨_, ?_, piece.append writes⟩
      rw [isBlockNode_of_isProse head]
      dsimp only
      rw [join_of_oneLine oneLine piece.oneLine, whole, List.append_assoc]

end

end Nodes

/-! ## The document -/

/-- White space at the ends of a text has no words. -/
theorem words_unmarked_padded {front back : Text} (before : ∀ c ∈ front, Text.isBlank c)
    (behind : ∀ c ∈ back, Text.isBlank c) (t : Text) :
    Text.words (unmarked (front ++ t ++ back)) = Text.words (unmarked t) := by
  have first : ∀ c ∈ unmarked front, Text.isBlank c := fun c member =>
    before c (List.mem_of_mem_filter member)
  have last : ∀ c ∈ unmarked back, Text.isBlank c := fun c member =>
    behind c (List.mem_of_mem_filter member)
  rw [unmarked_append, unmarked_append, Text.words_append_of_blank last,
    Text.words_blank_append first]

theorem words_unmarked_trimBy {p : Char → Bool} (blank : ∀ c, p c → Text.isBlank c) (t : Text) :
    Text.words (unmarked (Text.trimBy p t)) = Text.words (unmarked t) := by
  obtain ⟨front, back, before, behind, whole⟩ := Text.exists_append_trimBy_append p t
  conv_rhs => rw [whole]
  exact (words_unmarked_padded (fun c member => blank c (before c member))
    (fun c member => blank c (behind c member)) _).symm

theorem words_unmarked_block (t : Text) :
    Text.words (unmarked (block t)) = Text.words (unmarked t) := by
  have feeds : ∀ c ∈ ['\n', '\n'], Text.isBlank c := List.all_eq_true.mp rfl
  exact words_unmarked_padded feeds feeds t

theorem words_unmarked_join_nil (t : Text) :
    Text.words (unmarked (join [] t)) = Text.words (unmarked t) := by
  obtain ⟨n, body, rfl, bare⟩ := exists_feeds t
  rcases eq_or_ne (Text.rep n '\n' ++ body) [] with none | nonempty
  · rw [none, join_nil_right]
  · have blank : ∀ c ∈ seam [] n, Text.isBlank c := by
      rcases Nat.eq_zero_or_pos n with rfl | feeds
      · exact List.forall_mem_nil _
      · intro c member
        have seamed : seam [] n = Text.rep (min 2 (max 0 n)) '\n' := by
          rw [seam, if_neg (by simp; omega), if_pos feeds]
          rfl
        exact blank_of_mem_rep c (seamed ▸ member)
    have padded {front : Text} (blank : ∀ c ∈ front, Text.isBlank c) :
        Text.words (unmarked (front ++ body)) = Text.words (unmarked body) := by
      have nothing : ∀ c ∈ ([] : Text), Text.isBlank c := List.forall_mem_nil _
      have ends := words_unmarked_padded blank nothing body
      rwa [List.append_nil] at ends
    rw [join_feeds bare nonempty, padded blank, padded blank_of_mem_rep]

theorem words_writeDocument_paragraph {options : SerializeOptions} (style : MarksEmphasis options)
    {content : List Node} (prose : areProse content) (attributes : List Attribute) :
    Text.words (unmarked (writeDocument options ElementRule.defaults
        (bodyDocument [.element "p" attributes content]))) =
      Text.words (output true (traceAll true content)) := by
  have nothing : '\n' ∉ ([] : Text) := List.not_mem_nil
  obtain ⟨written, whole, writes⟩ :=
    writes_writeChildren style prose "p" true ⟨true, false⟩ nothing
  have document : writeDocument options ElementRule.defaults
      (bodyDocument [.element "p" attributes content]) =
        Text.trimBy isOuter (join [] (join [] (join [] (block (Text.trim
          (writeChildren options ElementRule.defaults "p" true content
            ⟨true, false⟩ []).1))))) := by
    rfl
  rw [document, whole, words_unmarked_trimBy blank_of_isOuter, words_unmarked_join_nil,
    words_unmarked_join_nil, words_unmarked_join_nil, words_unmarked_block,
    words_unmarked_trimBy fun _ blank => blank, List.nil_append, writes.shown]

end Serialize

open Serialize
open Html (Node Attribute)

/-- **Words next to emphasis.**  A paragraph of letters, white space, emphasis, deleted text and
spans keeps all its letters in order.  Without the marks of emphasis its words are those of the text
iff every gap between words is kept: the first white space in it that is looked at is written. -/
theorem words_writeDocument_paragraph_iff {options : SerializeOptions}
    (style : MarksEmphasis options) {content : List Node} (prose : areProse content)
    (attributes : List Attribute) :
    (Text.words (unmarked (writeDocument options ElementRule.defaults
        (bodyDocument [.element "p" attributes content])))).flatten =
        (Text.words (Node.textContents content)).flatten ∧
      (Text.words (unmarked (writeDocument options ElementRule.defaults
          (bodyDocument [.element "p" attributes content]))) =
          Text.words (Node.textContents content) ↔
        ∀ gap ∈ gaps (traceAll true content), Separates gap) := by
  have characters := map_fst_traceAll true content
  rw [words_writeDocument_paragraph style prose attributes, ← characters]
  refine ⟨?_, words_output_iff _⟩
  rw [Text.flatten_words, Text.flatten_words, filter_output]

/-- The gaps are kept where the white space is inside the innermost element or outside of all. -/
theorem words_writeDocument_paragraph_iff_of_nested :
    let content := [.text "one ".toList, .element "em" []
      [.text "two".toList, .element "strong" [] [.text " three ".toList]], .text "four".toList]
    MarksEmphasis {} ∧ areProse content ∧ (∀ gap ∈ gaps (traceAll true content), Separates gap) ∧
      Text.words (unmarked (writeDocument {} ElementRule.defaults
        (bodyDocument [.element "p" [] content]))) =
          ["one".toList, "two".toList, "three".toList, "four".toList] := by
  intro content
  have prose : areProse content := by decide +kernel
  have kept : ∀ gap ∈ gaps (traceAll true content), Separates gap := by decide +kernel
  refine ⟨marksEmphasis_default, prose, kept, ?_⟩
  rw [(words_writeDocument_paragraph_iff marksEmphasis_default prose []).2.mpr kept]
  decide +kernel

/-- A gap of nothing but the only text of an element is lost. -/
theorem words_writeDocument_paragraph_runs_together :
    let content := [.text "a".toList, .element "em" [] [.text " ".toList], .text "b".toList]
    areProse content ∧ Text.words (Node.textContents content) = ["a".toList, "b".toList] ∧
      Text.words (unmarked (writeDocument {} ElementRule.defaults
        (bodyDocument [.element "p" [] content]))) = ["ab".toList] := by
  decide +kernel

end MarkdownDialects
