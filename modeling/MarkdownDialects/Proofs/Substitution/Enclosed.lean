import MarkdownDialects.Proofs.Substitution.Scan
import MarkdownDialects.Substitution.Marker

/-!
# Text between marks

What a search for text between two marks finds, and that two pairs of marks can be exchanged there
and back.  Replacing one pair by another and then the other by the first gives the text back
(`Marker.replaceAll_enclose_cancel`), provided that the text does not contain the marks that are put
in, and that these begin with a character they do not repeat: then they cannot be found across the
seam between themselves and the text around them.  Where the same mark opens and closes, one
exchange is enough: no text between two of these marks is left
(`Marker.enclosed_exchanged_eq_none`).
-/

namespace MarkdownDialects

namespace Marker

/-- What a group captured, between two marks. -/
def enclose (opening closing : Text) (m : Match) : Text := opening ++ m.group 1 ++ closing

/-- The match of a text between two marks. -/
def enclosure (opening payload closing : Text) : Match :=
  ⟨opening ++ payload ++ closing, [payload]⟩

section Enclosed

variable {opening closing : Text}

/-- A match holds the payload between the two marks, and it is where the text begins. -/
theorem enclosed_eq_some {before : Option Char} {t : Text} {m : Match} (shown : closing ≠ [])
    (found : enclosed opening closing before t = some m) :
    ∃ payload rest, m = enclosure opening payload closing ∧ m.whole ++ rest = t := by
  obtain ⟨inside, opened, found⟩ := Option.bind_eq_some_iff.mp found
  obtain ⟨⟨payload, rest⟩, closed, found⟩ := Option.bind_eq_some_iff.mp found
  obtain rfl := Option.some.inj found
  refine ⟨payload, rest, rfl, ?_⟩
  rw [← Text.after?_eq_some_iff.mp opened, ((Text.cutAt?_eq_some_iff shown).mp closed).1]
  simp only [List.append_assoc]

theorem enclosed_proper (opens : opening ≠ []) (closes : closing ≠ []) :
    Pattern.Proper (enclosed opening closing) := by
  intro before t m found
  obtain ⟨payload, rest, rfl, whole⟩ := enclosed_eq_some closes found
  refine ⟨?_, rest, whole⟩
  simp [enclosure, opens]

theorem enclosed_opens (opening closing : Text) :
    Pattern.Opens (enclosed opening closing) opening :=
  Pattern.opens_of_bind fun _ _ => rfl

/-- A payload without the closing mark is found between the two marks. -/
theorem enclosed_append {a : Char} {w : Text} (absent : a ∉ w) (before : Option Char)
    {payload : Text} (rest : Text) (missing : ¬ a :: w <:+: payload) :
    enclosed opening (a :: w) before ((enclosure opening payload (a :: w)).whole ++ rest) =
      some (enclosure opening payload (a :: w)) := by
  have inside : Text.after? opening ((enclosure opening payload (a :: w)).whole ++ rest) =
      some (payload ++ (a :: w) ++ rest) := by
    simp only [enclosure, List.append_assoc, Text.after?_append]
  unfold enclosed
  rw [inside, Option.bind_eq_bind, Option.bind_some, Text.cutAt?_append absent rest missing]
  rfl

/-- Nothing is found where a text does not open, or does not close behind what opens it. -/
theorem enclosed_eq_none_iff (closes : closing ≠ []) {before : Option Char} {t : Text} :
    enclosed opening closing before t = none ↔
      ∀ inside, opening ++ inside = t → ¬ closing <:+: inside := by
  unfold enclosed
  constructor
  · rintro missing inside rfl
    rw [Text.after?_append, Option.bind_eq_bind, Option.bind_some] at missing
    rw [← Text.cutAt?_eq_none_iff closes, Option.eq_none_iff_forall_ne_some]
    intro cut found
    simp [found] at missing
  · intro missing
    cases opened : Text.after? opening t with
    | none => rfl
    | some inside =>
      have unclosed := missing inside (Text.after?_eq_some_iff.mp opened)
      rw [Option.bind_eq_bind, Option.bind_some, Text.cutAt?_eq_none closes unclosed]
      rfl

/-- The payload of a match is the shortest: it does not close before its end. -/
theorem not_isInfix_group_of_enclosed (closes : closing ≠ []) {before : Option Char} {t : Text}
    {m : Match} (found : enclosed opening closing before t = some m) :
    ¬ closing <:+: m.group 1 := by
  obtain ⟨inside, opened, found⟩ := Option.bind_eq_some_iff.mp found
  obtain ⟨⟨payload, rest⟩, closed, found⟩ := Option.bind_eq_some_iff.mp found
  obtain rfl := Option.some.inj found
  obtain ⟨_, first⟩ := (Text.cutAt?_eq_some_iff closes).mp closed
  intro within
  obtain ⟨s, front, back⟩ := List.infix_iff_prefix_suffix.mp within
  refine first s back ?_ (front.trans ?_)
  · rintro rfl
    exact closes (List.prefix_nil.mp front)
  · rw [List.append_assoc]
    exact List.prefix_append _ _

end Enclosed

/-- A piece with other marks around what it captured. -/
def exchanged (opening closing : Text) : Piece → Piece
  | .kept c => .kept c
  | .hit m => .hit (enclosure opening (m.group 1) closing)

theorem source_exchanged (opening closing : Text) (piece : Piece) :
    (exchanged opening closing piece).source = piece.output (enclose opening closing) := by
  cases piece <;> rfl

section Exchange

variable {opening closing : Text} {a : Char} {u v : Text}

/-- After an exchange of marks, the search for the new marks finds what was exchanged and nothing
else. -/
theorem scanned_exchanged (closes : closing ≠ []) (openOnce : a ∉ u) (closeOnce : a ∉ v)
    {before : Option Char} {pieces : List Piece}
    (scanned : Pattern.Scanned (enclosed opening closing) before pieces)
    (noOpening : ¬ a :: u <:+: pieces.flatMap Piece.source)
    (noClosing : ¬ a :: v <:+: pieces.flatMap Piece.source) (other : Option Char) :
    Pattern.Scanned (enclosed (a :: u) (a :: v)) other
      (pieces.map (exchanged (a :: u) (a :: v))) := by
  have replaced (rest : List Piece) :
      (rest.map (exchanged (a :: u) (a :: v))).flatMap Piece.source =
        rest.flatMap (Piece.output (enclose (a :: u) (a :: v))) := by
    rw [List.flatMap_map]
    exact congrArg (rest.flatMap ·) (funext (source_exchanged _ _))
  induction scanned generalizing other with
  | nil silent =>
    refine .nil (enclosed_opens _ _ ?_)
    exact fun found => List.cons_ne_nil a u (List.prefix_nil.mp found)
  | @kept _ c rest silent _ ih =>
    have within : rest.flatMap Piece.source <:+: (Piece.kept c :: rest).flatMap Piece.source :=
      (List.suffix_cons c _).isInfix
    refine .kept (enclosed_opens _ _ ?_) (ih (fun found => noOpening (found.trans within))
      (fun found => noClosing (found.trans within)) (some c))
    intro found
    rw [replaced] at found
    obtain ⟨rfl, behind⟩ := List.cons_prefix_cons.mp found
    have stood : u <+: rest.flatMap Piece.source :=
      Piece.isPrefix_source_of_isPrefix_output openOnce (fun m => ⟨_, rfl⟩) behind
    exact noOpening (List.cons_prefix_cons.mpr ⟨rfl, stood⟩).isInfix
  | @hit _ m rest nonempty found _ ih =>
    have within : rest.flatMap Piece.source <:+: (Piece.hit m :: rest).flatMap Piece.source :=
      (List.suffix_append m.whole _).isInfix
    obtain ⟨payload, _, rfl, _⟩ := enclosed_eq_some closes found
    have clean : ¬ a :: v <:+: payload := by
      intro inside
      apply noClosing
      refine inside.trans ⟨opening, closing ++ rest.flatMap Piece.source, ?_⟩
      simp only [List.flatMap_cons, Piece.source, enclosure, List.append_assoc]
    exact .hit (List.cons_ne_nil _ _) (enclosed_append closeOnce other _ clean)
      (ih (fun found => noOpening (found.trans within))
        (fun found => noClosing (found.trans within)) _)

/-- **Exchanging marks there and back gives the text back.** -/
theorem replaceAll_enclose_cancel (opens : opening ≠ []) (closes : closing ≠ [])
    (openOnce : a ∉ u) (closeOnce : a ∉ v) {t : Text} (noOpening : ¬ a :: u <:+: t)
    (noClosing : ¬ a :: v <:+: t) :
    (enclosed (a :: u) (a :: v)).replaceAll (enclose opening closing)
      ((enclosed opening closing).replaceAll (enclose (a :: u) (a :: v)) t) = t := by
  obtain ⟨scanned, covers⟩ :=
    Pattern.scanned_scanFrom (enclosed_proper opens closes) none t
  rw [Pattern.replaceAll_eq_flatMap t, Pattern.scan]
  generalize Pattern.scanFrom (enclosed opening closing) none 0 t = pieces at scanned covers ⊢
  subst covers
  have again := (scanned_exchanged closes openOnce closeOnce scanned noOpening noClosing
    none).scanFrom_eq
  have restored (piece : Piece) (member : piece ∈ pieces) :
      (exchanged (a :: u) (a :: v) piece).output (enclose opening closing) = piece.source := by
    cases piece with
    | kept c => rfl
    | hit m =>
      obtain ⟨_, _, found⟩ := scanned.exists_match member
      obtain ⟨payload, _, rfl, _⟩ := enclosed_eq_some closes found
      rfl
  simp only [List.flatMap_map, source_exchanged] at again
  rw [Pattern.replaceAll_eq_flatMap, Pattern.scan, again, List.flatMap_map]
  exact List.flatMap_congr restored

end Exchange

/-! ## What an exchange leaves -/

section Exhausted

variable {mark opening closing : Text}

/-- Behind a mark that nothing closes, nothing is found. -/
theorem flatMap_output_of_unclosed {before : Option Char} {pieces : List Piece} {w inside : Text}
    {f : Match → Text} (shown : mark ≠ [])
    (scanned : Pattern.Scanned (enclosed mark mark) before pieces) (short : w.length < mark.length)
    (covers : pieces.flatMap Piece.source = w ++ inside) (unclosed : ¬ mark <:+: inside) :
    pieces.flatMap (Piece.output f) = w ++ inside := by
  rw [Pattern.flatMap_output_of_kept, covers]
  intro m member
  obtain ⟨front, back, rfl⟩ := List.append_of_mem member
  obtain ⟨_, _, found⟩ := scanned.exists_match member
  obtain ⟨payload, _, rfl, _⟩ := enclosed_eq_some shown found
  -- The mark that closes the match stands behind a whole mark, so behind `w`.
  have split : (front.flatMap Piece.source ++ mark ++ payload) ++
      (mark ++ back.flatMap Piece.source) = w ++ inside := by
    rw [← covers]
    simp [Piece.source, enclosure]
  rcases List.append_eq_append_iff.mp split with ⟨more, rfl, _⟩ | ⟨more, _, rfl⟩
  · simp only [List.length_append] at short
    omega
  · exact unclosed ⟨more, _, List.append_assoc _ _ _⟩

variable (shown : mark ≠ []) (closes : closing ≠ []) (openApart : Text.Apart opening mark)
  (closeApart : Text.Apart closing mark)
include shown closes openApart closeApart

/-- No mark begins inside of marks of other characters. -/
theorem not_isPrefix_of_suffix_enclosure {payload s rest : Text} (clean : ¬ mark <:+: payload)
    (inside : s <:+ opening ++ payload ++ closing) (nonempty : s ≠ []) : ¬ mark <+: s ++ rest := by
  intro found
  obtain ⟨last, z, rfl⟩ := (List.eq_nil_or_concat' closing).resolve_left closes
  rw [Text.Apart, List.forall_mem_append, List.forall_mem_singleton] at closeApart
  rw [← List.append_assoc] at inside
  obtain ⟨front, rfl, before⟩ := (List.suffix_concat_iff.mp inside).resolve_left nonempty
  rw [List.append_assoc, List.singleton_append] at found
  have early : mark <:+: opening ++ payload ++ last :=
    (Text.isPrefix_of_isPrefix_append_cons closeApart.2 found).isInfix.trans before.isInfix
  exact clean (Text.isInfix_of_isInfix_append_left shown openApart
    (Text.isInfix_of_isInfix_append_right shown closeApart.1 early))

/-- **Nothing is left between equal marks.**  Once every text between two equal marks stands between
marks of other characters, there is no text between two of the first marks. -/
theorem enclosed_exchanged_eq_none (opens : opening ≠ []) {before : Option Char}
    {pieces : List Piece} (scanned : Pattern.Scanned (enclosed mark mark) before pieces)
    (other : Option Char) {s : Text}
    (inside : s <:+ pieces.flatMap (Piece.output (enclose opening closing))) :
    enclosed mark mark other s = none := by
  induction scanned with
  | nil silent =>
    rw [List.suffix_nil.mp inside]
    exact enclosed_opens mark mark fun found => shown (List.prefix_nil.mp found)
  | @kept _ c rest silent tail ih =>
    rcases List.suffix_cons_iff.mp inside with rfl | later
    · obtain ⟨a, w, rfl⟩ := List.exists_cons_of_ne_nil shown
      obtain ⟨o, opened, rfl⟩ := List.exists_cons_of_ne_nil opens
      rw [enclosed_eq_none_iff shown] at silent ⊢
      intro behind whole
      obtain ⟨rfl, written⟩ := List.cons.inj whole
      -- The rest of a mark stood there before, since no replacement begins inside of it.
      have noOpening : o ∉ w := fun member =>
        openApart o List.mem_cons_self (List.mem_cons_of_mem a member)
      obtain ⟨unread, covers⟩ := Piece.isPrefix_source_of_isPrefix_output noOpening
        (fun m => ⟨_, rfl⟩) ⟨behind, written⟩
      have unclosed := silent unread (by rw [← covers]; rfl)
      have same : rest.flatMap (Piece.output (enclose (o :: opened) closing)) = w ++ unread :=
        flatMap_output_of_unclosed shown tail (by simp) covers.symm unclosed
      rwa [List.append_cancel_left (written.trans same)]
    · exact ih later
  | @hit _ m rest nonempty found tail ih =>
    rcases Text.isSuffix_append_iff.mp inside with later | ⟨u, within, rfl⟩
    · exact ih later
    · rcases eq_or_ne u [] with rfl | proper
      · exact ih List.suffix_rfl
      · exact enclosed_opens mark mark (not_isPrefix_of_suffix_enclosure shown closes openApart
          closeApart (not_isInfix_group_of_enclosed shown found) within proper)

end Exhausted

end Marker

end MarkdownDialects
