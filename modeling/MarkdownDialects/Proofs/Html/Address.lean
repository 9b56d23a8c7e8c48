import MarkdownDialects.Html.Escape
import MarkdownDialects.Proofs.Text.Percent

/-!
# Addresses that are read back

A space in an address is written in percent encoding.  An address of spaces and of characters that
stand for themselves is therefore what its percent encoding decodes to
(`Percent.decode_escapeAddress`).
-/

namespace MarkdownDialects

namespace Percent

theorem symbols_cons {c : Char} (other : c ≠ '%') (rest : Text) :
    symbols (c :: rest) = .char c :: symbols rest := by
  rw [symbols]
  exact fun _ _ _ same => absurd same other

/-- What stands in an address for a character. -/
def addressSymbol (c : Char) : Symbol := if c = ' ' then .byte 0x20 else .char c

/-- A space, or a character that stands for itself in an address and opens no percent form. -/
def IsReadable (c : Char) : Prop := c = ' ' ∨ Html.isAddressChar c ∧ c ≠ '%'

/-- An address adds no characters but those of the percent form of a space. -/
theorem not_mem_escapeAddress {t : Text} (readable : ∀ c ∈ t, IsReadable c) {c : Char}
    (absent : c ∉ t) (other : c ∉ "%20".toList) : c ∉ Html.escapeAddress t := by
  intro member
  obtain ⟨d, inside, within⟩ := List.mem_flatMap.mp member
  rcases readable d inside with rfl | ⟨plain, _⟩
  · exact other within
  · rw [Html.escapeAddressChar, if_pos plain, List.mem_singleton] at within
    exact absent (within ▸ inside)

theorem space_not_mem_escapeAddress {t : Text} (readable : ∀ c ∈ t, IsReadable c) :
    ' ' ∉ Html.escapeAddress t := by
  intro member
  obtain ⟨d, inside, within⟩ := List.mem_flatMap.mp member
  rcases readable d inside with rfl | ⟨plain, _⟩
  · exact absurd within (by decide)
  · rw [Html.escapeAddressChar, if_pos plain, List.mem_singleton] at within
    exact Bool.noConfusion (within ▸ plain)

theorem symbols_escapeAddress {t : Text} (readable : ∀ c ∈ t, IsReadable c) :
    symbols (Html.escapeAddress t) = t.map addressSymbol := by
  induction t with
  | nil => rfl
  | cons c t ih =>
    have others := ih fun d member => readable d (.tail c member)
    rw [Html.escapeAddress, List.flatMap_cons, ← Html.escapeAddress, List.map_cons, ← others]
    rcases readable c List.mem_cons_self with rfl | ⟨plain, noPercent⟩
    · rfl
    · have solid : c ≠ ' ' := by
        rintro rfl
        exact Bool.noConfusion plain
      rw [Html.escapeAddressChar, if_pos plain, addressSymbol, if_neg solid, List.singleton_append,
        symbols_cons noPercent]

theorem decode?_spaces (n : Nat) :
    Utf8.decode? (List.replicate n 0x20) = some (List.replicate n ' ') := by
  induction n with
  | zero => rfl
  | succ n ih =>
    have next (bytes : List UInt8) :
        Utf8.decode? (0x20 :: bytes) = (Utf8.decode? bytes).bind fun t => some (' ' :: t) := by
      rw [Utf8.decode?.eq_def]
      exact if_pos (by decide)
    rw [List.replicate_succ, next, ih]
    rfl

/-- The bytes in a run are the spaces that were read last. -/
theorem join?_addressSymbol (n : Nat) (t : Text) :
    join? (List.replicate n 0x20) (t.map addressSymbol) = some (List.replicate n ' ' ++ t) := by
  -- A space makes the run longer, any other character ends it.
  induction t generalizing n with
  | nil => rw [List.map_nil, join?, List.reverse_replicate, decode?_spaces, List.append_nil]
  | cons c t ih =>
    rw [List.map_cons, addressSymbol]
    split
    · rename_i space
      rw [join?, ← List.replicate_succ, ih, List.replicate_succ', List.append_assoc, space,
        List.singleton_append]
    · have others : join? [] (t.map addressSymbol) = some t := ih 0
      rw [join?, List.reverse_replicate, decode?_spaces, others]
      rfl

/-- **An address without percent signs is read back from its percent encoding.** -/
theorem decode_escapeAddress {t : Text} (readable : ∀ c ∈ t, IsReadable c) :
    decode (Html.escapeAddress t) = t := by
  have joined : join? [] (t.map addressSymbol) = some t := join?_addressSymbol 0 t
  rw [decode, symbols_escapeAddress readable, joined, Option.getD_some]

end Percent

end MarkdownDialects
