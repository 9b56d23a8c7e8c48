import MarkdownDialects.Text.Utf8

/-!
# Percent encoding

A percent sign and two hexadecimal digits stand for a byte.  Decoding a text reads every such form
and leaves all other characters alone; the answer counts only if the bytes are valid UTF-8.
-/

namespace MarkdownDialects

namespace Percent

/-- The value of a hexadecimal digit. -/
def hexValue? (c : Char) : Option Nat :=
  if c.isDigit then some (c.toNat - '0'.toNat)
  else if 'a' ≤ c && c ≤ 'f' then some (c.toNat - 'a'.toNat + 10)
  else if 'A' ≤ c && c ≤ 'F' then some (c.toNat - 'A'.toNat + 10)
  else none

/-- The byte that two hexadecimal digits stand for. -/
def byte? (high low : Char) : Option UInt8 := do
  let h ← hexValue? high
  let l ← hexValue? low
  some (UInt8.ofNat (16 * h + l))

/-- A character that stands for itself, or an encoded byte. -/
inductive Symbol where
  | char (c : Char)
  | byte (b : UInt8)
deriving DecidableEq

/-- The symbols of a text.  A percent sign without two digits stands for itself. -/
def symbols : Text → List Symbol
  | '%' :: h :: l :: rest =>
    match byte? h l with
    | some b => .byte b :: symbols rest
    | none => .char '%' :: symbols (h :: l :: rest)
  | c :: rest => .char c :: symbols rest
  | [] => []

/-- The text that symbols stand for.  `run` holds, in reverse, the encoded bytes just read: no
character is written partly as itself and partly as bytes, so each run is decoded by itself. -/
def join? : List UInt8 → List Symbol → Option Text
  | run, [] => Utf8.decode? run.reverse
  | run, .byte b :: rest => join? (b :: run) rest
  | run, .char c :: rest => do
    let front ← Utf8.decode? run.reverse
    let back ← join? [] rest
    some (front ++ c :: back)

/-- A text with its percent forms decoded, or the text itself if that is not valid UTF-8. -/
def decode (t : Text) : Text := (join? [] (symbols t)).getD t

end Percent

end MarkdownDialects
