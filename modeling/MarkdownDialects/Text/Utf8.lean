import MarkdownDialects.Text.Basic

/-!
# UTF-8

Texts as bytes.  Decoding refuses overlong forms, surrogates, and values beyond the last code
point.
-/

namespace MarkdownDialects

namespace Utf8

/-- The bytes of a text. -/
def encode (t : Text) : List UInt8 := t.flatMap String.utf8EncodeChar

/-- The number of bytes of a text. -/
def size (t : Text) : Nat := t.foldl (fun n c => n + c.utf8Size) 0

/-- The payload of a continuation byte. -/
def continuation? (b : UInt8) : Option Nat :=
  if 0x80 ≤ b && b ≤ 0xBF then some (b.toNat - 0x80) else none

/-- The character of a code point, if it is one and is at least `low`. -/
def char? (low n : Nat) : Option Char :=
  if h : low ≤ n ∧ n.isValidChar then some (Char.ofNatAux n h.2) else none

/-- The text that bytes stand for, if they are valid. -/
def decode? : List UInt8 → Option Text
  | [] => some []
  | b :: rest =>
    if b ≤ 0x7F then do
      let t ← decode? rest
      some (Char.ofNat b.toNat :: t)
    else if 0xC0 ≤ b && b ≤ 0xDF then
      match rest with
      | b₁ :: rest => do
        let x ← continuation? b₁
        let c ← char? 0x80 ((b.toNat - 0xC0) * 64 + x)
        let t ← decode? rest
        some (c :: t)
      | _ => none
    else if 0xE0 ≤ b && b ≤ 0xEF then
      match rest with
      | b₁ :: b₂ :: rest => do
        let x ← continuation? b₁
        let y ← continuation? b₂
        let c ← char? 0x800 (((b.toNat - 0xE0) * 64 + x) * 64 + y)
        let t ← decode? rest
        some (c :: t)
      | _ => none
    else if 0xF0 ≤ b && b ≤ 0xF7 then
      match rest with
      | b₁ :: b₂ :: b₃ :: rest => do
        let x ← continuation? b₁
        let y ← continuation? b₂
        let z ← continuation? b₃
        let c ← char? 0x10000 ((((b.toNat - 0xF0) * 64 + x) * 64 + y) * 64 + z)
        let t ← decode? rest
        some (c :: t)
      | _ => none
    else none

end Utf8

end MarkdownDialects
