import GuidAtlas.Text.Basic

/-!
The UTF-8 form of text. Decoding replaces each longest beginning of a character that goes wrong, or
each byte that begins none, by the replacement character.
-/

namespace GuidAtlas.Text

def encodeChar (c : Char) : List UInt8 :=
  let n := c.toNat
  if n < 0x80 then [n.toUInt8]
  else if n < 0x800 then [(0xC0 + n / 64).toUInt8, (0x80 + n % 64).toUInt8]
  else if n < 0x10000 then
    [(0xE0 + n / 4096).toUInt8, (0x80 + n / 64 % 64).toUInt8, (0x80 + n % 64).toUInt8]
  else
    [(0xF0 + n / 262144).toUInt8, (0x80 + n / 4096 % 64).toUInt8, (0x80 + n / 64 % 64).toUInt8,
      (0x80 + n % 64).toUInt8]

def encode (t : Text) : List UInt8 := t.flatMap encodeChar

/-- The kinds of bytes a multibyte character can begin with: how many bytes follow, and the bounds
of the first of them. -/
structure Lead where
  bits : Nat
  more : Nat
  low : Nat
  high : Nat

def lead? (b : UInt8) : Option Lead :=
  let n := b.toNat
  if 0xC2 ≤ n ∧ n ≤ 0xDF then some ⟨n - 0xC0, 1, 0x80, 0xBF⟩
  else if n = 0xE0 then some ⟨0, 2, 0xA0, 0xBF⟩
  else if n = 0xED then some ⟨0xD, 2, 0x80, 0x9F⟩
  else if 0xE1 ≤ n ∧ n ≤ 0xEF then some ⟨n - 0xE0, 2, 0x80, 0xBF⟩
  else if n = 0xF0 then some ⟨0, 3, 0x90, 0xBF⟩
  else if 0xF1 ≤ n ∧ n ≤ 0xF3 then some ⟨n - 0xF0, 3, 0x80, 0xBF⟩
  else if n = 0xF4 then some ⟨4, 3, 0x80, 0x8F⟩
  else none

def replacement : Char := '\uFFFD'

/-- Decoding inside a character: its bits so far, how many bytes are still to come and the bounds of
the next one. A `none` stands for a replaced sequence. -/
def decodeFrom : (pending : Option Lead) → List UInt8 → List (Option Char)
  | none, [] => []
  | some _, [] => [none]
  | none, b :: bytes =>
    if b.toNat < 0x80 then some (Char.ofNat b.toNat) :: decodeFrom none bytes
    else match lead? b with
      | some lead => decodeFrom (some lead) bytes
      | none => none :: decodeFrom none bytes
  | some lead, b :: bytes =>
    if lead.low ≤ b.toNat ∧ b.toNat ≤ lead.high then
      let bits := lead.bits * 64 + b.toNat % 64
      if lead.more ≤ 1 then some (Char.ofNat bits) :: decodeFrom none bytes
      else decodeFrom (some ⟨bits, lead.more - 1, 0x80, 0xBF⟩) bytes
    else if b.toNat < 0x80 then none :: some (Char.ofNat b.toNat) :: decodeFrom none bytes
    else match lead? b with
      | some next => none :: decodeFrom (some next) bytes
      | none => none :: none :: decodeFrom none bytes

def decodeLossy (bytes : List UInt8) : Text :=
  (decodeFrom none bytes).map (·.getD replacement)

def decode? (bytes : List UInt8) : Option Text := (decodeFrom none bytes).mapM id

end GuidAtlas.Text
