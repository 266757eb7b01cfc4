import GuidAtlas.Text.Utf8

/-!
The little-endian UTF-16 form of text.
-/

namespace GuidAtlas.Text

def encodeUnits (c : Char) : List Nat :=
  let n := c.toNat
  if n < 0x10000 then [n]
  else [0xD800 + (n - 0x10000) / 1024, 0xDC00 + (n - 0x10000) % 1024]

def unitBytes (u : Nat) : List UInt8 := [(u % 256).toUInt8, (u / 256).toUInt8]

def encode16 (t : Text) : List UInt8 := (t.flatMap encodeUnits).flatMap unitBytes

/-- Pairs of bytes as units; a last single byte is dropped. -/
def units : List UInt8 → List Nat
  | low :: high :: bytes => (low.toNat + 256 * high.toNat) :: units bytes
  | _ => []

def isHighSurrogate (u : Nat) : Bool := 0xD800 ≤ u && u < 0xDC00

def isLowSurrogate (u : Nat) : Bool := 0xDC00 ≤ u && u < 0xE000

/-- Decodes after a high surrogate that is still alone, if there is one. -/
def decodeUnits : (high : Option Nat) → List Nat → Text
  | none, [] => []
  | some _, [] => [replacement]
  | none, u :: rest =>
    if isHighSurrogate u then decodeUnits (some u) rest
    else if isLowSurrogate u then replacement :: decodeUnits none rest
    else Char.ofNat u :: decodeUnits none rest
  | some high, u :: rest =>
    if isLowSurrogate u then
      Char.ofNat (0x10000 + (high - 0xD800) * 1024 + (u - 0xDC00)) :: decodeUnits none rest
    else if isHighSurrogate u then replacement :: decodeUnits (some u) rest
    else replacement :: Char.ofNat u :: decodeUnits none rest

def decode16 (bytes : List UInt8) : Text := decodeUnits none (units bytes)

end GuidAtlas.Text
