import GuidAtlas.Guid.Basic

/-!
GUIDs given by eleven numbers, as initializers of C structures list them.
-/

namespace GuidAtlas.Guid

open Text

def fieldBounds : List Nat :=
  [0x100000000, 0x10000, 0x10000, 0x100, 0x100, 0x100, 0x100, 0x100, 0x100, 0x100, 0x100]

/-- A decimal number, or a hexadecimal one after `0X`, in any case and with any suffix of `L`s. -/
def fieldNumber? (part : Text) : Option Nat :=
  let digits := trimEndOf (· = 'L') (upper (trim part))
  match afterStart? "0X" digits with
  | some hex => signedNumber? 16 hex
  | none => signedNumber? 10 digits

def fields? : (bounds : List Nat) → (parts : List Text) → Option (List Nat)
  | [], [] => some []
  | bound :: bounds, part :: parts => do
    let n ← fieldNumber? part
    if n < bound then (fields? bounds parts).map (n :: ·) else none
  | _, _ => none

def ofFields : List Nat → Text
  | l :: w₁ :: w₂ :: b₁ :: b₂ :: bytes =>
    hexFixed 8 l ++ '-' :: hexFixed 4 w₁ ++ '-' :: hexFixed 4 w₂ ++
      '-' :: hexFixed 2 b₁ ++ hexFixed 2 b₂ ++ '-' :: bytes.flatMap (hexFixed 2)
  | _ => []

def ofNumbers? (parts : List Text) : Option Text := (fields? fieldBounds parts).map ofFields

/-- Reads `{ l, w1, w2, { b1, .., b8 } }` anywhere in a text; only the two closing braces have to
stand together. -/
def ofInitializer? (t : Text) : Option Text := do
  let (head, _) ← cut? "\x7d\x7d" (t.filter fun c => !isBlank c)
  let body := head.dropWhile (· ≠ '{')
  if body.isEmpty then none else ofNumbers? (splitAt ',' (body.filter (· ≠ '{')))

end GuidAtlas.Guid
