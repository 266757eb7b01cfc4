import GuidAtlas.Data.Json.Number

/-!
A reader of JSON text. Of several members with one key the last one counts, and values are nested in
each other to a limited depth.
-/

namespace GuidAtlas.Json

open Text

def isSpace (c : Char) : Bool := c = ' ' || c = '\t' || c = '\n' || c = '\r'

def skipSpace (t : Text) : Text := t.dropWhile isSpace

def hexUnit? (t : Text) : Option (Nat × Text) :=
  if t.length < 4 then none
  else if (t.take 4).all fun c => (digitValue? c).isSome then
    (number? 16 (t.take 4)).map (·, t.drop 4)
  else none

/-- The character of the escape after `\u`, which takes two units outside the basic plane. -/
def unicodeEscape? (t : Text) : Option (Char × Text) := do
  let (unit, t) ← hexUnit? t
  if 0xD800 ≤ unit ∧ unit < 0xDC00 then
    let t ← afterStart? "\\u" t
    let (low, t) ← hexUnit? t
    if 0xDC00 ≤ low ∧ low < 0xE000 then
      some (Char.ofNat (0x10000 + (unit - 0xD800) * 1024 + (low - 0xDC00)), t)
    else none
  else if 0xDC00 ≤ unit ∧ unit < 0xE000 then none
  else some (Char.ofNat unit, t)

def escapedChar? (c : Char) : Option Char :=
  ([('"', '"'), ('\\', '\\'), ('/', '/'), ('b', '\x08'), ('f', '\x0c'), ('n', '\n'), ('r', '\r'),
    ('t', '\t')] : List (Char × Char)).lookup c

def stringRest? : (fuel : Nat) → Text → Option (Text × Text)
  | 0, _ => none
  | _ + 1, [] => none
  | _ + 1, '"' :: t => some ([], t)
  | fuel + 1, '\\' :: 'u' :: t => do
    let (c, t) ← unicodeEscape? t
    let (text, t) ← stringRest? fuel t
    return (c :: text, t)
  | fuel + 1, '\\' :: c :: t => do
    let c ← escapedChar? c
    let (text, t) ← stringRest? fuel t
    return (c :: text, t)
  | fuel + 1, c :: t => do
    if c.toNat < 32 ∨ c = '\\' then none
    else
      let (text, t) ← stringRest? fuel t
      return (c :: text, t)

def isNumberChar (c : Char) : Bool := isDigit c || ("+-.eE" : Text).elem c

/-- How many lists and tables a value may be inside of. -/
def deepest : Nat := 127

mutual

/-- A value with at most `depth` lists and tables inside each other. -/
def value? : (fuel : Nat) → (depth : Nat) → Text → Option (Value × Text)
  | 0, _, _ => none
  | fuel + 1, depth, t =>
    match skipSpace t, depth with
    | '\x7b' :: t, depth + 1 => (members? fuel depth true (skipSpace t)).map fun (members, t) =>
        (.ofMembers members, t)
    | '[' :: t, depth + 1 => (items? fuel depth true (skipSpace t)).map fun (items, t) =>
        (.list items, t)
    | '"' :: t, _ => (stringRest? (t.length + 1) t).map fun (text, t) => (.text text, t)
    | t, _ =>
      match afterStart? "null" t, afterStart? "true" t, afterStart? "false" t with
      | some t, _, _ => some (.null, t)
      | _, some t, _ => some (.bool true, t)
      | _, _, some t => some (.bool false, t)
      | none, none, none =>
        ((Number.parse? (t.takeWhile isNumberChar)).bind Number.value?).map
          (·, t.dropWhile isNumberChar)

/-- The items of a list up to its end; the first one has no comma before it. -/
def items? : (fuel : Nat) → (depth : Nat) → (first : Bool) → Text → Option (List Value × Text)
  | 0, _, _, _ => none
  | fuel + 1, depth, first, t =>
    match t, first with
    | ']' :: t, _ => some ([], t)
    | ',' :: t, false => item? fuel depth t
    | _, false => none
    | t, true => item? fuel depth t

def item? : (fuel : Nat) → (depth : Nat) → Text → Option (List Value × Text)
  | 0, _, _ => none
  | fuel + 1, depth, t => do
    let (value, t) ← value? fuel depth t
    let (items, t) ← items? fuel depth false (skipSpace t)
    return (value :: items, t)

def members? : (fuel : Nat) → (depth : Nat) → (first : Bool) → Text →
    Option (List (Text × Value) × Text)
  | 0, _, _, _ => none
  | fuel + 1, depth, first, t =>
    match t, first with
    | '\x7d' :: t, _ => some ([], t)
    | ',' :: t, false => member? fuel depth (skipSpace t)
    | _, false => none
    | t, true => member? fuel depth t

def member? : (fuel : Nat) → (depth : Nat) → Text → Option (List (Text × Value) × Text)
  | 0, _, _ => none
  | fuel + 1, depth, t => do
    let t ← afterStart? "\"" t
    let (key, t) ← stringRest? (t.length + 1) t
    let t ← afterStart? ":" (skipSpace t)
    let (value, t) ← value? fuel depth t
    let (members, t) ← members? fuel depth false (skipSpace t)
    return ((key, value) :: members, t)

end

/-- The value of a text that holds nothing else. -/
def parse? (t : Text) : Option Value := do
  let (value, rest) ← value? (3 * t.length + 3) deepest t
  if (skipSpace rest).isEmpty then some value else none

end GuidAtlas.Json
