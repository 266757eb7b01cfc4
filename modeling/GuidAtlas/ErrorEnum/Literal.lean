import GuidAtlas.Text.Identifier

/-!
Literals of source text: strings, characters and numbers, each with an optional suffix. Every reader
gives back what follows the literal.
-/

namespace GuidAtlas.ErrorEnum

open Text

def readName? : Text → Option (Text × Text)
  | [] => none
  | c :: t =>
    if startsIdentifier c then
      some (c :: t.takeWhile continuesIdentifier, t.dropWhile continuesIdentifier)
    else none

namespace Literal

inductive StringKind where
  | text
  | bytes
  /-- Text that ends with its only zero. -/
  | zeroEnded
  deriving DecidableEq, Repr

namespace StringKind

def allows : StringKind → Char → Bool
  | text, _ => true
  | bytes, c => c.toNat < 128
  | zeroEnded, c => c ≠ '\x00'

end StringKind

def skipSuffix (t : Text) : Text :=
  match readName? t with
  | some (_, rest) => rest
  | none => t

def isHexDigit (c : Char) : Bool := (digitValue? c).isSome

/-- What follows a code point in braces, which has up to six digits; the code point is not a zero
where zeros are not allowed. -/
def afterBracedCode? (zeroAllowed : Bool) : (digits value : Nat) → Text → Option Text
  | _, _, [] => none
  | digits, value, c :: t =>
    match digitValue? c with
    | some d => if digits = 6 then none
      else afterBracedCode? zeroAllowed (digits + 1) (value * 16 + d) t
    | none =>
      if digits = 0 then none
      else if c = '_' then afterBracedCode? zeroAllowed digits value t
      else if c = '\x7d' && value.isValidChar && (zeroAllowed || value ≠ 0) then some t
      else none

def isSimpleEscape (kind : StringKind) (c : Char) : Bool :=
  ("nrt\\\"\x27" : Text).elem c || (c = '0' && kind ≠ .zeroEnded)

def afterEscape? (kind : StringKind) : Text → Option Text
  | 'x' :: a :: b :: t =>
    if !isHexDigit a || !isHexDigit b then none
    else match kind with
      | .text => if a ≤ '7' then some t else none
      | .bytes => some t
      | .zeroEnded => if a = '0' && b = '0' then none else some t
  | 'u' :: '\x7b' :: t =>
    if kind = .bytes then none else afterBracedCode? (kind = .text) 0 0 t
  | c :: t => if isSimpleEscape kind c then some t else none
  | [] => none

/-- What follows the blanks after a line break that is escaped. -/
def afterBreak? : Text → Option Text
  | [] => none
  | '\r' :: '\n' :: t => afterBreak? t
  | '\r' :: _ => none
  | c :: t => if c = ' ' || c = '\t' || c = '\n' then afterBreak? t else some (c :: t)

def afterString? (kind : StringKind) : (fuel : Nat) → Text → Option Text
  | 0, _ => none
  | _ + 1, [] => none
  | _ + 1, '"' :: t => some (skipSuffix t)
  | fuel + 1, '\r' :: '\n' :: t => afterString? kind fuel t
  | _ + 1, '\r' :: _ => none
  | fuel + 1, '\\' :: t => do
    let rest ← match t with
      | '\n' :: _ | '\r' :: _ => afterBreak? t
      | _ => afterEscape? kind t
    afterString? kind fuel rest
  | fuel + 1, c :: t => if kind.allows c then afterString? kind fuel t else none

/-- What follows the end of a raw string, a quote with as many hashes as at its start. -/
def afterRaw? (kind : StringKind) (hashes : Text) : Text → Option Text
  | [] => none
  | '\r' :: '\n' :: t => afterRaw? kind hashes t
  | '\r' :: _ => none
  | c :: t =>
    match if c = '"' then afterStart? hashes t else none with
    | some rest => some (skipSuffix rest)
    | none => if kind.allows c then afterRaw? kind hashes t else none

def afterRawStart? (kind : StringKind) (t : Text) : Option Text :=
  let hashes := t.takeWhile (· = '#')
  match t.dropWhile (· = '#') with
  | '"' :: rest => if hashes.length ≤ 255 then afterRaw? kind hashes rest else none
  | _ => none

def afterCharacter? (kind : StringKind) (t : Text) : Option Text := do
  let rest ← match t with
    | '\\' :: t => afterEscape? kind t
    | c :: t => if kind.allows c then some t else none
    | [] => none
  (afterStart? ['\x27'] rest).map skipSuffix

/-- A number ends before anything that a name does not go on with. -/
def afterNumberSuffix? (t : Text) : Option Text :=
  let rest := skipSuffix t
  match rest with
  | c :: _ => if continuesIdentifier c then none else some rest
  | [] => some rest

def isDecimalDigit (c : Char) : Bool := '0' ≤ c && c ≤ '9'

def isDigitOrGap (c : Char) : Bool := isDecimalDigit c || c = '_'

def afterExponent? (t : Text) : Option Text :=
  let rest := match t.dropWhile (· = '_') with
    | '+' :: rest | '-' :: rest => rest
    | rest => rest
  if (rest.takeWhile isDigitOrGap).any isDecimalDigit then some (rest.dropWhile isDigitOrGap)
  else none

def afterFloatDigits? : Text → Option Text
  | [] => none
  | c :: t =>
    if !isDecimalDigit c then none
    else match t.dropWhile isDigitOrGap with
      | '.' :: rest =>
        if rest.head?.any fun c => c = '.' || startsIdentifier c then none
        else match rest.dropWhile isDigitOrGap with
          | e :: tail =>
            if e = 'e' || e = 'E' then some ((afterExponent? tail).getD (e :: tail))
            else some (e :: tail)
          | [] => some []
      | e :: rest => if e = 'e' || e = 'E' then afterExponent? rest else none
      | [] => none

/-- The base that a number is written in and what follows the sign of the base. -/
def baseOf : Text → Nat × Text
  | '0' :: 'x' :: t => (16, t)
  | '0' :: 'o' :: t => (8, t)
  | '0' :: 'b' :: t => (2, t)
  | t => (10, t)

/-- The number that a literal without a point, an exponent and a suffix stands for. -/
def wholeNumber? (t : Text) : Option Nat :=
  let (base, digits) := baseOf t
  number? base (digits.filter (· ≠ '_'))

/-- What follows the digits of a whole number; a decimal digit beyond the base is refused. -/
def afterDigits? (base : Nat) : (any : Bool) → Text → Option Text
  | any, [] => if any then some [] else none
  | any, c :: t =>
    if c = '_' then
      if !any && base = 10 then none else afterDigits? base any t
    else match digitValue? c with
      | some d =>
        if d < base then afterDigits? base true t
        else if isDecimalDigit c then none
        else if any then some (c :: t) else none
      | none => if any then some (c :: t) else none

def afterNumber? (t : Text) : Option Text :=
  match (afterFloatDigits? t).bind afterNumberSuffix? with
  | some rest => some rest
  | none =>
    let (base, digits) := baseOf t
    (afterDigits? base false digits).bind afterNumberSuffix?

def after? (t : Text) : Option Text :=
  let string (kind : StringKind) (rest : Text) : Option Text :=
    afterString? kind (rest.length + 1) rest
  match t with
  | '"' :: rest => string .text rest
  | 'r' :: rest => afterRawStart? .text rest
  | 'b' :: '"' :: rest => string .bytes rest
  | 'b' :: 'r' :: rest => afterRawStart? .bytes rest
  | 'c' :: '"' :: rest => string .zeroEnded rest
  | 'c' :: 'r' :: rest => afterRawStart? .zeroEnded rest
  | 'b' :: '\x27' :: rest => afterCharacter? .bytes rest
  | '\x27' :: rest => afterCharacter? .text rest
  | t => afterNumber? t

end Literal

end GuidAtlas.ErrorEnum
