import GuidAtlas.Data.Value

/-!
The numbers of JSON text. Digits count as far as they fit into 64 bits. What remains is a power of
ten, by which the number of these digits is multiplied or divided after it was rounded.
-/

namespace GuidAtlas.Json

open Text

def isDigit (c : Char) : Bool := '0' ≤ c && c ≤ '9'

structure Number where
  negative : Bool
  whole : Text
  fraction : Option Text
  exponent : Option Int

namespace Number

def fraction? : Text → Option (Option Text × Text)
  | '.' :: t =>
    match t.takeWhile isDigit with
    | [] => none
    | digits => some (some digits, t.dropWhile isDigit)
  | t => some (none, t)

def exponent? : Text → Option (Option Int)
  | [] => some none
  | c :: t => if c = 'e' || c = 'E' then (Binary64.signedInteger? t).map some else none

/-- A number has no needless zeros, and digits on both sides of a point and after an exponent
mark. -/
def parse? (t : Text) : Option Number := do
  let (negative, t) := match t with
    | '-' :: t => (true, t)
    | t => (false, t)
  let whole := t.takeWhile isDigit
  if whole.isEmpty || (whole.head? = some '0' && whole ≠ ['0']) then none
  else
    let (fraction, t) ← fraction? (t.dropWhile isDigit)
    let exponent ← exponent? t
    return ⟨negative, whole, fraction, exponent⟩

/-- Appends digits to a number while it stays below `2 ^ 64`, and gives those that are left. -/
def appendDigits (n : Nat) : Text → Nat × Text
  | [] => (n, [])
  | c :: t =>
    match digitValue? c with
    | some d =>
      if n * 10 + d < 0x10000000000000000 then appendDigits (n * 10 + d) t else (n, c :: t)
    | none => (n, c :: t)

def greatestPower : Nat := 308

def powerOfTen (k : Nat) : Binary64 := .ofDecimal false 1 k

/-- `x * 10 ^ power`, each product and quotient rounded, unless it is out of range. -/
def scale? (x : Binary64) (power : Int) : Option Binary64 :=
  if power.natAbs ≤ greatestPower then
    if 0 ≤ power then (some (x.mul (powerOfTen power.natAbs))).filter (·.isFinite)
    else some (x.div (powerOfTen power.natAbs))
  else if x.isZero then some x
  else if 0 ≤ power then none
  else scale? (x.div (powerOfTen greatestPower)) (power + greatestPower)
termination_by power.natAbs
decreasing_by
  unfold greatestPower at *
  omega

def float? (number : Number) : Option Binary64 :=
  let (n, left) := appendDigits 0 number.whole
  let fraction := number.fraction.getD []
  let (n, unread) := appendDigits n fraction
  scale? (.ofRatio number.negative n 1)
    (left.length - (fraction.length - unread.length : Nat) + number.exponent.getD 0)

/-- The integer that a number without point and exponent is, if it fits into 64 bits; a negative
zero is none. -/
def integer? (number : Number) : Option Int :=
  match number.fraction, number.exponent, appendDigits 0 number.whole with
  | none, none, (n, []) =>
    if !number.negative then some n
    else if 0 < n ∧ n ≤ 0x8000000000000000 then some (-n)
    else none
  | _, _, _ => none

def value? (number : Number) : Option Value :=
  match number.integer? with
  | some n => some (.integer n)
  | none => number.float?.map .float

end Number

end GuidAtlas.Json
