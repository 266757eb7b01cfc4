import GuidAtlas.Text.Case

/-!
Binary floating point numbers of 53 bits, read from decimals with correct rounding and written with
the fewest digits that read back.
-/

namespace GuidAtlas

open Text

/-- A finite number is `significand * 2 ^ exponent`, with 53 bits or the least exponent. -/
inductive Binary64 where
  | finite (negative : Bool) (significand : Nat) (exponent : Int)
  | infinite (negative : Bool)
  | nan
  deriving DecidableEq, Repr

namespace Binary64

def leastExponent : Int := -1074

def greatestExponent : Int := 971

/-- `n / d` rounded to an integer, a half to the even one. -/
def roundHalfEven (n d : Nat) : Nat :=
  let q := n / d
  let twice := 2 * (n % d)
  if twice < d then q else if d < twice then q + 1 else if q % 2 = 0 then q else q + 1

def scaleDown (n d : Nat) (exponent : Int) : Nat × Nat :=
  match exponent with
  | .ofNat k => (n, d * Nat.pow 2 k)
  | .negSucc k => (n * Nat.pow 2 (k + 1), d)

/-- The number nearest to the positive ratio `n / d`. -/
def ofRatio (negative : Bool) (n d : Nat) : Binary64 :=
  if n = 0 then .finite negative 0 leastExponent
  else
    let guess : Int := (Nat.log2 n : Int) - Nat.log2 d - 52
    let (a, b) := scaleDown n d guess
    let exponent := max leastExponent (if a / b < Nat.pow 2 52 then guess - 1 else guess)
    let (a, b) := scaleDown n d exponent
    let rounded := roundHalfEven a b
    let (significand, exponent) :=
      if rounded = Nat.pow 2 53 then (Nat.pow 2 52, exponent + 1) else (rounded, exponent)
    if greatestExponent < exponent then .infinite negative
    else .finite negative significand exponent

/-- `digits * 10 ^ exponent`; exponents that lead far out of range are not computed. -/
def ofDecimal (negative : Bool) (digits : Nat) (exponent : Int) : Binary64 :=
  let magnitude : Int := (decimal digits).length + exponent
  if digits = 0 || magnitude < -400 then .finite negative 0 leastExponent
  else if 400 < magnitude then .infinite negative
  else match exponent with
    | .ofNat k => ofRatio negative (digits * Nat.pow 10 k) 1
    | .negSucc k => ofRatio negative digits (Nat.pow 10 (k + 1))

/-- Four times a positive number and four times the ends of the interval of reals that round to it,
as numerators over one denominator. -/
structure Interval where
  low : Nat
  value : Nat
  high : Nat
  denominator : Nat
  closed : Bool

def interval (significand : Nat) (exponent : Int) : Interval :=
  let narrow := significand = Nat.pow 2 52 && leastExponent < exponent
  let low := 4 * significand - (if narrow then 1 else 2)
  let high := 4 * significand + 2
  let closed := significand % 2 = 0
  match exponent with
  | .ofNat k => ⟨low * Nat.pow 2 k, 4 * significand * Nat.pow 2 k, high * Nat.pow 2 k, 4, closed⟩
  | .negSucc k => ⟨low, 4 * significand, high, 4 * Nat.pow 2 (k + 1), closed⟩

/-- Whether `digits * 10 ^ power` reads back as the number of an interval. -/
def Interval.has (i : Interval) (digits : Nat) (power : Int) : Bool :=
  let (n, d) := match power with
    | .ofNat k => (digits * Nat.pow 10 k * i.denominator, 1)
    | .negSucc k => (digits * i.denominator, Nat.pow 10 (k + 1))
  if i.closed then i.low * d ≤ n && n ≤ i.high * d else i.low * d < n && n < i.high * d

/-- Where a half is rounded to. -/
inductive Tie where
  | up
  | even
  deriving DecidableEq, Repr

def Tie.roundsUp (tie : Tie) (n d : Nat) : Bool :=
  let twice := 2 * (n % d)
  d < twice || (d = twice && (tie = .up || n / d % 2 = 1))

/-- The value of an interval in units of `10 ^ power`, as a quotient and whether it is rounded
up. -/
def Interval.inUnits (i : Interval) (tie : Tie) (power : Int) : Nat × Bool :=
  let (n, d) := match power with
    | .ofNat k => (i.value, i.denominator * Nat.pow 10 k)
    | .negSucc k => (i.value * Nat.pow 10 (k + 1), i.denominator)
  (n / d, tie.roundsUp n d)

/-- Digits of a number and the power of ten they count, on the coarsest grid of the given powers
that has a number reading back. -/
def shortestFrom (i : Interval) (tie : Tie) : (grids : Nat) → (power : Int) → Nat × Int
  | 0, power => ((i.inUnits tie power).1, power)
  | grids + 1, power =>
    let (below, up) := i.inUnits tie power
    let near := if up then [below + 1, below] else [below, below + 1]
    match near.find? fun digits => digits ≠ 0 && i.has digits power with
    | some digits => (digits, power)
    | none => shortestFrom i tie grids (power - 1)

/-- The highest power of ten that a positive number can have a first digit at. -/
def topPower (i : Interval) : Int :=
  ((decimal (i.value / i.denominator)).length : Int) - 1 -
    (if i.value < i.denominator then (decimal (i.denominator / i.value)).length else 0)

def shortest (tie : Tie) (significand : Nat) (exponent : Int) : Nat × Int :=
  let i := interval significand exponent
  shortestFrom i tie 20 (topPower i + 1)

/-- `digits * 10 ^ power` written without an exponent. -/
def positional (digits : Nat) (power : Int) : Text :=
  match power with
  | .ofNat k => decimal digits ++ List.replicate k '0'
  | .negSucc k =>
    let t := decimal digits
    let t := List.replicate (k + 2 - t.length) '0' ++ t
    t.take (t.length - (k + 1)) ++ '.' :: t.drop (t.length - (k + 1))

def pointed (digits : Nat) (power : Int) : Text :=
  let t := positional digits power
  if t.elem '.' then t else t ++ ".0"

/-- `digits * 10 ^ power` written with a point, and with an exponent below a hundred-thousandth and
from ten to the sixteenth on. Then the point stands behind the first of several digits. -/
def scientific (digits : Nat) (power : Int) : Text :=
  let t := decimal digits
  let exponent := power + t.length - 1
  if -5 ≤ exponent && exponent ≤ 15 then pointed digits power
  else
    let fraction := if t.length = 1 then [] else '.' :: t.drop 1
    let sign := if exponent < 0 then '-' else '+'
    t.take 1 ++ fraction ++ 'e' :: sign :: decimal exponent.natAbs

/-- The shortest text that reads back, as `write` writes its digits. -/
def textWith (tie : Tie) (write : (digits : Nat) → (power : Int) → Text) : Binary64 → Text
  | .nan => "NaN"
  | .infinite negative => if negative then "-inf" else "inf"
  | .finite negative significand exponent =>
    let (digits, power) := if significand = 0 then (0, 0) else shortest tie significand exponent
    if negative then '-' :: write digits power else write digits power

/-- The shortest text with neither exponent nor needless point. -/
def text : Binary64 → Text := textWith .up positional

def pointedText : Binary64 → Text := textWith .up pointed

def scientificText : Binary64 → Text := textWith .even scientific

def isFinite : Binary64 → Bool
  | .finite _ _ _ => true
  | _ => false

def isZero : Binary64 → Bool
  | .finite _ significand _ => significand = 0
  | _ => false

def isNegative : Binary64 → Bool
  | .finite negative _ _ => negative
  | .infinite negative => negative
  | .nan => false

def ratio (significand : Nat) (exponent : Int) : Nat × Nat := scaleDown significand 1 (-exponent)

def mul : Binary64 → Binary64 → Binary64
  | .nan, _ | _, .nan => .nan
  | .finite s m e, .finite t n f =>
    let (a, b) := ratio (m * n) (e + f)
    ofRatio (s != t) a b
  | x, y =>
    if x.isZero || y.isZero then .nan else .infinite (x.isNegative != y.isNegative)

def div : Binary64 → Binary64 → Binary64
  | .nan, _ | _, .nan | .infinite _, .infinite _ => .nan
  | .infinite s, .finite t _ _ => .infinite (s != t)
  | .finite s _ _, .infinite t => .finite (s != t) 0 leastExponent
  | .finite s m e, .finite t n f =>
    if n = 0 then if m = 0 then .nan else .infinite (s != t)
    else
      let (a, b) := ratio m (e - f)
      ofRatio (s != t) a (b * n)

/-- The nearest integer, a half away from zero, kept between zero and `bound`. -/
def roundTo (bound : Nat) : Binary64 → Nat
  | .nan => 0
  | .infinite negative => if negative then 0 else bound
  | .finite negative significand exponent =>
    if negative then 0
    else match exponent with
      | .ofNat k => min bound (significand * Nat.pow 2 k)
      | .negSucc k => min bound ((2 * significand + Nat.pow 2 (k + 1)) / Nat.pow 2 (k + 2))

/-- Digits with at most one point among them, as an integer and the power of ten of its last
digit. -/
def mantissa? (t : Text) : Option (Nat × Int) :=
  match splitAt '.' t with
  | [whole] => (number? 10 whole).map (·, 0)
  | [whole, part] => (number? 10 (whole ++ part)).map (·, -(part.length : Int))
  | _ => none

def signedInteger? : Text → Option Int
  | '-' :: t => (number? 10 t).map fun n => -(n : Int)
  | '+' :: t => (number? 10 t).map Int.ofNat
  | t => (number? 10 t).map Int.ofNat

/-- Reads a number without a sign: infinity, no number, or digits with a point and an exponent. -/
def magnitude? (negative : Bool) (t : Text) : Option Binary64 :=
  let name := lowerAscii t
  if name = "inf".toList || name = "infinity".toList then some (.infinite negative)
  else if name = "nan".toList then some .nan
  else do
    let (digits, power) ← mantissa? (name.takeWhile (· ≠ 'e'))
    let shift ← match name.dropWhile (· ≠ 'e') with
      | [] => some 0
      | _ :: shift => signedInteger? shift
    return ofDecimal negative digits (power + shift)

def parse? : Text → Option Binary64
  | '-' :: t => magnitude? true t
  | '+' :: t => magnitude? false t
  | t => magnitude? false t

end Binary64

end GuidAtlas
