import GuidAtlas.Data.Moment
import GuidAtlas.Data.Value

/-!
The words of configuration text: spaces, comments, keys, quoted texts and plain values.
-/

namespace GuidAtlas.Toml

open Text

def isSpace (c : Char) : Bool := c = ' ' || c = '\t'

def skipSpace (t : Text) : Text := t.dropWhile isSpace

/-- Characters that may stand in comments and in texts on one line. -/
def isInline (c : Char) : Bool := c = '\t' || (32 ≤ c.toNat && c.toNat ≠ 127)

def skipComment (t : Text) : Text :=
  match t with
  | '#' :: t => t.dropWhile isInline
  | t => t

def lineEnd? : Text → Option (Text × Text)
  | '\n' :: t => some (['\n'], t)
  | '\r' :: '\n' :: t => some (['\r', '\n'], t)
  | _ => none

def afterLineEnd? (t : Text) : Option Text := (lineEnd? t).map (·.2)

/-- Passes over spaces and line ends and, where they are `welcome`, comments. -/
def skipLines (welcome : Bool) : (fuel : Nat) → Text → Text
  | 0, t => t
  | fuel + 1, t =>
    let t := skipSpace t
    let t := if welcome then skipComment t else t
    match afterLineEnd? t with
    | some t => skipLines welcome fuel t
    | none => t

def lineRest? (t : Text) : Option Text :=
  let t := skipComment (skipSpace t)
  if t.isEmpty || (afterLineEnd? t).isSome then some t else none

/-! Quoted texts, read after the opening quotes. -/

def escapedChar? (c : Char) : Option Char :=
  ([('b', '\x08'), ('t', '\t'), ('n', '\n'), ('f', '\x0c'), ('r', '\r'),
    ('e', '\x1b'), ('"', '"'), ('\\', '\\')] : List (Char × Char)).lookup c

def codeChar? (width : Nat) (t : Text) : Option (Char × Text) := do
  let digits := t.take width
  if digits.length < width then none
  else
    let n ← number? 16 digits
    if n.isValidChar then some (Char.ofNat n, t.drop width) else none

def escape? : Text → Option (Char × Text)
  | 'x' :: t => codeChar? 2 t
  | 'u' :: t => codeChar? 4 t
  | 'U' :: t => codeChar? 8 t
  | c :: t => (escapedChar? c).map (·, t)
  | [] => none

def basicRest? : (fuel : Nat) → Text → Option (Text × Text)
  | 0, _ => none
  | _ + 1, [] => none
  | _ + 1, '"' :: t => some ([], t)
  | fuel + 1, '\\' :: t => do
    let (c, t) ← escape? t
    let (text, t) ← basicRest? fuel t
    return (c :: text, t)
  | fuel + 1, c :: t => do
    if isInline c then
      let (text, t) ← basicRest? fuel t
      return (c :: text, t)
    else none

def literalRest? : Text → Option (Text × Text)
  | [] => none
  | '\'' :: t => some ([], t)
  | c :: t => do
    if isInline c then
      let (text, t) ← literalRest? t
      return (c :: text, t)
    else none

/-- The end of a text in three quotes; up to two quotes before the last three belong to the text. -/
def closing? (quote : Char) (t : Text) : Option (Text × Text) :=
  let count := min 5 (t.takeWhile (· = quote)).length
  if count < 3 then none else some (List.replicate (count - 3) quote, t.drop count)

/-- A text in three quotes, which may hold line ends. A backslash at a line's end joins the
lines. -/
def longRest? (quote : Char) (escapes : Bool) : (fuel : Nat) → Text → Option (Text × Text)
  | 0, _ => none
  | fuel + 1, t =>
    match closing? quote t, lineEnd? t, t with
    | some closed, _, _ => some closed
    | none, some (lineEnd, t), _ => do
      let (text, t) ← longRest? quote escapes fuel t
      return (lineEnd ++ text, t)
    | none, none, [] => none
    | none, none, c :: t => do
      if escapes && c = '\\' then
        match afterLineEnd? (skipSpace t) with
        | some rest => longRest? quote escapes fuel (skipLines false rest.length rest)
        | none =>
          let (c, t) ← escape? t
          let (text, t) ← longRest? quote escapes fuel t
          return (c :: text, t)
      else if isInline c then
        let (text, t) ← longRest? quote escapes fuel t
        return (c :: text, t)
      else none

/-- A quoted text from its opening quotes on; a line end right after three quotes does not count. -/
def quotedText? : Text → Option (Text × Text)
  | '"' :: '"' :: '"' :: t => longRest? '"' true (t.length + 1) ((afterLineEnd? t).getD t)
  | '\'' :: '\'' :: '\'' :: t => longRest? '\'' false (t.length + 1) ((afterLineEnd? t).getD t)
  | '"' :: t => basicRest? (t.length + 1) t
  | '\'' :: t => literalRest? t
  | _ => none

/-! Keys. -/

def isBareKeyChar (c : Char) : Bool := (c.toNat < 128 && c.isAlphanum) || c = '_' || c = '-'

def key? : Text → Option (Text × Text)
  | '"' :: t => basicRest? (t.length + 1) t
  | '\'' :: t => literalRest? t
  | t =>
    match t.takeWhile isBareKeyChar with
    | [] => none
    | key => some (key, t.dropWhile isBareKeyChar)

/-- How many keys a dotted key may have, and how many lists and tables a value may be inside of. -/
def deepest : Nat := 80

/-- A dotted key of at most `count` keys, with the spaces around it. -/
def pathOf? : (count : Nat) → Text → Option (List Text × Text)
  | 0, _ => none
  | count + 1, t => do
    let (key, t) ← key? (skipSpace t)
    match skipSpace t with
    | '.' :: t =>
      let (path, t) ← pathOf? count t
      return (key :: path, t)
    | t => return ([key], t)

def path? (t : Text) : Option (List Text × Text) := pathOf? deepest t

/-! Plain values. -/

def isDigitOf (base : Nat) (c : Char) : Bool := (digitValue? c).any (· < base)

/-- Removes underscores, which stand between digits only. -/
def withoutUnderscores? (base : Nat) : Text → Option Text
  | [] => some []
  | a :: '_' :: b :: t =>
    if isDigitOf base a ∧ isDigitOf base b then (withoutUnderscores? base (b :: t)).map (a :: ·)
    else none
  | c :: t => if c = '_' then none else (withoutUnderscores? base t).map (c :: ·)

def isWhole (t : Text) : Bool :=
  t = ['0'] || (t.all (isDigitOf 10) && t.head?.any (· ≠ '0'))

def unsigned (t : Text) : Bool × Text :=
  match t with
  | '-' :: t => (true, t)
  | '+' :: t => (false, t)
  | t => (false, t)

/-- An integer, of another base than ten only without a sign. -/
def integer? (t : Text) : Option Int := do
  let inBase (base : Nat) (digits : Text) : Option Nat :=
    (withoutUnderscores? base digits).bind (number? base)
  let n : Int ← match t with
    | '0' :: 'x' :: digits => (inBase 16 digits).map Int.ofNat
    | '0' :: 'o' :: digits => (inBase 8 digits).map Int.ofNat
    | '0' :: 'b' :: digits => (inBase 2 digits).map Int.ofNat
    | t => do
      let (negative, digits) := unsigned t
      let digits ← withoutUnderscores? 10 digits
      let n ← if isWhole digits then number? 10 digits else none
      some (if negative then -(n : Int) else n)
  if -0x8000000000000000 ≤ n ∧ n < 0x8000000000000000 then some n else none

def isFloat (t : Text) : Bool :=
  let digits := (unsigned t).2
  let mantissa := digits.takeWhile fun c => c ≠ 'e' && c ≠ 'E'
  match splitAt '.' mantissa with
  | [whole] => isWhole whole && mantissa ≠ digits
  | [whole, part] => isWhole whole && !part.isEmpty
  | _ => false

/-- A number with a point or an exponent, or one of the names of the numbers that have no digits. -/
def float? (t : Text) : Option Binary64 := do
  let name := (unsigned t).2
  if name = "inf".toList || name = "nan".toList then Binary64.parse? t
  else
    let t ← withoutUnderscores? 10 t
    if isFloat t then (Binary64.parse? t).filter (·.isFinite) else none

def isScalarChar (c : Char) : Bool := isBareKeyChar c || c = '+' || c = '.' || c = ':'

/-- The characters of a plain value. A blank may stand between a date and a time. -/
def scalarWord (t : Text) : Text × Text :=
  let word := t.takeWhile isScalarChar
  match t.dropWhile isScalarChar with
  | ' ' :: rest =>
    match rest.takeWhile isScalarChar with
    | [] => (word, ' ' :: rest)
    | time => (word ++ ' ' :: time, rest.dropWhile isScalarChar)
  | rest => (word, rest)

/-- A truth value, a number, or a date or a time, which is the text of it. -/
def scalar? (t : Text) : Option Value :=
  if t = "true".toList then some (.bool true)
  else if t = "false".toList then some (.bool false)
  else match integer? t, float? t with
    | some n, _ => some (.integer n)
    | none, some x => some (.float x)
    | none, none => (Moment.parse? t).map fun moment => .text moment.text

end GuidAtlas.Toml
